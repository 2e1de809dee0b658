import ResourceProvider.Document.Basic
import ResourceProvider.Json.Codec
/-!
# Documents as text

One codec for each record of a document. A column flag is read from a truth value, from null, or
from an object that may name a conflict policy; it is written by its state.
-/
namespace ResourceProvider.Document

open Json Json.Fields

/-! ## Names -/

def typeCodec : Codec DataType :=
  .choice DataType.name [.integer, .real, .text, .blob]

/-- Every conflict policy, in document order. -/
def policies : List ConflictPolicy :=
  [.none, .rollback, .abort, .fail, .ignore, .replace]

def policyCodec : Codec ConflictPolicy :=
  .choice ConflictPolicy.name policies

def actionCodec : Codec ForeignKeyAction :=
  .choice ForeignKeyAction.name [.none, .noAction, .restrict, .setNull, .setDefault, .cascade]

def operationCodec : Codec Operation :=
  .choice Operation.name Operation.all

/-- Every slot, in document order. -/
def slots : List Slot :=
  [.whereFragments, .joins, .insertUri, .notify .insert, .notify .bulkInsert, .notify .update,
   .notify .delete]

def slotCodec : Codec Slot :=
  .choice Slot.name slots

/-! ## Column flags -/

/-- The flag that a value stands for. -/
def flagOfValue : Value → Except Fault (Option ConflictPolicy)
  | .bool true => .ok (some .none)
  | .bool false => .ok none
  | .null => .ok none
  | .obj fields =>
    let rest := fields.filter fun f => f.1 ≠ "on_conflict"
    match fields.lookup "on_conflict" with
    | some v =>
      match chooseFrom ConflictPolicy.name policies v with
      | .error e => .error e
      | .ok p => if rest = [] then .ok (some p) else .error (.flagKeys (rest.map (·.1)))
    | none => if rest = [] then .ok (some .none) else .error (.flagKeys (rest.map (·.1)))
  | v => .error (.flagShape v)

/-- How many records and lists enclose a column flag. -/
def flagDepth : Nat := 6

def flagCodec : Codec (Option ConflictPolicy) where
  read cs :=
    match readValue (maxDepth - flagDepth) cs with
    | .error e => .error e
    | .ok (v, rest) => (flagOfValue v).map fun f => (f, rest)
  write
    | none => textChars "Off"
    | some p => '\x7b' :: textChars "On" ++ ':' :: textChars p.name ++ ['\x7d']

/-! ## The database -/

def referenceCodec : Codec Reference :=
  .record "ReferencesConfig"
    (required "table" .text <| required "column" .text <|
      defaulted "on_delete" actionCodec .none <| defaulted "on_update" actionCodec .none .done)
    (fun (t, c, d, u, _) => ⟨t, c, d, u⟩)
    (fun r => (r.table, r.column, r.onDelete, r.onUpdate, ()))

def columnCodec : Codec Column :=
  .record "ColumnConfig"
    (required "name" .text <| required "type" typeCodec <|
      defaulted "not_null" flagCodec none <| defaulted "primary_key" flagCodec none <|
      defaulted "unique" flagCodec none <| defaulted "auto_increment" .bool false <|
      maybe "default" .text <| maybe "check" .text <| maybe "references" referenceCodec .done)
    (fun (n, t, nn, pk, u, ai, d, c, r, _) => ⟨n, t, nn, pk, u, ai, d, c, r⟩)
    (fun c => (c.name, c.type, c.notNull, c.primaryKey, c.unique, c.autoIncrement, c.default,
      c.check, c.references, ()))

def keyCodec : Codec Key :=
  .record "KeyConstraintConfig"
    (maybe "name" .text <| required "columns" (.list .text) <|
      defaulted "on_conflict" policyCodec .none .done)
    (fun (n, c, p, _) => ⟨n, c, p⟩)
    (fun k => (k.name, k.columns, k.onConflict, ()))

def checkCodec : Codec Check :=
  .record "CheckConstraintConfig"
    (maybe "name" .text <| required "expression" .text .done)
    (fun (n, e, _) => ⟨n, e⟩)
    (fun c => (c.name, c.expression, ()))

def foreignKeyCodec : Codec ForeignKey :=
  .record "ForeignKeyConstraintConfig"
    (maybe "name" .text <| required "columns" (.list .text) <|
      required "referenced_table" .text <| required "referenced_columns" (.list .text) <|
      defaulted "on_delete" actionCodec .none <| defaulted "on_update" actionCodec .none .done)
    (fun (n, c, t, r, d, u, _) => ⟨n, c, t, r, d, u⟩)
    (fun k => (k.name, k.columns, k.table, k.referenced, k.onDelete, k.onUpdate, ()))

def tableCodec : Codec Table :=
  .record "TableConfig"
    (required "name" .text <| defaulted "if_not_exists" .bool false <|
      required "columns" (.list columnCodec) <| maybe "primary_key" keyCodec <|
      defaulted "unique" (.list keyCodec) [] <| defaulted "check" (.list checkCodec) [] <|
      defaulted "foreign_keys" (.list foreignKeyCodec) [] .done)
    (fun (n, i, c, pk, u, ch, fk, _) => ⟨n, i, c, pk, u, ch, fk⟩)
    (fun t => (t.name, t.ifNotExists, t.columns, t.primaryKey, t.unique, t.checks, t.foreignKeys,
      ()))

def databaseCodec : Codec Database :=
  .record "DatabaseConfig"
    (required "name" .text <| required "version" (.whole "u32" 0xFFFFFFFF) <|
      required "tables" (.list tableCodec) <| defaulted "exec_on_create" (.list .text) [] .done)
    (fun (n, v, t, e, _) => ⟨n, v, t, e⟩)
    (fun d => (d.name, d.version, d.tables, d.execOnCreate, ()))

/-! ## The provider -/

def bindingCodec : Codec Binding :=
  .record "BindingConfig"
    (required "segment" (.whole "usize" 0xFFFFFFFFFFFFFFFF) <| required "column" .text .done)
    (fun (s, c, _) => ⟨s, c⟩)
    (fun b => (b.segment, b.column, ()))

def endpointCodec : Codec Endpoint :=
  .record "EndpointConfig"
    (required "name" .text <| required "path" .text <| required "type" .text <|
      maybe "table" .text <| defaulted "where" (.list .text) [] <| maybe "join" .text <|
      maybe "default_sort" .text <| maybe "group_by" .text <| maybe "having" .text <|
      maybe "limit" .text <| defaulted "operations" (.list operationCodec) Operation.all <|
      defaulted "bindings" (.list bindingCodec) [] .done)
    (fun (n, p, ty, t, w, j, s, g, h, l, o, b, _) => ⟨n, p, ty, t, w, j, s, g, h, l, o, b⟩)
    (fun e => (e.name, e.path, e.type, e.table, e.filters, e.join, e.defaultSort, e.groupBy,
      e.having, e.limit, e.operations, e.bindings, ()))

def overrideCodec : Codec Override :=
  .record "OverrideConfig"
    (required "kind" slotCodec <| required "paths" (.list .text) <| required "hook" .text .done)
    (fun (k, p, h, _) => ⟨k, p, h⟩)
    (fun o => (o.slot, o.paths, o.hook, ()))

def notificationUriCodec : Codec NotificationUri :=
  .record "NotificationUriConfig"
    (required "paths" (.list .text) <| required "uri" .text .done)
    (fun (p, u, _) => ⟨p, u⟩)
    (fun n => (n.paths, n.uri, ()))

def notifyDefaultsCodec : Codec NotifyDefaults :=
  .record "NotifyDefaultsConfig"
    (maybe "insert" .text <| maybe "bulk_insert" .text <| maybe "update" .text <|
      maybe "delete" .text .done)
    (fun (i, b, u, d, _) => ⟨i, b, u, d⟩)
    (fun n => (n.insert, n.bulkInsert, n.update, n.delete, ()))

def groupCodec : Codec Group :=
  .record "EndpointGroupConfig"
    (required "name" .text <| required "table" .text <| defaulted "map_columns" .textMap [] <|
      required "endpoints" (.list endpointCodec) <|
      defaulted "overrides" (.list overrideCodec) [] <|
      defaulted "notification_uris" (.list notificationUriCodec) [] <|
      defaulted "notify_defaults" notifyDefaultsCodec .empty .done)
    (fun (n, t, m, e, o, u, d, _) => ⟨n, t, m, e, o, u, d⟩)
    (fun g => (g.name, g.table, g.mapColumns, g.endpoints, g.overrides, g.notificationUris,
      g.notifyDefaults, ()))

def providerCodec : Codec Provider :=
  .record "ProviderConfig"
    (required "name" .text <| required "groups" (.list groupCodec) <|
      defaulted "notify_defaults" notifyDefaultsCodec .empty .done)
    (fun (n, g, d, _) => ⟨n, g, d⟩)
    (fun p => (p.name, p.groups, p.notifyDefaults, ()))

def codec : Codec Document :=
  .record "FullConfig"
    (required "database" databaseCodec <| required "provider" providerCodec .done)
    (fun (d, p, _) => ⟨d, p⟩)
    (fun d => (d.database, d.provider, ()))

/-- The document that a text holds. -/
def parse (s : String) : Except Fault Document :=
  codec.parse s

/-- The text of a document, with every default filled in. -/
def print (d : Document) : String :=
  codec.print d

end ResourceProvider.Document
