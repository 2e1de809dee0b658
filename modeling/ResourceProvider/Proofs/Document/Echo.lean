import ResourceProvider.Document.Text
import ResourceProvider.Proofs.Dispatch.Compiled
import ResourceProvider.Proofs.Json.Echo
/-!
# Reading a written document

Every record of a document is read back from its text, but for the flags of a column: a flag is
written by its state, which its reader refuses (`flagCodec_refuses`). So a document is read back
from its text if it has no columns, and otherwise refused for the first flag of its first column
(`parse_print`).
-/
namespace ResourceProvider.Document

open Json Json.Codec

/-! ## Names -/

theorem typeCodec_echoes (t : DataType) : typeCodec.Echoes t := by
  apply choice_echoes
  cases t
  all_goals rfl

theorem policyCodec_echoes (p : ConflictPolicy) : policyCodec.Echoes p := by
  apply choice_echoes
  cases p
  all_goals rfl

theorem actionCodec_echoes (a : ForeignKeyAction) : actionCodec.Echoes a := by
  apply choice_echoes
  cases a
  all_goals rfl

theorem operationCodec_echoes (o : Operation) : operationCodec.Echoes o := by
  apply choice_echoes
  cases o
  all_goals rfl

theorem slotCodec_echoes (s : Slot) : slotCodec.Echoes s := by
  apply choice_echoes
  cases s with
  | notify m =>
    cases m
    all_goals rfl
  | _ => rfl

/-! ## Parts that may be left out, and lists of parts -/

theorem optionalText_echoes (s : Option String) : (Codec.optional .text).Echoes s :=
  optional_echoes (fun s _ => opens_text s) (fun s _ => text_echoes s)

theorem texts_echoes (s : List String) : (Codec.list .text).Echoes s :=
  list_echoes (fun s _ => opens_text s) (fun s _ => text_echoes s)

/-! ## Column flags -/

/-- Why the written state of a flag is no flag. -/
def flagFault : Option ConflictPolicy → Fault
  | none => .flagShape (.str "Off")
  | some _ => .flagKeys ["On"]

/-- A flag that is off is written as a text, and one that is on under a key of its own; a flag is
read from neither. -/
theorem flagCodec_refuses (flag : Option ConflictPolicy) :
    flagCodec.Answers flag (some (flagFault flag)) := by
  intro rest _
  -- A column lies so far from the limit of nesting that its flag is read as a whole.
  have depth : maxDepth - flagDepth = 120 + 1 := rfl
  cases flag with
  | none =>
    show flagCodec.read (textChars "Off" ++ rest) = _
    simp only [flagCodec, readValue_text]
    rfl
  | some p =>
    have text : flagCodec.write (some p) ++ rest
        = '\x7b' :: (textChars "On" ++ ':' :: (textChars p.name ++ '\x7d' :: rest)) := by
      show '\x7b' :: textChars "On" ++ ':' :: textChars p.name ++ ['\x7d'] ++ rest = _
      simp
    rw [text]
    simp only [flagCodec, depth, readValue_pair]
    rfl

/-! ## The database -/

/-- The flag for missing values is the first one that is written. -/
theorem columnCodec_refuses (c : Column) :
    columnCodec.Answers c (some (flagFault c.notNull)) := by
  apply record_answers (by decide) rfl
  exact .echoed (text_echoes c.name) <| .echoed (typeCodec_echoes c.type) <|
    .refused (flagCodec_refuses c.notNull)

theorem keyCodec_echoes (k : Key) : keyCodec.Echoes k := by
  apply record_answers (by decide) rfl
  exact .echoed (optionalText_echoes k.name) <| .echoed (texts_echoes k.columns) <|
    .echoed (policyCodec_echoes k.onConflict) .done

theorem checkCodec_echoes (c : Check) : checkCodec.Echoes c := by
  apply record_answers (by decide) rfl
  exact .echoed (optionalText_echoes c.name) <| .echoed (text_echoes c.expression) .done

theorem foreignKeyCodec_echoes (k : ForeignKey) : foreignKeyCodec.Echoes k := by
  apply record_answers (by decide) rfl
  exact .echoed (optionalText_echoes k.name) <| .echoed (texts_echoes k.columns) <|
    .echoed (text_echoes k.table) <| .echoed (texts_echoes k.referenced) <|
    .echoed (actionCodec_echoes k.onDelete) <| .echoed (actionCodec_echoes k.onUpdate) .done

/-- The first column of a table decides. -/
theorem tableCodec_answers (t : Table) :
    tableCodec.Answers t (t.columns.head?.map fun c => flagFault c.notNull) := by
  have columns : (Codec.list columnCodec).Answers t.columns
      (t.columns.findSome? fun c => some (flagFault c.notNull)) :=
    list_answers (fun _ _ => record_opens) (fun c _ => columnCodec_refuses c)
  have first : (t.columns.findSome? fun c => some (flagFault c.notNull))
      = t.columns.head?.map fun c => flagFault c.notNull := by
    cases t.columns with
    | nil => rfl
    | cons c cs => rfl
  rw [first] at columns
  apply record_answers (by decide) rfl
  exact .echoed (text_echoes t.name) <| .echoed (bool_echoes t.ifNotExists) <| .decided columns <|
    .echoed (optional_echoes (fun _ _ => record_opens) (fun k _ => keyCodec_echoes k)) <|
    .echoed (list_echoes (fun _ _ => record_opens) (fun k _ => keyCodec_echoes k)) <|
    .echoed (list_echoes (fun _ _ => record_opens) (fun c _ => checkCodec_echoes c)) <|
    .echoed (list_echoes (fun _ _ => record_opens) (fun k _ => foreignKeyCodec_echoes k)) .done

/-- The columns of all tables, in order. -/
def Database.columns (d : Database) : List Column :=
  d.tables.flatMap (·.columns)

theorem databaseCodec_answers {d : Database} (version : d.version ≤ 0xFFFFFFFF) :
    databaseCodec.Answers d (d.columns.head?.map fun c => flagFault c.notNull) := by
  have tables : (Codec.list tableCodec).Answers d.tables
      (d.tables.findSome? fun t => t.columns.head?.map fun c => flagFault c.notNull) :=
    list_answers (fun _ _ => record_opens) (fun t _ => tableCodec_answers t)
  have first : (d.tables.findSome? fun t => t.columns.head?.map fun c => flagFault c.notNull)
      = d.columns.head?.map fun c => flagFault c.notNull := by
    rw [Database.columns, List.head?_flatMap, List.map_findSome?]
    rfl
  rw [first] at tables
  apply record_answers (by decide) rfl
  exact .echoed (text_echoes d.name) <| .echoed (whole_echoes "u32" version (by decide)) <|
    .decided tables <| .echoed (texts_echoes d.execOnCreate) .done

/-! ## The provider -/

theorem bindingCodec_echoes {b : Binding} (segment : b.segment ≤ 0xFFFFFFFFFFFFFFFF) :
    bindingCodec.Echoes b := by
  apply record_answers (by decide) rfl
  exact .echoed (whole_echoes "usize" segment (by decide)) <| .echoed (text_echoes b.column) .done

theorem endpointCodec_echoes {e : Endpoint}
    (segments : ∀ b ∈ e.bindings, b.segment ≤ 0xFFFFFFFFFFFFFFFF) : endpointCodec.Echoes e := by
  have operations : (Codec.list operationCodec).Echoes e.operations :=
    list_echoes (fun o _ => opens_text o.name) (fun o _ => operationCodec_echoes o)
  have bindings : (Codec.list bindingCodec).Echoes e.bindings :=
    list_echoes (fun _ _ => record_opens) (fun b hb => bindingCodec_echoes (segments b hb))
  apply record_answers (by decide) rfl
  exact .echoed (text_echoes e.name) <| .echoed (text_echoes e.path) <|
    .echoed (text_echoes e.type) <| .echoed (optionalText_echoes e.table) <|
    .echoed (texts_echoes e.filters) <| .echoed (optionalText_echoes e.join) <|
    .echoed (optionalText_echoes e.defaultSort) <| .echoed (optionalText_echoes e.groupBy) <|
    .echoed (optionalText_echoes e.having) <| .echoed (optionalText_echoes e.limit) <|
    .echoed operations <| .echoed bindings .done

theorem overrideCodec_echoes (o : Override) : overrideCodec.Echoes o := by
  apply record_answers (by decide) rfl
  exact .echoed (slotCodec_echoes o.slot) <| .echoed (texts_echoes o.paths) <|
    .echoed (text_echoes o.hook) .done

theorem notificationUriCodec_echoes (n : NotificationUri) : notificationUriCodec.Echoes n := by
  apply record_answers (by decide) rfl
  exact .echoed (texts_echoes n.paths) <| .echoed (text_echoes n.uri) .done

theorem notifyDefaultsCodec_echoes (d : NotifyDefaults) : notifyDefaultsCodec.Echoes d := by
  apply record_answers (by decide) rfl
  exact .echoed (optionalText_echoes d.insert) <| .echoed (optionalText_echoes d.bulkInsert) <|
    .echoed (optionalText_echoes d.update) <| .echoed (optionalText_echoes d.delete) .done

/-- Aliases are kept in key order, and a path has no more segments than 64 bits count. -/
structure Group.Representable (g : Group) : Prop where
  ascending : g.mapColumns.Pairwise (·.1 < ·.1)
  segment_le : ∀ e ∈ g.endpoints, ∀ b ∈ e.bindings, b.segment ≤ 0xFFFFFFFFFFFFFFFF

theorem groupCodec_echoes {g : Group} (h : g.Representable) : groupCodec.Echoes g := by
  have endpoints : (Codec.list endpointCodec).Echoes g.endpoints :=
    list_echoes (fun _ _ => record_opens) (fun e he => endpointCodec_echoes (h.segment_le e he))
  apply record_answers (by decide) rfl
  exact .echoed (text_echoes g.name) <| .echoed (text_echoes g.table) <|
    .echoed (textMap_echoes h.ascending) <| .echoed endpoints <|
    .echoed (list_echoes (fun _ _ => record_opens) (fun o _ => overrideCodec_echoes o)) <|
    .echoed (list_echoes (fun _ _ => record_opens) (fun n _ => notificationUriCodec_echoes n)) <|
    .echoed (notifyDefaultsCodec_echoes g.notifyDefaults) .done

theorem providerCodec_echoes {p : Provider} (h : ∀ g ∈ p.groups, g.Representable) :
    providerCodec.Echoes p := by
  have groups : (Codec.list groupCodec).Echoes p.groups :=
    list_echoes (fun _ _ => record_opens) (fun g hg => groupCodec_echoes (h g hg))
  apply record_answers (by decide) rfl
  exact .echoed (text_echoes p.name) <| .echoed groups <|
    .echoed (notifyDefaultsCodec_echoes p.notifyDefaults) .done

/-! ## Documents -/

/-- The version has 32 bits, and every group can be written down. -/
structure Representable (d : Document) : Prop where
  version_le : d.database.version ≤ 0xFFFFFFFF
  groups : ∀ g ∈ d.provider.groups, g.Representable

theorem codec_answers {d : Document} (h : d.Representable) :
    codec.Answers d (d.database.columns.head?.map fun c => flagFault c.notNull) := by
  apply record_answers (by decide) rfl
  exact .decided (databaseCodec_answers h.version_le) <| .echoed (providerCodec_echoes h.groups) .done

/-- A document that was written is read back if it has no columns. Otherwise it is refused, for the
flag of its first column that is written first: it is off, or it is on under a key that no flag
has. -/
theorem parse_print {d : Document} (h : d.Representable) :
    parse (print d) = match d.database.columns with
      | [] => .ok d
      | c :: _ => .error (flagFault c.notNull) := by
  have read : parse (print d) = _ := (codec_answers h).parse
  rw [read]
  cases d.database.columns with
  | nil => rfl
  | cons c cs => rfl

/-! ## Tasks in lists -/

theorem representable_tasks : Representable Tasks.document where
  version_le := by decide
  groups := by
    intro g hg
    rw [List.mem_singleton.mp hg]
    exact ⟨.nil, by decide⟩

/-- The first of three columns need not be set. Without its table the document is read back. -/
theorem parse_print_tasks :
    Representable Tasks.document
      ∧ parse (print Tasks.document) = .error (.flagShape (.str "Off"))
      ∧ parse (print { Tasks.document with database := ⟨"todo", 1, [], []⟩ })
          = .ok { Tasks.document with database := ⟨"todo", 1, [], []⟩ } :=
  ⟨representable_tasks, parse_print representable_tasks,
    parse_print (d := { Tasks.document with database := ⟨"todo", 1, [], []⟩ })
      ⟨by decide, representable_tasks.groups⟩⟩

/-- Writing a document does not keep it readable. -/
theorem not_reread_tasks :
    ¬ ∀ d : Document, d.Representable → parse (print d) = .ok d := by
  intro all
  have kept := all Tasks.document representable_tasks
  have read : parse (print Tasks.document) = _ := (codec_answers representable_tasks).parse
  rw [read] at kept
  cases kept

end ResourceProvider.Document
