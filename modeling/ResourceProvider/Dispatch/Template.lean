import ResourceProvider.Dispatch.Hooks
import ResourceProvider.Json.Printer
/-!
# Hooks written as templates

A template is a text with tokens in braces. Each known token is replaced by its value, which is
not looked into again; any other brace stays as it is.
-/
namespace ResourceProvider.Template

open Json (Value)
open Route (Locator)

/-- Replaces the tokens that have a value. -/
def expandChars (value : String → Option String) : List Char → List Char
  | [] => []
  | c :: rest =>
    if c = '\x7b' then
      match _cut : rest.dropWhile (· ≠ '\x7d') with
      | [] => c :: expandChars value rest
      | _ :: after =>
        match value (String.ofList (rest.takeWhile (· ≠ '\x7d'))) with
        | some s => s.toList ++ expandChars value after
        | none => c :: expandChars value rest
    else c :: expandChars value rest
termination_by cs => cs.length
decreasing_by
  · simp
  · have shorter := (List.dropWhile_suffix (l := rest) (· ≠ '\x7d')).length_le
    rw [_cut] at shorter
    simp only [List.length_cons] at shorter ⊢
    omega
  · simp
  · simp

/-- A template with its tokens replaced. -/
def expand (value : String → Option String) (template : String) : String :=
  String.ofList (expandChars value template.toList)

/-! ## Tokens -/

/-- What follows `key:` in a token. -/
def argument? (key token : String) : Option String :=
  if (key ++ ":").toList.isPrefixOf token.toList then
    some (String.ofList (token.toList.drop (key.length + 1)))
  else none

/-- A whole number of at most 64 bits, which may have a plus sign. -/
def index? (s : String) : Option Nat :=
  let ds := match s.toList with
    | '+' :: rest => rest
    | cs => cs
  let n := Text.decimalValue ds
  if ds ≠ [] ∧ ds.all Text.isDigit ∧ n < 0x10000000000000000 then some n else none

/-- The tokens that stand for parts of a locator. -/
def ofLocator (l : Locator) (token : String) : Option String :=
  if token = "locator" then some l.raw
  else ((argument? "seg" token).bind index?).map fun i => (l.segments[i]?).getD ""

/-- A value as a template shows it: texts as they are. -/
def shown : Value → String
  | .str s => s
  | v => v.compact

/-- A column of a record as a template shows it. -/
def column (r : Record) (name : String) : String :=
  ((r.lookup name).map shown).getD ""

/-- Tokens of hooks that take part in a selection. -/
def ofSelection (op : Operation) (l : Locator) (token : String) : Option String :=
  if token = "op" then some op.name else ofLocator l token

/-- Tokens of hooks that name a new row. -/
def ofInsert (l : Locator) (r : Record) (id : Int) (token : String) : Option String :=
  if token = "id" then some (toString id)
  else ((argument? "col" token).map (column r)).or (ofLocator l token)

/-- Tokens of hooks that signal a change. -/
def ofNotice (n : Notice) (token : String) : Option String :=
  if token = "mutation" then some n.mutation.name
  else if token = "count" then some (toString n.count)
  else if token = "ids" then some (Text.join "," (n.ids.map toString))
  else if token = "selection" then some n.condition
  else if token = "args" then some (Text.join "|" n.args)
  else
    ((argument? "cols" token).map fun c => Text.join "," (n.records.map fun r => column r c)).or <|
    ((argument? "col" token).map (column (n.record.getD []))).or (ofLocator n.locator token)

/-! ## Hooks -/

/-- The hook that gives each template expanded. -/
def selectionHook (templates : List String) : SelectionHook := fun op l =>
  templates.map (expand (ofSelection op l))

/-- The hook that gives the template expanded. -/
def insertUriHook (template : String) : InsertUriHook := fun l r id =>
  expand (ofInsert l r id) template

/-- The hook that gives each template expanded. -/
def notifyHook (templates : List String) : NotifyHook := fun n =>
  templates.map (expand (ofNotice n))

end ResourceProvider.Template
