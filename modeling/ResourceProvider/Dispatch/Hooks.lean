import ResourceProvider.Error
import ResourceProvider.Route.Path
import ResourceProvider.Sql.Record
/-!
# Hooks

Hooks are functions that a document names: they add conditions or joins to a selection, choose
the locator of a new row, or say which locators a change is signalled at.
-/
namespace ResourceProvider

open Route (Locator)

/-- What a notification hook is told about a change. `record` is what was inserted or set;
`records` and `ids` belong to bulk inserts, `ids` to single inserts also. -/
structure Notice where
  mutation : Mutation
  locator : Locator
  record : Option Record
  records : List Record
  ids : List Int
  count : Nat
  condition : String
  args : List String

/-- Texts for a selection. -/
abbrev SelectionHook := Operation → Locator → List String

/-- The locator of a new row. -/
abbrev InsertUriHook := Locator → Record → Int → String

/-- The locators at which a change is signalled. -/
abbrev NotifyHook := Notice → List String

/-- Hooks by kind and name. -/
structure Hooks where
  filters : List (String × SelectionHook)
  joins : List (String × SelectionHook)
  insertUris : List (String × InsertUriHook)
  notifiers : List (String × NotifyHook)

namespace Hooks

/-- No hooks. -/
def empty : Hooks :=
  ⟨[], [], [], []⟩

/-- The hook of a name among those of its kind. -/
def named {α : Type} (kind : HookKind) (hooks : List (String × α)) (name : String) :
    Except DocumentError α :=
  match hooks.lookup name with
  | some h => .ok h
  | none => .error (.missingHook kind name)

/-- The hook of a name, if there is a name. -/
def named? {α : Type} (kind : HookKind) (hooks : List (String × α)) :
    Option String → Except DocumentError (Option α)
  | none => .ok none
  | some name => (named kind hooks name).map some

end Hooks

end ResourceProvider
