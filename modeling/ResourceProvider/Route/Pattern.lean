import ResourceProvider.Route.Path
/-!
# Path patterns

Each segment of a pattern is a literal, `#` for a number, or `*` for anything. A pattern accepts
a locator of as many segments, each of which its own segment accepts.
-/
namespace ResourceProvider.Route

/-- One segment of a pattern. -/
inductive Segment where
  | literal (text : String)
  /-- A run of ASCII digits. -/
  | number
  /-- Any single segment. -/
  | any
deriving DecidableEq, Repr

namespace Segment

/-- The segment that a part of a path stands for. -/
def ofText (s : String) : Segment :=
  if s = "#" then .number else if s = "*" then .any else .literal s

/-- The segment as it is written in a path. -/
def text : Segment → String
  | .literal s => s
  | .number => "#"
  | .any => "*"

/-- The segment stands for more than one text. -/
def isWildcard : Segment → Bool
  | .literal _ => false
  | _ => true

/-- The segment stands for the text `s`. -/
def accepts : Segment → String → Bool
  | .literal t, s => t = s
  | .number, s => s ≠ "" && s.toList.all Text.isDigit
  | .any, _ => true

end Segment

/-- A path pattern. -/
abbrev Pattern := List Segment

/-- The pattern of a canonical path. -/
def Pattern.ofPath (path : String) : Pattern :=
  (segments path).map Segment.ofText

/-- The pattern has as many segments as the locator and accepts each of them. -/
def Pattern.accepts : Pattern → List String → Bool
  | [], [] => true
  | p :: ps, s :: ss => p.accepts s && Pattern.accepts ps ss
  | _, _ => false

end ResourceProvider.Route
