import ResourceProvider.Text.Blank
import ResourceProvider.Text.Hidden
/-!
# Quoted text for messages

A text in double quotes in which every character can be told apart by eye: quotes and
backslashes are escaped, the common control characters have a letter, and characters without a
glyph are written by their code point.
-/
namespace ResourceProvider.Text

/-- One character as it stands between the quotes. -/
def quotedChar (c : Char) : List Char :=
  if c = '"' then ['\\', '"']
  else if c = '\\' then ['\\', '\\']
  else if c = '\n' then ['\\', 'n']
  else if c = '\r' then ['\\', 'r']
  else if c = '\t' then ['\\', 't']
  else if c = '\x00' then ['\\', '0']
  else if isHidden c then ['\\', 'u', '\x7b'] ++ hex c.toNat ++ ['\x7d']
  else [c]

/-- The text between double quotes. -/
def quoted (s : String) : String :=
  String.ofList ('"' :: s.toList.flatMap quotedChar ++ ['"'])

/-- Quoted texts in brackets, separated by commas. -/
def quotedList (parts : List String) : String :=
  "[" ++ join ", " (parts.map quoted) ++ "]"

end ResourceProvider.Text
