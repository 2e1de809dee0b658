/-!
# Bytes as characters

Characters are written as one to four bytes. Bytes that are no character are told apart from those
that are, in the longest runs that could still have become one.
-/
namespace ResourceProvider.Text

/-- How many bytes follow a first byte, and the bounds of the second one. -/
def utf8Lead (b : UInt8) : Option (Nat × Nat × Nat) :=
  let n := b.toNat
  if 0xC2 ≤ n ∧ n ≤ 0xDF then some (1, 0x80, 0xBF)
  else if n = 0xE0 then some (2, 0xA0, 0xBF)
  else if n = 0xED then some (2, 0x80, 0x9F)
  else if 0xE1 ≤ n ∧ n ≤ 0xEF then some (2, 0x80, 0xBF)
  else if n = 0xF0 then some (3, 0x90, 0xBF)
  else if 0xF1 ≤ n ∧ n ≤ 0xF3 then some (3, 0x80, 0xBF)
  else if n = 0xF4 then some (3, 0x80, 0x8F)
  else none

/-- Takes the bytes that follow a first byte: their value on top of `acc`, unless one is missing,
and how many were taken. -/
def utf8Tail : (count low high acc : Nat) → List UInt8 → Option Nat × Nat
  | 0, _, _, acc, _ => (some acc, 0)
  | _ + 1, _, _, _, [] => (none, 0)
  | count + 1, low, high, acc, b :: rest =>
    if low ≤ b.toNat ∧ b.toNat ≤ high then
      let (value, taken) := utf8Tail count 0x80 0xBF (acc * 64 + (b.toNat - 0x80)) rest
      (value, taken + 1)
    else (none, 0)

/-- The character that starts with a byte, if there is one, and how many more bytes it takes. -/
def utf8Head (b : UInt8) (rest : List UInt8) : Option Char × Nat :=
  if b < 0x80 then (some (Char.ofNat b.toNat), 0)
  else
    match utf8Lead b with
    | none => (none, 0)
    | some (count, low, high) =>
      let (value, taken) := utf8Tail count low high (b.toNat % Nat.pow 2 (6 - count)) rest
      (value.map Char.ofNat, taken)

/-- The characters of bytes, with nothing in place of bytes that are none. -/
def utf8Chars : List UInt8 → List (Option Char)
  | [] => []
  | b :: rest => (utf8Head b rest).1 :: utf8Chars (rest.drop (utf8Head b rest).2)
termination_by bs => bs.length
decreasing_by
  simp only [List.length_drop, List.length_cons]
  omega

/-- The text of bytes, if all of them are characters. -/
def textOfBytes? (bytes : List UInt8) : Option String :=
  ((utf8Chars bytes).mapM id).map String.ofList

/-- The text of bytes, with a mark for bytes that are no characters. -/
def textOfBytes (bytes : List UInt8) : String :=
  String.ofList ((utf8Chars bytes).map fun c => c.getD '\uFFFD')

end ResourceProvider.Text
