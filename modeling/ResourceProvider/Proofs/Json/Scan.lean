import ResourceProvider.Json.Scan
import ResourceProvider.Proofs.Engine.Setting
/-!
# Scanning what was written

The text between the quotes is scanned back character by character, whichever of them are escaped
(`scanString_escaped`), and the digits of a number are scanned back as that number wherever they
end (`scanNumber_digits`).
-/
namespace ResourceProvider.Json

open Text

/-! ## Texts -/

/-- A character below the space comes back from the two hexadecimal digits of its code. -/
theorem hex4_control : ∀ n < 0x20,
    hex4? '0' '0' (Nat.digitChar (n / 16)) (Nat.digitChar (n % 16)) = some n := by
  decide

/-- A character that stands for itself. -/
theorem scanText_plain {c : Char} (quote : c ≠ '"') (slash : c ≠ '\\') (high : ¬ c.toNat < 0x20)
    (cs : List Char) : scanText (c :: cs) = prepend c (scanText cs) := by
  rw [scanText, if_neg high]
  all_goals simp [quote, slash]

/-- An escape of four hexadecimal digits that is no half of a surrogate pair. -/
theorem scanText_code {a b c d : Char} {n : Nat} (code : hex4? a b c d = some n) (low : n < 0xD800)
    (cs : List Char) :
    scanText ('\\' :: 'u' :: a :: b :: c :: d :: cs) = prepend (Char.ofNat n) (scanText cs) := by
  have trailing : isTrailing n = false := by
    simp [isTrailing]
    omega
  have leading : isLeading n = false := by
    simp [isLeading]
    omega
  rw [scanText]
  simp [code, trailing, leading]

/-- An escape of one letter. -/
theorem scanText_letter {e c : Char} (letter : unescape? e = some c) (cs : List Char) :
    scanText ('\\' :: e :: cs) = prepend c (scanText cs) := by
  have code : e ≠ 'u' := by
    intro same
    subst same
    cases letter
  rw [scanText]
  · rw [letter]
  all_goals simp [code]

/-- A character is written by a letter, by its code, or as itself. -/
theorem escapedChar_cases (c : Char) :
    (∃ e, escapedChar c = ['\\', e] ∧ unescape? e = some c)
    ∨ (escapedChar c
          = ['\\', 'u', '0', '0', Nat.digitChar (c.toNat / 16), Nat.digitChar (c.toNat % 16)]
        ∧ c.toNat < 0x20)
    ∨ (escapedChar c = [c] ∧ c ≠ '"' ∧ c ≠ '\\' ∧ ¬ c.toNat < 0x20) := by
  unfold escapedChar
  -- The seven characters that have a letter come first.
  iterate 7
    split
    · next named =>
      subst named
      exact .inl ⟨_, rfl, rfl⟩
  split
  · next control => exact .inr (.inl ⟨rfl, control⟩)
  · next quote slash _ _ _ _ _ high => exact .inr (.inr ⟨rfl, quote, slash, high⟩)

/-- Whatever a character is written as stands for that character. -/
theorem scanText_escapedChar (c : Char) (cs : List Char) :
    scanText (escapedChar c ++ cs) = prepend c (scanText cs) := by
  rcases escapedChar_cases c with ⟨e, written, letter⟩ | ⟨written, control⟩ |
    ⟨written, quote, slash, high⟩
  · rw [written]
    exact scanText_letter letter cs
  · have code := hex4_control c.toNat control
    have read := scanText_code code (by omega) cs
    rw [Char.ofNat_toNat] at read
    rw [written]
    exact read
  · rw [written]
    exact scanText_plain quote slash high cs

theorem scanText_escaped (s rest : List Char) :
    scanText (s.flatMap escapedChar ++ '"' :: rest) = .ok (s, rest) := by
  induction s with
  | nil => rw [List.flatMap_nil, List.nil_append, scanText]
  | cons c s ih =>
    rw [List.flatMap_cons, List.append_assoc, scanText_escapedChar, ih]
    rfl

/-- A text is scanned back from what stands after its opening quote. -/
theorem scanString_escaped (s : String) (rest : List Char) :
    scanString (s.toList.flatMap escapedChar ++ '"' :: rest) = .ok (s, rest) := by
  rw [scanString, scanText_escaped]
  simp [Except.map]

/-- A written text up to its opening quote. -/
theorem textChars_append (s : String) (rest : List Char) :
    textChars s ++ rest = '"' :: (s.toList.flatMap escapedChar ++ '"' :: rest) := by
  simp [textChars]

/-! ## Numbers -/

/-- Digits only make a number larger. -/
theorem le_foldl_digits (n : Nat) (ds : List Char) :
    n ≤ ds.foldl (fun n c => n * 10 + digitValue c) n := by
  induction ds generalizing n with
  | nil => exact Nat.le_refl n
  | cons d ds ih =>
    have step := ih (n * 10 + digitValue d)
    rw [List.foldl_cons]
    omega

/-- All digits are taken if the whole number fits. -/
theorem takeDigits_all {ds : List Char} {n : Nat}
    (fits : ds.foldl (fun n c => n * 10 + digitValue c) n ≤ maxWhole) (taken : Nat) :
    takeDigits n taken ds
      = (ds.foldl (fun n c => n * 10 + digitValue c) n, taken + ds.length) := by
  induction ds generalizing n taken with
  | nil => rfl
  | cons d ds ih =>
    rw [List.foldl_cons] at fits ⊢
    -- The number after this digit is a lower bound of the whole number.
    have room : n * 10 + digitValue d ≤ maxWhole := Nat.le_trans (le_foldl_digits _ ds) fits
    rw [takeDigits, if_pos room, ih fits, List.length_cons]
    congr 1
    omega

/-- A number has a first digit. -/
theorem toDigits_eq_cons (n : Nat) : ∃ d ds, Nat.toDigits 10 n = d :: ds ∧ isDigit d := by
  cases written : Nat.toDigits 10 n with
  | nil => exact absurd written Nat.toDigits_ne_nil
  | cons d ds => exact ⟨d, ds, rfl, isDigit_of_mem_toDigits (n := n) (by simp [written])⟩

/-- A digit of zero comes first only in the number zero. -/
theorem head?_toDigits {n : Nat} (h : n ≠ 0) : (Nat.toDigits 10 n).head? ≠ some '0' := by
  induction n using Nat.strongRecOn with
  | ind n ih =>
    by_cases small : n < 10
    · rw [Nat.toDigits_of_lt_base small]
      have nonzero : ∀ n < 10, n ≠ 0 → [n.digitChar].head? ≠ some '0' := by decide
      exact nonzero n small h
    · have shorter := ih (n / 10) (by omega) (by omega)
      rw [Nat.toDigits_of_base_le (by decide) (by omega), List.head?_append]
      cases front : (Nat.toDigits 10 (n / 10)).head? with
      | none => exact absurd (List.head?_eq_none_iff.mp front) Nat.toDigits_ne_nil
      | some d =>
        rw [front] at shorter
        exact shorter

/-- What follows a number cannot be part of it. -/
def EndsNumber (rest : List Char) : Prop :=
  ∀ c ∈ rest.head?, isDigit c = false ∧ c ≠ '.' ∧ c ≠ 'e' ∧ c ≠ 'E'

theorem scanTail_whole {rest : List Char} (ends : EndsNumber rest) (n : Nat) :
    scanTail false n 0 rest = .ok (.int n, rest) := by
  unfold scanTail
  split
  · exact absurd rfl (ends '.' rfl).2.1
  · exact absurd rfl (ends 'e' rfl).2.2.1
  · exact absurd rfl (ends 'E' rfl).2.2.2
  · rfl

/-- The digits of a number and what follows it, cut apart. -/
theorem takeWhile_digits {rest : List Char} (ends : EndsNumber rest) {ds : List Char}
    (digits : ∀ c ∈ ds, isDigit c) :
    (ds ++ rest).takeWhile isDigit = ds ∧ (ds ++ rest).dropWhile isDigit = rest := by
  have stop : rest.takeWhile isDigit = [] ∧ rest.dropWhile isDigit = rest := by
    cases rest with
    | nil => exact ⟨rfl, rfl⟩
    | cons c rest =>
      have outside := (ends c rfl).1
      exact ⟨List.takeWhile_cons_of_neg (by simp [outside]),
        List.dropWhile_cons_of_neg (by simp [outside])⟩
  rw [List.takeWhile_append_of_pos digits, List.dropWhile_append_of_pos digits, stop.1, stop.2]
  exact ⟨List.append_nil ds, rfl⟩

/-- Zero is one digit, which no other digit may follow. -/
theorem scanMagnitude_zero {rest : List Char} (ends : EndsNumber rest) :
    scanMagnitude false ('0' :: rest) = .ok (.int 0, rest) := by
  cases rest with
  | nil => exact scanTail_whole ends 0
  | cons c rest =>
    rw [scanMagnitude, if_neg (by simp [(ends c rfl).1])]
    exact scanTail_whole ends 0

/-- Digits that do not start with zero. -/
theorem scanMagnitude_digits {rest ds : List Char} (ends : EndsNumber rest)
    (digits : ∀ c ∈ ds, isDigit c) (some_digit : ds ≠ []) (first : ds.head? ≠ some '0')
    (fits : decimalValue ds ≤ maxWhole) :
    scanMagnitude false (ds ++ rest) = .ok (.int (decimalValue ds), rest) := by
  obtain ⟨all, none⟩ := takeWhile_digits ends digits
  have taken : takeDigits 0 0 ds = (decimalValue ds, 0 + ds.length) := takeDigits_all fits 0
  cases ds with
  | nil => exact absurd rfl some_digit
  | cons d ds =>
    have nonzero : d ≠ '0' := fun same => first (by simp [same])
    have digit : isDigit d = true := digits d List.mem_cons_self
    rw [List.cons_append] at all none ⊢
    rw [scanMagnitude]
    · simp only [digit, all, none, taken, Bool.not_true, Bool.false_eq_true, if_false,
        Nat.zero_add, Nat.sub_self]
      exact scanTail_whole ends _
    · exact fun same => absurd same nonzero

/-- A number that 64 bits hold is scanned back from its digits. -/
theorem scanNumber_toDigits {n : Nat} (fits : n ≤ maxWhole) {rest : List Char}
    (ends : EndsNumber rest) : scanNumber (Nat.toDigits 10 n ++ rest) = .ok (.int n, rest) := by
  have digits : ∀ c ∈ Nat.toDigits 10 n, isDigit c := fun c hc => isDigit_of_mem_toDigits hc
  have magnitude : scanMagnitude false (Nat.toDigits 10 n ++ rest) = .ok (.int n, rest) := by
    by_cases zero : n = 0
    · subst zero
      exact scanMagnitude_zero ends
    · have read := scanMagnitude_digits ends digits Nat.toDigits_ne_nil (head?_toDigits zero)
        (by rwa [decimalValue_toDigits])
      rwa [decimalValue_toDigits] at read
  -- The first digit is not taken for a sign.
  obtain ⟨d, ds, written, digit⟩ := toDigits_eq_cons n
  rw [written, List.cons_append] at magnitude ⊢
  unfold scanNumber
  split
  · next signed =>
    cases signed
    exact absurd digit (by decide)
  · exact magnitude

end ResourceProvider.Json
