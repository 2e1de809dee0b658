import ResourceProvider.Proofs.Engine.Spans
/-!
# Numbers in a stretch of text

A number ends in the stretch in which it starts, and is the same whatever comes after it. The reader
of parentheses passes over it.
-/
namespace ResourceProvider.Engine

open Sql (Reader Spot)
open Text (isDigit)

/-! ## Characters that are passed over -/

/-- What stands before `rest` leaves the reader outside, where it was. -/
structure Passes (cs rest : List Char) : Prop where
  suffix : rest <:+ cs
  spans {d d' : Nat} : Spans d cs d' → Spans d rest d'

namespace Passes

theorem refl (cs : List Char) : Passes cs cs :=
  ⟨List.suffix_refl cs, id⟩

theorem trans {xs ys zs : List Char} (h : Passes xs ys) (h' : Passes ys zs) : Passes xs zs :=
  ⟨h'.suffix.trans h.suffix, fun spans => h'.spans (h.spans spans)⟩

theorem cons {c : Char} (hc : isInert c) (cs : List Char) : Passes (c :: cs) cs :=
  ⟨List.suffix_cons c cs, fun spans => spans.inert hc⟩

theorem minus {cs : List Char} (next : cs.head? ≠ some '-') : Passes ('-' :: cs) cs :=
  ⟨List.suffix_cons _ cs, fun spans => spans.dash next⟩

theorem dropWhile {p : Char → Bool} (hp : ∀ c, p c → isInert c) (cs : List Char) :
    Passes cs (cs.dropWhile p) := by
  induction cs with
  | nil => exact refl []
  | cons c cs ih =>
    rw [List.dropWhile_cons]
    split
    · exact (cons (hp c ‹_›) cs).trans ih
    · exact refl _

end Passes

theorem isInert_of_isDigit {c : Char} (h : isDigit c) : isInert c := by
  simp only [isDigit, Bool.and_eq_true, decide_eq_true_eq, Char.le_def, UInt32.le_iff_toNat_le,
    Char.toNat_val, Char.reduceToNat] at h
  simp only [isInert, List.mem_cons, List.not_mem_nil, or_false, decide_eq_true_eq,
    ← Char.toNat_inj, Char.reduceToNat]
  omega

theorem isInert_of_isWordChar {c : Char} (h : isWordChar c) : isInert c := by
  simp only [isWordChar, isDigit, Bool.or_eq_true, Bool.and_eq_true, decide_eq_true_eq,
    Char.le_def, UInt32.le_iff_toNat_le, ← Char.toNat_inj, Char.toNat_val, Char.reduceToNat] at h
  simp only [isInert, List.mem_cons, List.not_mem_nil, or_false, decide_eq_true_eq,
    ← Char.toNat_inj, Char.reduceToNat]
  omega

theorem takeWhile_append_cons {p : Char → Bool} {y : Char} (stop : p y = false)
    (xs ys : List Char) : (xs ++ y :: ys).takeWhile p = xs.takeWhile p := by
  induction xs with
  | nil => simp [stop]
  | cons x xs ih => simp only [List.cons_append, List.takeWhile_cons, ih]

theorem dropWhile_append_cons {p : Char → Bool} {y : Char} (stop : p y = false)
    (xs ys : List Char) : (xs ++ y :: ys).dropWhile p = xs.dropWhile p ++ y :: ys := by
  induction xs with
  | nil => simp [stop]
  | cons x xs ih =>
    simp only [List.cons_append, List.dropWhile_cons, ih]
    split <;> rfl

/-! ## Numbers -/

theorem scanSign_append (cs more : List Char) :
    scanSign (cs ++ ')' :: more) = ((scanSign cs).1, (scanSign cs).2 ++ ')' :: more) := by
  match cs with
  | [] => rfl
  | c :: cs =>
    by_cases minus : c = '-'
    · subst minus
      rfl
    · by_cases plus : c = '+'
      · subst plus
        rfl
      · simp [scanSign, minus, plus]

theorem scanPoint_append (cs more : List Char) :
    scanPoint (cs ++ ')' :: more) =
      ((scanPoint cs).1, (scanPoint cs).2.1 ++ ')' :: more, (scanPoint cs).2.2) := by
  have stop : isDigit ')' = false := by decide
  match cs with
  | [] => rfl
  | c :: cs =>
    by_cases point : c = '.'
    · subst point
      simp only [scanPoint, List.cons_append, takeWhile_append_cons stop,
        dropWhile_append_cons stop]
    · simp [scanPoint, point]

theorem scanExponent_append (cs more : List Char) :
    scanExponent (cs ++ ')' :: more) =
      (scanExponent cs).map fun p => (p.1, p.2 ++ ')' :: more) := by
  have stop : isDigit ')' = false := by decide
  match cs with
  | [] => rfl
  | c :: cs =>
    simp only [scanExponent, List.cons_append, scanSign_append, takeWhile_append_cons stop,
      dropWhile_append_cons stop]
    split
    · split <;> rfl
    · rfl

/-- A number ends where it ends, whatever comes after the text. -/
theorem scanNumeric_append (cs more : List Char) :
    scanNumeric (cs ++ ')' :: more) =
      (scanNumeric cs).map fun p => (p.1, p.2 ++ ')' :: more) := by
  have stop : isDigit ')' = false := by decide
  simp only [scanNumeric, scanSign_append, takeWhile_append_cons stop, dropWhile_append_cons stop,
    scanPoint_append, scanExponent_append]
  split
  · rfl
  · cases scanExponent (scanPoint ((scanSign cs).2.dropWhile isDigit)).2.1 with
    | some p => rfl
    | none =>
      simp only [Option.map_none, apply_ite (Option.map _), Option.map_some]

theorem scanPoint_passes (cs : List Char) : Passes cs (scanPoint cs).2.1 := by
  unfold scanPoint
  split
  · exact (Passes.cons (by decide) _).trans (.dropWhile (fun _ => isInert_of_isDigit) _)
  · exact .refl _

theorem scanExponent_passes {cs rest : List Char} {e : Int}
    (h : scanExponent cs = some (e, rest)) : Passes cs rest := by
  match cs with
  | c :: cs =>
    simp only [scanExponent] at h
    split at h
    · rename_i letter
      split at h
      · cases h
      · rename_i digits
        cases h
        have first : isInert c := by rcases letter with rfl | rfl <;> decide
        refine (Passes.cons first cs).trans (.trans ?_ (.dropWhile (fun _ => isInert_of_isDigit) _))
        unfold scanSign at digits ⊢
        split
        · rename_i r
          refine .minus fun next => digits ?_
          cases r with
          | nil => cases next
          | cons c r => cases next; rfl
        · exact .cons (by decide) _
        · exact .refl _
    · cases h

/-- A number without a sign is passed over. -/
theorem scanNumeric_passes {c : Char} {cs rest : List Char} {n : Cell} (minus : c ≠ '-')
    (plus : c ≠ '+') (h : scanNumeric (c :: cs) = some (n, rest)) :
    Passes (c :: cs) rest ∧ rest.length < (c :: cs).length := by
  have sign : scanSign (c :: cs) = (false, c :: cs) := by simp [scanSign, minus, plus]
  simp only [scanNumeric, sign] at h
  split at h
  · cases h
  · rename_i digits
    have point : Passes (c :: cs) (scanPoint ((c :: cs).dropWhile isDigit)).2.1 :=
      .trans (.dropWhile (fun _ => isInert_of_isDigit) _) (scanPoint_passes _)
    -- A number without digits in front of the point has some behind it.
    have shorter : (scanPoint ((c :: cs).dropWhile isDigit)).2.1.length < (c :: cs).length := by
      by_cases digit : isDigit c
      · rw [List.dropWhile_cons_of_pos digit, List.length_cons]
        have inner := (scanPoint_passes (cs.dropWhile isDigit)).suffix.length_le
        have outer := (List.dropWhile_suffix isDigit (l := cs)).length_le
        omega
      · rw [List.dropWhile_cons_of_neg digit] at digits ⊢
        unfold scanPoint at digits ⊢
        split
        · rename_i r heq
          have := (List.dropWhile_suffix isDigit (l := r)).length_le
          rw [heq, List.length_cons]
          exact Nat.lt_succ_of_le this
        · simp [digit] at digits
    split at h
    · rename_i exponent
      cases h
      have power := scanExponent_passes exponent
      exact ⟨point.trans power, Nat.lt_of_le_of_lt power.suffix.length_le shorter⟩
    · have same : (scanPoint ((c :: cs).dropWhile isDigit)).2.1 = rest := by
        simp only [Bool.false_eq_true, if_false] at h
        split at h <;> exact (Prod.mk.inj (Option.some.inj h)).2
      rw [← same]
      exact ⟨point, shorter⟩

theorem takeWhile_length_drop {p : Char → Bool} (cs : List Char) :
    cs.drop (cs.takeWhile p).length = cs.dropWhile p := by
  induction cs with
  | nil => rfl
  | cons c cs ih =>
    rw [List.takeWhile_cons, List.dropWhile_cons]
    split
    · rw [List.length_cons, List.drop_succ_cons, ih]
    · rfl

/-! ## Number tokens -/

theorem isWordChar_headD_append (cs more : List Char) :
    isWordChar ((cs ++ ')' :: more).headD ' ') = isWordChar (cs.headD ' ') := by
  cases cs with
  | nil =>
    change isWordChar ')' = isWordChar ' '
    decide
  | cons c cs => rfl

theorem plain_append (cs more : List Char) :
    numberToken.plain (cs ++ ')' :: more) = numberToken.plain cs := by
  unfold numberToken.plain
  rw [scanNumeric_append]
  cases scanNumeric cs with
  | none => rfl
  | some p =>
    simp only [Option.map_some, isWordChar_headD_append, List.length_append,
      Nat.add_sub_add_right]

/-- The digits after a prefix for base sixteen. -/
def isHex (c : Char) : Bool :=
  (Text.hexValue? c).isSome

theorem isInert_of_isHex {c : Char} (h : isHex c) : isInert c := by
  have digit : isDigit c ∨ ('a' ≤ c && c ≤ 'f') ∨ ('A' ≤ c && c ≤ 'F') := by
    by_cases ten : isDigit c
    · exact .inl ten
    · by_cases low : 'a' ≤ c && c ≤ 'f'
      · exact .inr (.inl low)
      · by_cases high : 'A' ≤ c && c ≤ 'F'
        · exact .inr (.inr high)
        · simp [isHex, Text.hexValue?, ten, low, high] at h
  simp only [isDigit, Bool.and_eq_true, decide_eq_true_eq, Char.le_def, UInt32.le_iff_toNat_le,
    Char.toNat_val, Char.reduceToNat] at digit
  simp only [isInert, List.mem_cons, List.not_mem_nil, or_false, decide_eq_true_eq,
    ← Char.toNat_inj, Char.reduceToNat]
  omega

theorem numberToken_hex {x h : Char} (hx : x = 'x' ∨ x = 'X') (hh : isHex h) (rest : List Char) :
    numberToken ('0' :: x :: h :: rest) =
      (let ds := (h :: rest).takeWhile isHex
      let n := ds.foldl (fun n c => n * 16 + (Text.hexValue? c).getD 0) 0
      let after := (h :: rest).drop ds.length
      if isWordChar (after.headD ' ') then (.bad, ds.length + 2)
      else if n < 0x8000000000000000 then (.number (.int n), ds.length + 2)
      else if n < 0x10000000000000000 then
        (.number (.int (n - 0x10000000000000000)), ds.length + 2)
      else (.bad, ds.length + 2)) := by
  have both : (x = 'x' ∨ x = 'X') ∧ (Text.hexValue? h).isSome := ⟨hx, hh⟩
  simp only [numberToken, both]
  rfl

/-- The text starts with a number in base sixteen. -/
def startsHex : List Char → Bool
  | '0' :: x :: h :: _ => (x = 'x' ∨ x = 'X') ∧ isHex h
  | _ => false

theorem numberToken_plain {cs : List Char} (h : startsHex cs = false) :
    numberToken cs = numberToken.plain cs := by
  unfold numberToken
  split
  · rename_i x h' rest
    exact if_neg (of_decide_eq_false h)
  · rfl

theorem startsHex_append {cs : List Char} (nonempty : cs ≠ []) (more : List Char) :
    startsHex (cs ++ ')' :: more) = startsHex cs := by
  match cs with
  | [c] =>
    by_cases zero : c = '0'
    · subst zero
      cases more <;> simp [startsHex]
    · cases more <;> simp [startsHex, zero]
  | [c, x] =>
    by_cases zero : c = '0'
    · subst zero
      have stop : isHex ')' = false := by decide
      simp [startsHex, stop]
    · simp [startsHex, zero]
  | c :: x :: h :: rest =>
    by_cases zero : c = '0'
    · subst zero
      simp [startsHex]
    · simp [startsHex, zero]

theorem exists_of_startsHex {cs : List Char} (h : startsHex cs) :
    ∃ x d rest, cs = '0' :: x :: d :: rest ∧ (x = 'x' ∨ x = 'X') ∧ isHex d := by
  unfold startsHex at h
  split at h
  · rename_i x d rest
    exact ⟨x, d, rest, rfl, by simpa using h⟩
  · cases h

/-- A number is the same token whatever comes after the text. -/
theorem numberToken_append {cs : List Char} (nonempty : cs ≠ []) (more : List Char) :
    numberToken (cs ++ ')' :: more) = numberToken cs := by
  by_cases hex : startsHex cs
  · obtain ⟨x, d, rest, rfl, hx, hd⟩ := exists_of_startsHex hex
    have stop : isHex ')' = false := by decide
    have taken : (d :: (rest ++ ')' :: more)).takeWhile isHex = (d :: rest).takeWhile isHex :=
      takeWhile_append_cons stop (d :: rest) more
    have after : (d :: (rest ++ ')' :: more)).drop ((d :: rest).takeWhile isHex).length =
        (d :: rest).drop ((d :: rest).takeWhile isHex).length ++ ')' :: more := by
      rw [← List.cons_append, List.drop_append_of_le_length
        (List.takeWhile_prefix _).length_le]
    simp only [List.cons_append, numberToken_hex hx hd, taken, after, isWordChar_headD_append]
  · rw [Bool.not_eq_true] at hex
    rw [numberToken_plain hex, numberToken_plain (by rw [startsHex_append nonempty, hex]),
      plain_append]

/-- A number is passed over. -/
theorem numberToken_passes {c : Char} {cs : List Char} {kind : Token.Kind} {k : Nat}
    (minus : c ≠ '-') (plus : c ≠ '+') (h : numberToken (c :: cs) = (kind, k))
    (good : kind ≠ .bad) : kind ≠ .operator ∧ 0 < k ∧ k ≤ (c :: cs).length ∧
      Passes (c :: cs) ((c :: cs).drop k) := by
  -- The hexadecimal form is told from the decimal one by its first three characters.
  by_cases hex : startsHex (c :: cs)
  · obtain ⟨x, d, rest, heq, hx, hd⟩ := exists_of_startsHex hex
    rw [heq] at h ⊢
    rw [numberToken_hex hx hd] at h
    have le := (List.takeWhile_prefix isHex (l := d :: rest)).length_le
    have passed : Passes ('0' :: x :: d :: rest)
        (('0' :: x :: d :: rest).drop (((d :: rest).takeWhile isHex).length + 2)) := by
      have hx' : isInert x := by rcases hx with rfl | rfl <;> decide
      simp only [List.drop_succ_cons, takeWhile_length_drop]
      exact (Passes.cons (by decide) _).trans ((Passes.cons hx' _).trans
        (.dropWhile (fun _ => isInert_of_isHex) _))
    dsimp only at h
    split at h
    · cases h
      exact absurd rfl good
    · split at h
      · cases h
        exact ⟨by simp, by omega, by simpa using le, passed⟩
      · split at h
        · cases h
          exact ⟨by simp, by omega, by simpa using le, passed⟩
        · cases h
          exact absurd rfl good
  · rw [numberToken_plain (by simpa using hex), numberToken.plain] at h
    split at h
    · rename_i n rest scanned
      obtain ⟨passes, shorter⟩ := scanNumeric_passes minus plus scanned
      dsimp only at h
      split at h
      · cases h
        exact absurd rfl good
      · cases h
        refine ⟨by simp, by omega, by omega, ?_⟩
        rw [← List.suffix_iff_eq_drop.1 passes.suffix]
        exact passes
    · cases h
      exact absurd rfl good

end ResourceProvider.Engine
