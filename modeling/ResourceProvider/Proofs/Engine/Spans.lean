import ResourceProvider.Proofs.Engine.Keyword
import ResourceProvider.Proofs.Sql.Nesting
/-!
# Stretches of text

A stretch of text leads the reader of parentheses from outside to outside, maybe at another depth.
White space and comments at its head are a gap that ends in it, and the same one whatever comes
after the stretch.
-/
namespace ResourceProvider.Engine

open Sql (Reader Spot)

/-! ## Stretches of text -/

/-- From outside at one depth, the reader comes outside at another depth. -/
def Spans (d : Nat) (cs : List Char) (d' : Nat) : Prop :=
  ∃ spot, cs.foldlM Reader.step ⟨.outside, d⟩ = some ⟨spot, d'⟩ ∧ spot.isOutside

/-- Outside, the character changes neither where the reader stands nor what is open. -/
def isInert (c : Char) : Bool :=
  c ∉ ['\'', '"', '\x60', '[', '-', '/', '(', ')']

theorem step_inert {c : Char} (h : isInert c) (d : Nat) :
    Reader.step ⟨.outside, d⟩ c = some ⟨.outside, d⟩ := by
  simp only [isInert, List.mem_cons, List.not_mem_nil, or_false, not_or, decide_eq_true_eq] at h
  simp [Reader.step, Spot.next, Spot.enter, h]

namespace Spans

variable {c : Char} {cs : List Char} {d d' : Nat}

theorem nil_iff : Spans d [] d' ↔ d' = d := by
  constructor
  · rintro ⟨spot, h, -⟩
    cases h
    rfl
  · rintro rfl
    exact ⟨.outside, rfl, rfl⟩

/-- The reader goes on from wherever it is as good as outside. -/
theorem of_step {r : Reader} (h : Spans d (c :: cs) d')
    (step : Reader.step ⟨.outside, d⟩ c = some r)
    (outside : ∀ c ∈ cs.head?, r.step c = Reader.step ⟨.outside, r.depth⟩ c)
    (spot : r.spot.isOutside) : Spans r.depth cs d' := by
  obtain ⟨spot', read, done⟩ := h
  rw [List.foldlM_cons, step] at read
  cases cs with
  | nil =>
    cases read
    exact nil_iff.2 rfl
  | cons e cs =>
    refine ⟨spot', ?_, done⟩
    rw [List.foldlM_cons, ← outside e rfl]
    exact read

theorem inert (h : Spans d (c :: cs) d') (hc : isInert c) : Spans d cs d' :=
  h.of_step (step_inert hc d) (fun _ _ => rfl) rfl

theorem opening (h : Spans d ('(' :: cs) d') : Spans (d + 1) cs d' :=
  h.of_step (r := ⟨.outside, d + 1⟩) rfl (fun _ _ => rfl) rfl

theorem closing (h : Spans d (')' :: cs) d') : ∃ e, d = e + 1 ∧ Spans e cs d' := by
  cases d with
  | zero =>
    obtain ⟨spot, read, -⟩ := h
    cases read
  | succ d => exact ⟨d, rfl, h.of_step (r := ⟨.outside, d⟩) rfl (fun _ _ => rfl) rfl⟩

theorem dash (h : Spans d ('-' :: cs) d') (next : cs.head? ≠ some '-') : Spans d cs d' := by
  refine h.of_step (r := ⟨.dash, d⟩) rfl (fun c hc => ?_) rfl
  have ne : c ≠ '-' := by
    rintro rfl
    exact next hc
  simp [Reader.step, Spot.next, Spot.isOutside, ne]

theorem slash (h : Spans d ('/' :: cs) d') (next : cs.head? ≠ some '*') : Spans d cs d' := by
  refine h.of_step (r := ⟨.slash, d⟩) rfl (fun c hc => ?_) rfl
  have ne : c ≠ '*' := by
    rintro rfl
    exact next hc
  simp [Reader.step, Spot.next, Spot.isOutside, ne]

end Spans

/-! ## Gaps -/

/-- A comment is read up to its end, whatever comes after it. -/
theorem afterComment_spans {cs : List Char} {d d' : Nat} {spot : Spot} (outside : spot.isOutside) :
    (cs.foldlM Reader.step ⟨.block, d⟩ = some ⟨spot, d'⟩ → ∃ w r, cs = w ++ r ∧ Spans d r d' ∧
      ∀ more n, afterComment (w ++ more) n = n + w.length) ∧
    (cs.foldlM Reader.step ⟨.star, d⟩ = some ⟨spot, d'⟩ → ∃ w r, cs = w ++ r ∧ Spans d r d' ∧
      ∀ more n, afterComment ('*' :: (w ++ more)) n = n + w.length + 1) := by
  have notOpen {spot' : Spot} {c : Char} (inside : spot'.isOutside = false) :
      Reader.step ⟨spot', d⟩ c = some ⟨spot'.next c, d⟩ := by
    simp [Reader.step, inside]
  -- Both states of the reader inside a comment are followed at once: a star may end it.
  induction cs with
  | nil => constructor <;> (intro read; cases read; cases outside)
  | cons c cs ih =>
    obtain ⟨block, star⟩ := ih
    simp only [List.foldlM_cons, notOpen (c := c) (show Spot.block.isOutside = false from rfl),
      notOpen (c := c) (show Spot.star.isOutside = false from rfl), Spot.next]
    constructor
    · intro read
      by_cases isStar : c = '*'
      · subst isStar
        obtain ⟨w, r, rfl, spans, len⟩ := star read
        exact ⟨'*' :: w, r, rfl, spans, fun more n => len more n⟩
      · rw [if_neg isStar] at read
        obtain ⟨w, r, rfl, spans, len⟩ := block read
        refine ⟨c :: w, r, rfl, spans, fun more n => ?_⟩
        rw [List.cons_append, afterComment, len, List.length_cons]
        · omega
        · simp [isStar]
    · intro read
      by_cases isSlash : c = '/'
      · subst isSlash
        exact ⟨['/'], cs, rfl, ⟨spot, read, outside⟩, fun more n => rfl⟩
      · rw [if_neg isSlash] at read
        have next (rest : List Char) (n : Nat) :
            afterComment ('*' :: c :: rest) n = afterComment (c :: rest) (n + 1) := by
          rw [afterComment]
          simp [isSlash]
        by_cases isStar : c = '*'
        · subst isStar
          obtain ⟨w, r, rfl, spans, len⟩ := star read
          refine ⟨'*' :: w, r, rfl, spans, fun more n => ?_⟩
          rw [List.cons_append, next, len, List.length_cons]
          omega
        · rw [if_neg isStar] at read
          obtain ⟨w, r, rfl, spans, len⟩ := block read
          refine ⟨c :: w, r, rfl, spans, fun more n => ?_⟩
          rw [List.cons_append, next, afterComment, len, List.length_cons]
          · omega
          · simp [isStar]

/-- A comment to the end of the line is closed by it. -/
theorem line_spans {cs : List Char} {d d' : Nat} {spot : Spot} (outside : spot.isOutside)
    (read : cs.foldlM Reader.step ⟨.line, d⟩ = some ⟨spot, d'⟩) :
    ∃ w r, cs = w ++ '\n' :: r ∧ Spans d ('\n' :: r) d' ∧ w.all (· ≠ '\n') := by
  induction cs with
  | nil =>
    cases read
    cases outside
  | cons c cs ih =>
    by_cases last : c = '\n'
    · subst last
      exact ⟨[], cs, rfl, ⟨spot, read, outside⟩, rfl⟩
    · have stays : Reader.step ⟨.line, d⟩ c = some ⟨.line, d⟩ := by
        simp [Reader.step, Spot.isOutside, Spot.next, last]
      rw [List.foldlM_cons, stays] at read
      obtain ⟨w, r, rfl, spans, all⟩ := ih read
      exact ⟨c :: w, r, rfl, spans, by rw [List.all_cons, all]; simp [last]⟩

/-- The text starts with white space or a comment. -/
def startsGap (cs : List Char) : Bool :=
  cs.head?.any isGap || cs.take 2 = ['-', '-'] || cs.take 2 = ['/', '*']

theorem gapLength_of_not_startsGap {cs : List Char} (h : startsGap cs = false) (fuel : Nat) :
    gapLength fuel cs = 0 := by
  cases fuel with
  | zero => rfl
  | succ fuel =>
    unfold gapLength
    split
    · simp [startsGap] at h
    · simp [startsGap] at h
    · rw [if_neg]
      simp only [startsGap, Bool.or_eq_false_iff] at h
      simpa using h.1.1
    · rfl

theorem not_startsGap_append {cs : List Char} (h : startsGap cs = false) (more : List Char) :
    startsGap (cs ++ ')' :: more) = false := by
  match cs with
  | [] => simp [startsGap, isGap]
  | [c] => simpa [startsGap] using h
  | c :: e :: cs => simpa [startsGap] using h

/-- A text starts with a gap, which is the same whatever comes after the text. -/
structure Gap (fuel : Nat) (cs w r : List Char) : Prop where
  text : cs = w ++ r
  stop : startsGap r = false
  length : gapLength fuel cs = w.length
  append : ∀ more fuel', (cs ++ ')' :: more).length < fuel' →
    gapLength fuel' (cs ++ ')' :: more) = w.length

theorem Gap.none {cs : List Char} (stop : startsGap cs = false) (fuel : Nat) :
    Gap fuel cs [] cs where
  text := rfl
  stop := stop
  length := gapLength_of_not_startsGap stop fuel
  append := fun more _ _ => gapLength_of_not_startsGap (not_startsGap_append stop more) _

/-- White space or a comment before a gap. -/
theorem Gap.longer {fuel : Nat} {v cs w r : List Char} (h : Gap fuel cs w r)
    (length : ∀ fuel more, gapLength (fuel + 1) (v ++ (cs ++ more)) =
      v.length + gapLength fuel (cs ++ more)) (nonempty : v ≠ []) :
    Gap (fuel + 1) (v ++ cs) (v ++ w) r where
  text := by rw [h.text, List.append_assoc]
  stop := h.stop
  length := by
    have here := length fuel []
    simp only [List.append_nil] at here
    rw [here, h.length, List.length_append]
  append := fun more fuel' enough => by
    have shorter := List.length_pos_iff.2 nonempty
    obtain ⟨fuel', rfl⟩ := Nat.exists_eq_add_of_le' (show 1 ≤ fuel' by omega)
    simp only [List.length_append, List.length_cons] at enough
    rw [List.append_assoc, length, h.append more fuel' (by simp; omega), List.length_append]

theorem isInert_of_isGap {c : Char} (h : isGap c) : isInert c := by
  simp only [isGap, Bool.or_eq_true, Bool.and_eq_true, decide_eq_true_eq, Char.le_def,
    UInt32.le_iff_toNat_le, ← Char.toNat_inj, Char.toNat_val, Char.reduceToNat] at h
  simp only [isInert, List.mem_cons, List.not_mem_nil, or_false, decide_eq_true_eq,
    ← Char.toNat_inj, Char.reduceToNat]
  omega

theorem gapLength_white {c : Char} (h : isGap c) (fuel : Nat) (rest : List Char) :
    gapLength (fuel + 1) (c :: rest) = 1 + gapLength fuel rest := by
  have dash : c ≠ '-' := by
    rintro rfl
    revert h
    decide
  have slash : c ≠ '/' := by
    rintro rfl
    revert h
    decide
  simp [gapLength, dash, slash, h]

theorem gapLength_line {w : List Char} (all : w.all (· ≠ '\n')) (fuel : Nat) (rest : List Char) :
    gapLength (fuel + 1) ('-' :: '-' :: (w ++ '\n' :: rest)) =
      (w.length + 2) + gapLength fuel ('\n' :: rest) := by
  have taken : (w ++ '\n' :: rest).takeWhile (· ≠ '\n') = w :=
    takeWhile_append_stop rest all (by decide)
  simp only [gapLength, taken, Nat.add_comm 2, List.drop_succ_cons, List.drop_left]

theorem gapLength_block {w rest : List Char} (comment : afterComment (w ++ rest) 0 = w.length)
    (fuel : Nat) : gapLength (fuel + 1) ('/' :: '*' :: (w ++ rest)) =
      (w.length + 2) + gapLength fuel rest := by
  simp only [gapLength, comment, Nat.add_comm 2, List.drop_succ_cons, List.drop_left]

theorem eq_of_take_two {cs : List Char} {a b : Char} (h : cs.take 2 = [a, b]) :
    ∃ rest, cs = a :: b :: rest := by
  match cs with
  | c :: e :: rest =>
    cases h
    exact ⟨rest, rfl⟩

/-- A gap is closed in a stretch of text. -/
theorem gap_spans {fuel : Nat} {cs : List Char} {d d' : Nat} (spans : Spans d cs d')
    (enough : cs.length < fuel) : ∃ w r, Gap fuel cs w r ∧ Spans d r d' := by
  induction fuel generalizing cs with
  | zero => cases enough
  | succ fuel ih =>
    have before {v r : List Char} (hcs : cs = v ++ r) (after : Spans d r d') (nonempty : v ≠ [])
        (length : ∀ fuel more, gapLength (fuel + 1) (v ++ (r ++ more)) =
          v.length + gapLength fuel (r ++ more)) :
        ∃ w r, Gap (fuel + 1) cs w r ∧ Spans d r d' := by
      subst hcs
      have shorter := List.length_pos_iff.2 nonempty
      obtain ⟨w, r, gap, spans⟩ := ih after (by simp only [List.length_append] at enough; omega)
      exact ⟨v ++ w, r, gap.longer length nonempty, spans⟩
    -- White space, a comment to the end of the line, or a comment between marks.
    by_cases stop : startsGap cs = false
    · exact ⟨[], cs, .none stop _, spans⟩
    · simp only [startsGap, Bool.not_eq_false, Bool.or_eq_true, decide_eq_true_eq] at stop
      rcases stop with (white | line) | block
      · obtain ⟨c, cs, rfl⟩ : ∃ c r, cs = c :: r := by
          cases cs with
          | nil => cases white
          | cons c cs => exact ⟨c, cs, rfl⟩
        simp only [List.head?_cons, Option.any_some] at white
        exact before (v := [c]) rfl (spans.inert (isInert_of_isGap white)) (by simp)
          fun fuel more => gapLength_white white fuel _
      · obtain ⟨rest, rfl⟩ := eq_of_take_two line
        obtain ⟨spot, read, outside⟩ := spans
        obtain ⟨w, r, rfl, after, all⟩ := line_spans outside read
        refine before (v := '-' :: '-' :: w) rfl after (by simp) fun fuel more => ?_
        exact gapLength_line all fuel (r ++ more)
      · obtain ⟨rest, rfl⟩ := eq_of_take_two block
        obtain ⟨spot, read, outside⟩ := spans
        obtain ⟨w, r, rfl, after, comment⟩ := (afterComment_spans outside).1 read
        refine before (v := '/' :: '*' :: w) rfl after (by simp) fun fuel more => ?_
        exact gapLength_block (by simpa using comment (r ++ more) 0) fuel

end ResourceProvider.Engine
