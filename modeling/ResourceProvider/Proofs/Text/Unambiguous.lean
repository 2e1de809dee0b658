import ResourceProvider.Text.Blank
/-!
# Texts that can be told apart

A way of writing values is unambiguous if equal texts, whatever follows them, are of equal values.
Words end where no character of a word follows, codes of which none starts another one end by
themselves, and lists and optional parts end where their mark does not follow.
-/
namespace ResourceProvider.Text

variable {α : Type} {good : α → Prop} {follows ends : List Char → Prop} {write : α → List Char}

/-- Values can be told from their texts, as long as what follows is among what may follow. -/
def Unambiguous (good : α → Prop) (follows : List Char → Prop) (write : α → List Char) : Prop :=
  ∀ ⦃x y r s⦄, good x → good y → follows r → follows s → write x ++ r = write y ++ s → x = y ∧ r = s

/-! ## Words and codes -/

/-- A word ends where a character follows that is none of its own. -/
theorem unambiguous_word (p : Char → Bool) :
    Unambiguous (fun w => w.all p) (fun r => r.head?.all fun c => !p c) id := by
  have part {w r : List Char} (hw : w.all p) (hr : r.head?.all fun c => !p c) :
      (w ++ r).takeWhile p = w := by
    rw [List.takeWhile_append_of_pos (List.all_eq_true.1 hw)]
    cases r with
    | nil => exact List.append_nil w
    | cons c r => rw [List.takeWhile_cons_of_neg (by simpa using hr), List.append_nil]
  intro w v r s hw hv hr hs h
  obtain rfl : w = v := by rw [← part hw hr, ← part hv hs, ← id_eq w, h, id_eq]
  exact ⟨rfl, List.append_cancel_left h⟩

/-- Codes end by themselves if none is the start of another one. -/
theorem unambiguous_code (apart : ∀ x y, good x → good y → write x <+: write y → x = y) :
    Unambiguous good follows write := by
  intro x y r s hx hy _ _ h
  have starts : write x <+: write y ++ s := h ▸ List.prefix_append _ _
  obtain rfl : x = y := by
    rcases List.prefix_or_prefix_of_prefix starts (List.prefix_append _ s) with short | long
    · exact apart x y hx hy short
    · exact (apart y x hy hx long).symm
  exact ⟨rfl, List.append_cancel_left h⟩

/-- Codes of which one, `z`, writes nothing: it stands where the mark of the others does not
follow. -/
theorem unambiguous_optional {z : α} (nothing : write z = []) {mark : List Char}
    (starts : ∀ x, x ≠ z → mark <+: write x)
    (apart : ∀ x y, x ≠ z → y ≠ z → write x <+: write y → x = y) :
    Unambiguous good (fun r => ¬ mark <+: r) write := by
  have other {x : α} (hx : x ≠ z) {r s : List Char} (hr : ¬ mark <+: r) : r ≠ write x ++ s := by
    rintro rfl
    exact hr ((starts x hx).trans (List.prefix_append _ _))
  intro x y r s _ _ hr hs eq
  by_cases hx : x = z
  · subst hx
    by_cases hy : y = x
    · subst hy
      exact ⟨rfl, List.append_cancel_left eq⟩
    · rw [nothing, List.nil_append] at eq
      exact absurd eq (other hy hr)
  · by_cases hy : y = z
    · subst hy
      rw [nothing, List.nil_append] at eq
      exact absurd eq.symm (other hx hs)
    · have code : Unambiguous (· ≠ z) (fun _ => True) write := unambiguous_code apart
      exact code hx hy trivial trivial eq

/-! ## Lists -/

/-- Values one after another, each behind a mark. -/
def marked (mark : List Char) (write : α → List Char) (xs : List α) : List Char :=
  xs.flatMap fun x => mark ++ write x

theorem marked_cons (mark : List Char) (write : α → List Char) (x : α) (xs : List α)
    (r : List Char) :
    marked mark write (x :: xs) ++ r = mark ++ (write x ++ (marked mark write xs ++ r)) := by
  simp [marked]

theorem toList_join_cons (sep : String) (text : α → String) (x : α) (xs : List α) :
    (join sep (text x :: xs.map text)).toList =
      (text x).toList ++ marked sep.toList (fun x => (text x).toList) xs := by
  induction xs generalizing x with
  | nil => simp [join, marked]
  | cons y ys ih =>
    rw [List.map_cons, join, String.intercalate_cons_cons, String.toList_append,
      String.toList_append, ← join, ih, List.append_assoc]
    simp [marked]

section

variable {mark : List Char} (more : ∀ x r, good x → follows (mark ++ (write x ++ r)))
  (last : ∀ r, ends r → follows r) (apart : ∀ r, ends r → ¬ mark <+: r)

include more last in
theorem follows_marked {xs : List α} (hxs : ∀ x ∈ xs, good x) {r : List Char} (hr : ends r) :
    follows (marked mark write xs ++ r) := by
  cases xs with
  | nil => exact last r hr
  | cons x xs =>
    rw [marked_cons]
    exact more x _ (hxs x List.mem_cons_self)

include more last apart in
/-- A list is at its end where its mark does not follow. -/
theorem Unambiguous.list (h : Unambiguous good follows write) :
    Unambiguous (fun xs => ∀ x ∈ xs, good x) ends (marked mark write) := by
  intro xs ys r s hxs hys hr hs eq
  induction xs generalizing ys with
  | nil =>
    cases ys with
    | nil => exact ⟨rfl, eq⟩
    | cons y ys =>
      rw [marked_cons] at eq
      exact absurd ⟨_, eq.symm⟩ (apart r hr)
  | cons x xs ih =>
    rw [marked_cons] at eq
    cases ys with
    | nil => exact absurd ⟨_, eq⟩ (apart s hs)
    | cons y ys =>
      rw [marked_cons] at eq
      rw [List.forall_mem_cons] at hxs hys
      obtain ⟨rfl, tail⟩ := h hxs.1 hys.1 (follows_marked more last hxs.2 hr)
        (follows_marked more last hys.2 hs) (List.append_cancel_left eq)
      obtain ⟨rfl, rest⟩ := ih hxs.2 hys.2 tail
      exact ⟨rfl, rest⟩

end

/-- Texts with a separator between each two, and at least one of them. -/
theorem Unambiguous.joined {text : α → String} (h : Unambiguous good follows fun x => (text x).toList)
    {sep : String} (more : ∀ x r, good x → follows (sep.toList ++ ((text x).toList ++ r)))
    (last : ∀ r, ends r → follows r) (apart : ∀ r, ends r → ¬ sep.toList <+: r) :
    Unambiguous (fun xs => xs ≠ [] ∧ ∀ x ∈ xs, good x) ends
      fun xs => (join sep (xs.map text)).toList := by
  rintro (_ | ⟨x, xs⟩) (_ | ⟨y, ys⟩) r s ⟨hx, hxs⟩ ⟨hy, hys⟩ hr hs eq
  any_goals contradiction
  rw [List.forall_mem_cons] at hxs hys
  simp only [List.map_cons, toList_join_cons, List.append_assoc] at eq
  obtain ⟨rfl, tail⟩ := h hxs.1 hys.1 (follows_marked more last hxs.2 hr)
    (follows_marked more last hys.2 hs) eq
  obtain ⟨rfl, rest⟩ := h.list more last apart hxs.2 hys.2 hr hs tail
  exact ⟨rfl, rest⟩

end ResourceProvider.Text
