import ResourceProvider.Route.Path
/-!
# Segments of paths

A segment of a path is not empty and holds no slash. Segments joined by slashes are split into
themselves again (`segments_join`). So the canonical form of a path has the segments of its trimmed
text, and every list of segments is the list of some locator.
-/
namespace ResourceProvider

/-! ## Parts of a text -/

namespace Text

theorem split_of_not_mem {sep : Char} {cs : List Char} (h : sep ∉ cs) : split sep cs = [cs] := by
  induction cs with
  | nil => rfl
  | cons c cs ih =>
    rw [List.mem_cons, not_or] at h
    rw [split, if_neg (Ne.symm h.1), ih h.2]

theorem split_ne_nil (sep : Char) (cs : List Char) : split sep cs ≠ [] := by
  cases cs with
  | nil => simp [split]
  | cons c cs =>
    unfold split
    split
    · simp
    · split <;> simp

/-- What stands on the two sides of a separator is split on its own. -/
theorem split_append (sep : Char) (cs rest : List Char) :
    split sep (cs ++ sep :: rest) = split sep cs ++ split sep rest := by
  induction cs with
  | nil => simp [split]
  | cons c cs ih =>
    rw [List.cons_append, split, ih, split]
    split
    · rfl
    · cases parts : split sep cs with
      | nil => exact absurd parts (split_ne_nil sep cs)
      | cons part parts => rfl

theorem not_mem_of_mem_split {sep : Char} {cs part : List Char} (h : part ∈ split sep cs) :
    sep ∉ part := by
  induction cs generalizing part with
  | nil =>
    rw [split, List.mem_singleton] at h
    simp [h]
  | cons c cs ih =>
    unfold split at h
    split at h
    · rcases List.mem_cons.1 h with rfl | h
      · simp
      · exact ih h
    · rename_i other
      split at h
      · rw [List.mem_singleton] at h
        simpa [h] using Ne.symm other
      · rename_i first parts cut
        rw [cut] at ih
        rcases List.mem_cons.1 h with rfl | h
        · rw [List.mem_cons, not_or]
          exact ⟨Ne.symm other, ih (List.mem_cons_self ..)⟩
        · exact ih (List.mem_cons_of_mem _ h)

end Text

/-! ## Segments -/

namespace Route

/-- The text can stand between two slashes. -/
def IsSegment (s : String) : Prop :=
  s ≠ "" ∧ '/' ∉ s.toList

theorem isSegment_of_mem {path s : String} (h : s ∈ segments path) : IsSegment s := by
  obtain ⟨part, hpart, rfl⟩ := List.mem_map.1 h
  obtain ⟨cut, filled⟩ := List.mem_filter.1 hpart
  refine ⟨?_, ?_⟩
  · simpa using filled
  · rw [String.toList_ofList]
    exact Text.not_mem_of_mem_split cut

theorem segments_segment {s : String} (h : IsSegment s) : segments s = [s] := by
  have filled : s.toList ≠ [] := by simpa using h.1
  simp [segments, Text.split_of_not_mem h.2, filled]

theorem segments_append (path rest : String) :
    segments (path ++ "/" ++ rest) = segments path ++ segments rest := by
  have cut := Text.split_append '/' path.toList rest.toList
  simp [segments, String.toList_append, cut]

/-- Slashes at the end of a path make no difference to its segments. -/
theorem segments_trimmed (path : String) :
    segments (String.ofList (path.toList.reverse.dropWhile (· = '/')).reverse) =
      segments path := by
  have trim (cs : List Char) : segments (String.ofList (cs.dropWhile (· = '/')).reverse) =
      segments (String.ofList cs.reverse) := by
    induction cs with
    | nil => rfl
    | cons c cs ih =>
      by_cases slash : c = '/'
      · have last := segments_append (String.ofList cs.reverse) ""
        rw [List.dropWhile_cons_of_pos (by simp [slash]), ih, List.reverse_cons,
          String.ofList_append]
        simpa [slash, segments, Text.split] using last.symm
      · rw [List.dropWhile_cons_of_neg (by simp [slash])]
  simpa using trim path.toList.reverse

/-- Segments joined by slashes are split into themselves. -/
theorem segments_join {parts : List String} (h : ∀ s ∈ parts, IsSegment s) :
    segments (Text.join "/" parts) = parts := by
  unfold Text.join
  induction parts with
  | nil => rfl
  | cons s parts ih =>
    rw [List.forall_mem_cons] at h
    cases parts with
    | nil =>
      rw [String.intercalate_singleton]
      exact segments_segment h.1
    | cons t parts =>
      rw [String.intercalate_cons_cons, segments_append, segments_segment h.1, ih h.2,
        List.singleton_append]

/-- The canonical form of a path has the segments of its trimmed text. -/
theorem segments_canonicalPath (path : String) :
    segments (canonicalPath path) = segments (Text.trim path) := by
  unfold canonicalPath
  exact segments_join fun s hs => isSegment_of_mem hs

end Route

end ResourceProvider
