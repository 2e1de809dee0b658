import ResourceProvider.Proofs.Sql.Conjunction
/-!
# Parentheses in conditions

A reader of a condition counts the parentheses that stand outside of quotes and comments. A text is
`isBalanced` if the reader ends outside, at the depth at which it began, and was never below it.
`conjuncts` reads a condition as parenthesised groups with `AND` between them. A condition that is
added to a selection becomes one such group exactly if it is balanced (`conjuncts_filter`).
-/
namespace ResourceProvider.Sql

/-! ## The reader -/

/-- Where the reader stands. -/
inductive Spot where
  | outside
  /-- Outside, after a character that may begin a comment. -/
  | dash
  | slash
  /-- In quotes that the character closes. -/
  | quoted (close : Char)
  /-- In a comment up to the end of the line. -/
  | line
  | block
  /-- In a comment in slashes, after a star. -/
  | star
deriving DecidableEq

namespace Spot

/-- The reader is neither in quotes nor in a comment. -/
def isOutside : Spot → Bool
  | .outside => true
  | .dash => true
  | .slash => true
  | _ => false

/-- Where a character leads from outside, if it ends no beginning of a comment. -/
def enter (c : Char) : Spot :=
  if c = '\'' ∨ c = '"' ∨ c = '\x60' then .quoted c
  else if c = '[' then .quoted ']'
  else if c = '-' then .dash
  else if c = '/' then .slash
  else .outside

/-- Where a character leads. -/
def next : Spot → Char → Spot
  | .outside, c => enter c
  | .dash, c => if c = '-' then .line else enter c
  | .slash, c => if c = '*' then .block else enter c
  | .quoted close, c => if c = close then .outside else .quoted close
  | .line, c => if c = '\n' then .outside else .line
  | .block, c => if c = '*' then .star else .block
  | .star, c => if c = '/' then .outside else if c = '*' then .star else .block

end Spot

/-- Where the reader stands, and how many parentheses are open. -/
structure Reader where
  spot : Spot
  depth : Nat
deriving DecidableEq

namespace Reader

/-- Reads one character; nothing if it closes a parenthesis that was not opened. -/
def step (r : Reader) (c : Char) : Option Reader :=
  if r.spot.isOutside ∧ c = '(' then some ⟨.outside, r.depth + 1⟩
  else if r.spot.isOutside ∧ c = ')' then
    match r.depth with
    | 0 => none
    | depth + 1 => some ⟨.outside, depth⟩
  else some ⟨r.spot.next c, r.depth⟩

/-- The reader before the first character. -/
def start : Reader :=
  ⟨.outside, 0⟩

/-- Every parenthesis is closed, and so are quotes and comments. -/
def isDone (r : Reader) : Bool :=
  r.spot.isOutside && r.depth = 0

/-- Reads up to the parenthesis that closes what the reader is in, and gives what stands before it
and after it. -/
def group (r : Reader) : List Char → Option (List Char × List Char)
  | [] => none
  | c :: rest =>
    match r.step c with
    | none => some ([], rest)
    | some r => (r.group rest).map fun p => (c :: p.1, p.2)

end Reader

/-- The parentheses, quotes and comments of a text are closed in it. -/
def isBalanced (s : String) : Bool :=
  (s.toList.foldlM Reader.step .start).any Reader.isDone

/-! ## Groups -/

/-- A text as groups in parentheses with `AND` between them. -/
def groups : (fuel : Nat) → List Char → Option (List String)
  | 0, _ => none
  | fuel + 1, cs =>
    match cs with
    | '(' :: rest =>
      match Reader.start.group rest with
      | none => none
      | some (e, rest) =>
        if rest = [] then some [String.ofList e]
        else if " AND ".toList.isPrefixOf rest then
          (groups fuel (rest.drop 5)).map fun es => String.ofList e :: es
        else none
    | _ => none

/-- A condition as the conditions it joins; the empty condition joins none. -/
def conjuncts (condition : String) : Option (List String) :=
  if condition = "" then some [] else groups condition.length condition.toList

/-! ## One group -/

namespace Reader

theorem step_none {r : Reader} {c : Char} : r.step c = none ↔ r.isDone ∧ c = ')' := by
  obtain ⟨spot, depth⟩ := r
  by_cases closes : c = ')'
  · subst closes
    cases depth <;> cases outside : spot.isOutside <;> simp [step, isDone, outside]
  · simp only [step, closes, and_false, if_false, iff_false]
    split <;> simp

/-- A group is what stands before the first parenthesis that closes nothing. -/
theorem group_eq_some {r : Reader} {cs e rest : List Char} :
    r.group cs = some (e, rest) ↔ cs = e ++ ')' :: rest ∧ (e.foldlM step r).any isDone := by
  induction cs generalizing r e with
  | nil => simp [group]
  | cons c cs ih =>
    unfold group
    -- The reader stops at a parenthesis that closes nothing, and there the group ends.
    cases h : r.step c with
    | none =>
      obtain ⟨done, rfl⟩ := step_none.1 h
      cases e with
      | nil => simp [done]
      | cons d e =>
        have stuck : d = ')' → (List.foldlM step r (d :: e)).any isDone = false := by
          rintro rfl
          simp [h]
        simp only [Option.some.injEq, Prod.mk.injEq, reduceCtorEq, false_and, false_iff, not_and]
        intro same
        rw [stuck (List.cons.inj same).1.symm]
        simp
    | some r' =>
      cases e with
      | nil =>
        have goesOn : ¬(r.isDone ∧ c = ')') := by simp [← step_none, h]
        have none (p : List Char) :
            (r'.group cs).map (fun p => (c :: p.1, p.2)) ≠ some ([], p) := by
          cases r'.group cs <;> simp
        simp only [none, List.nil_append, List.cons.injEq, false_iff]
        rintro ⟨⟨rfl, -⟩, done⟩
        exact goesOn ⟨by simpa using done, rfl⟩
      | cons d e =>
        constructor
        · intro grouped
          obtain ⟨p, hp, heq⟩ := Option.map_eq_some_iff.1 grouped
          cases heq
          obtain ⟨rfl, done⟩ := ih.1 hp
          exact ⟨rfl, by simpa [h] using done⟩
        · rintro ⟨heq, done⟩
          obtain ⟨rfl, rfl⟩ := List.cons.inj heq
          rw [List.foldlM_cons, h] at done
          exact congrArg (Option.map _) (ih.2 ⟨rfl, done⟩)

end Reader

/-! ## All groups -/

theorem toList_conjunction_cons (e : String) (es : List String) :
    (conjunction (e :: es)).toList = '(' :: (e.toList ++ ')' ::
      if es = [] then [] else " AND ".toList ++ (conjunction es).toList) := by
  cases es with
  | nil => simp [conjunction, Text.join]
  | cons e' es => simp [conjunction, Text.join]

/-- A text reads as groups exactly if it joins them and each of them is balanced. -/
theorem groups_eq_some {fuel : Nat} {cs : List Char} {es : List String} :
    groups fuel cs = some es ↔
      es ≠ [] ∧ es.length ≤ fuel ∧ cs = (conjunction es).toList ∧ ∀ e ∈ es, isBalanced e := by
  induction fuel generalizing cs es with
  | zero => cases es <;> simp [groups]
  | succ fuel ih =>
    constructor
    · intro h
      unfold groups at h
      split at h
      · rename_i rest
        split at h
        · cases h
        · rename_i e after hgroup
          obtain ⟨rfl, done⟩ := Reader.group_eq_some.1 hgroup
          have balanced : isBalanced (String.ofList e) := by simpa [isBalanced] using done
          split at h
          · rename_i last
            cases h
            refine ⟨by simp, by simp, ?_, by simpa using balanced⟩
            simp [toList_conjunction_cons, last]
          · split at h
            · rename_i joined
              obtain ⟨es', hes', rfl⟩ := Option.map_eq_some_iff.1 h
              obtain ⟨nonempty, fits, text, all⟩ := ih.1 hes'
              obtain ⟨more, rfl⟩ := List.isPrefixOf_iff_prefix.1 joined
              have cut : more = (conjunction es').toList := by simpa using text
              refine ⟨by simp, by simpa using fits, ?_, by simpa using ⟨balanced, all⟩⟩
              rw [toList_conjunction_cons, if_neg nonempty, cut]
              simp
            · cases h
      · cases h
    · rintro ⟨nonempty, fits, rfl, all⟩
      obtain ⟨e, es, rfl⟩ := List.exists_cons_of_ne_nil nonempty
      have hgroup (after : List Char) :
          Reader.start.group (e.toList ++ ')' :: after) = some (e.toList, after) :=
        Reader.group_eq_some.2 ⟨rfl, all e (List.mem_cons_self ..)⟩
      rw [toList_conjunction_cons]
      unfold groups
      simp only [hgroup, String.ofList_toList]
      by_cases last : es = []
      · rw [if_pos last, if_pos rfl, last]
      · have rest : groups fuel (conjunction es).toList = some es :=
          ih.2 ⟨last, by simpa using fits, rfl, fun e he => all e (List.mem_cons_of_mem _ he)⟩
        -- The word between two groups is dropped by its length.
        have cut : (" AND ".toList ++ (conjunction es).toList).drop 5 =
            (conjunction es).toList := by simp
        rw [if_neg last, if_neg (by simp), if_pos (List.isPrefixOf_iff_prefix.2 ⟨_, rfl⟩), cut,
          rest]
        rfl

theorem length_le_conjunction (es : List String) : es.length ≤ (conjunction es).length := by
  induction es with
  | nil => simp
  | cons e es ih =>
    rw [← String.length_toList, toList_conjunction_cons]
    rw [← String.length_toList] at ih
    by_cases last : es = []
    · simp [last]
    · rw [if_neg last]
      simp only [List.length_cons, List.length_append]
      omega

/-- A condition reads as conjuncts exactly if it joins them and each of them is balanced. -/
theorem conjuncts_eq_some {condition : String} {es : List String} :
    conjuncts condition = some es ↔ condition = conjunction es ∧ ∀ e ∈ es, isBalanced e := by
  unfold conjuncts
  split
  · rename_i empty
    subst empty
    constructor
    · intro h
      cases h
      exact ⟨rfl, by simp⟩
    · rintro ⟨h, -⟩
      rw [conjunction_eq_empty.1 h.symm]
  · rename_i nonempty
    rw [groups_eq_some]
    constructor
    · rintro ⟨-, -, text, all⟩
      exact ⟨String.toList_inj.1 text, all⟩
    · rintro ⟨rfl, all⟩
      exact ⟨fun h => nonempty (conjunction_eq_empty.2 h), length_le_conjunction es, rfl, all⟩

/-- A visible condition that is added to a selection becomes one more conjunct exactly if it is
balanced. -/
theorem Selection.conjuncts_filter {s s' : Selection} {e : String} {args : List String}
    (added : s.filter e args = .ok s') (visible : Text.isVisible e) (es : List String) :
    conjuncts s'.condition = some (es ++ [e]) ↔
      conjuncts s.condition = some es ∧ isBalanced e := by
  have blank : Text.isBlank e = false := by simpa [Text.isVisible] using visible
  have text : s'.condition = conjunction (es ++ [e]) ↔ s.condition = conjunction es := by
    simp only [filter, blank, Bool.false_eq_true, if_false, Except.ok.injEq] at added
    subst added
    rw [conjunction_concat, String.append_left_inj, String.append_left_inj,
      String.append_left_inj]
    by_cases old : s.condition = "" <;> by_cases none : es = []
    · simp [old, none, conjunction, Text.join]
    · simp [old, none, conjunction_eq_empty, eq_comm (a := "")]
    · simp [old, none, conjunction, Text.join]
    · simp only [old, none, if_false, String.append_left_inj]
  rw [conjuncts_eq_some, conjuncts_eq_some, text]
  simp only [List.mem_append, List.mem_singleton, or_imp, forall_and, forall_eq, and_assoc]

end ResourceProvider.Sql
