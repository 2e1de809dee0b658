import ResourceProvider.Proofs.Engine.Groups
import ResourceProvider.Proofs.Engine.Lexeme
/-!
# Tokens of a conjunction

Conditions in parentheses are cut into groups of tokens, if each of them is balanced. If one of them
has a character that starts no token, the tokens end inside of its parentheses.
-/
namespace ResourceProvider.Engine

open Sql (Reader conjunction isBalanced)

theorem isBalanced_iff {e : String} : isBalanced e ↔ Spans 0 e.toList 0 := by
  simp only [isBalanced, Option.any_eq_true, Reader.isDone, Bool.and_eq_true, decide_eq_true_eq]
  constructor
  · rintro ⟨⟨spot, depth⟩, read, outside, rfl⟩
    exact ⟨spot, read, outside⟩
  · rintro ⟨spot, read, outside⟩
    exact ⟨⟨spot, 0⟩, read, outside, rfl⟩

/-! ## Groups that break off -/

theorem nest_succ {t : Token} {d d' : Nat} (h : t.nest d = some d') :
    t.nest (d + 1) = some (d' + 1) := by
  unfold Token.nest at h ⊢
  split
  · rw [if_pos ‹_›] at h
    cases h
    rfl
  · rw [if_neg ‹_›] at h
    split
    · rw [if_pos ‹_›] at h
      cases d with
      | zero => cases h
      | succ d =>
        cases h
        rfl
    · rw [if_neg ‹_›] at h
      cases h
      rfl

theorem foldlM_nest_succ {ts : List Token} {d d' : Nat} (h : ts.foldlM Token.nest d = some d') :
    ts.foldlM Token.nest (d + 1) = some (d' + 1) := by
  induction ts generalizing d with
  | nil =>
    cases h
    rfl
  | cons t ts ih =>
    rw [List.foldlM_cons] at h ⊢
    obtain ⟨d₁, h₁, h⟩ := Option.bind_eq_some_iff.1 h
    rw [nest_succ h₁]
    exact ih h

theorem nest_prefix (ts us : List Token) {d d' : Nat}
    (h : (ts ++ us).foldlM Token.nest d = some d') : ∃ d₁, ts.foldlM Token.nest d = some d₁ := by
  rw [List.foldlM_append] at h
  obtain ⟨d₁, h₁, -⟩ := Option.bind_eq_some_iff.1 h
  exact ⟨d₁, h₁⟩

/-- Groups in parentheses with `and` between them, of which the last one is not closed. -/
inductive Broken : List Token → Prop where
  | last {l : Token} {ts : List Token} {depth : Nat} : l.isOperator "(" →
      ts.foldlM Token.nest 0 = some depth → Broken (l :: ts)
  | cons {l r a : Token} {ts us : List Token} : l.isOperator "(" →
      ts.foldlM Token.nest 0 = some 0 → r.isOperator ")" → a.isWord "and" → Broken us →
      Broken (l :: (ts ++ r :: a :: us))

/-- Some parenthesis is still open at the end. -/
theorem Broken.nest {ts : List Token} (h : Broken ts) :
    ∃ depth, ts.foldlM Token.nest 0 = some (depth + 1) := by
  induction h with
  | @last _ _ depth hl inside =>
    refine ⟨depth, ?_⟩
    rw [List.foldlM_cons, Token.nest_open hl]
    exact foldlM_nest_succ inside
  | cons hl neutral hr ha _ ih =>
    obtain ⟨depth, ih⟩ := ih
    refine ⟨depth, ?_⟩
    rw [List.foldlM_cons, Token.nest_open hl]
    simp only [Option.bind_eq_bind, Option.bind_some, List.foldlM_append,
      foldlM_nest_succ neutral, List.foldlM_cons, Token.nest_close hr,
      Token.nest_plain (Token.not_isOperator_of_isWord ha _) (Token.not_isOperator_of_isWord ha _)]
    exact ih

/-- What is cut off inside of a group is broken. -/
theorem Broken.group {l : Token} {p : Token → Bool} {ts rest : List Token} (hl : l.isOperator "(")
    (neutral : ts.foldlM Token.nest 0 = some 0) (cut : ts.all p = false) (keeps : p l) :
    Broken ((l :: (ts ++ rest)).takeWhile p) := by
  have inside : (ts ++ rest).takeWhile p = ts.takeWhile p := by
    rw [List.takeWhile_append, if_neg]
    intro long
    have whole := (List.takeWhile_prefix p (l := ts)).eq_of_length long
    have all := List.all_takeWhile (p := p) (l := ts)
    rw [whole, cut] at all
    cases all
  obtain ⟨depth, nested⟩ := nest_prefix (ts.takeWhile p) (ts.dropWhile p)
    (by rw [List.takeWhile_append_dropWhile]; exact neutral)
  rw [List.takeWhile_cons, if_pos keeps, inside]
  exact .last hl nested

/-- Tokens of conditions in groups, unless they break off in one of them. -/
def Listed (tss : List (List Token)) (ts : List Token) : Prop :=
  Grouped tss ts ∧ (∀ ts ∈ tss, ts.foldlM Token.nest 0 = some 0) ∨ Broken ts

/-! ## Characters outside of conditions -/

/-- A gap that is empty or one blank. -/
def isSlim (g : List Char) : Prop :=
  g = [] ∨ g = [' ']

theorem gapLength_slim {g cs : List Char} (hg : isSlim g) (stop : startsGap cs = false) :
    gapLength ((g ++ cs).length + 1) (g ++ cs) = g.length := by
  rcases hg with rfl | rfl
  · exact gapLength_of_not_startsGap stop _
  · rw [List.singleton_append, gapLength_white (by decide), gapLength_of_not_startsGap stop]
    rfl

/-- An operator of one character. -/
theorem tokensFrom_operator {g r : List Char} {c : Char} (hg : isSlim g)
    (operator : c ∈ "=(,*".toList) (pair : String.ofList ((c :: r).take 2) ∉ pairs) (fuel : Nat) :
    tokensFrom (fuel + 1) (g ++ c :: r) =
      ⟨.operator, g, String.ofList [c]⟩ :: tokensFrom fuel r := by
  have plain : (c ∉ markers ∧ isWordStart c = false ∧ Text.isDigit c = false ∧ c ≠ '.' ∧
      c ∈ "=<>+-*/%&|~(),.;".toList) ∧ (c ≠ 'x' ∧ c ≠ 'X') ∧
      isGap c = false ∧ c ≠ '-' ∧ c ≠ '/' := by
    have chars : c = '=' ∨ c = '(' ∨ c = ',' ∨ c = '*' := by simpa using operator
    rcases chars with rfl | rfl | rfl | rfl <;> decide
  obtain ⟨⟨marker, word, digit, dot, single⟩, blob, gap⟩ := plain
  have token : nextToken (c :: r) = (.operator, 1) := by
    have blob : startsBlob (c :: r) = false := by cases r <;> simp [startsBlob, blob]
    rw [nextToken_plain marker blob, if_neg (by simp [word]), if_neg (by simp [digit, dot]),
      if_neg pair, if_pos single]
  have stop : startsGap (c :: r) = false := by simp [startsGap, gap]
  rw [tokensFrom_succ fuel rfl (gapLength_slim hg stop) (by simp) token]
  rfl

theorem tokensFrom_open {g : List Char} (hg : isSlim g) (fuel : Nat) (cs : List Char) :
    tokensFrom (fuel + 1) (g ++ '(' :: cs) = ⟨.operator, g, "("⟩ :: tokensFrom fuel cs := by
  refine tokensFrom_operator hg (by decide) (fun mem => ?_) fuel
  have other : ∀ s ∈ pairs, '(' ∉ s.toList := by decide
  exact other _ mem (by simp)

theorem tokensFrom_word {g w : List Char} {c d : Char} (hg : isSlim g) (fuel : Nat)
    (rest : List Char) (start : isWordStart c) (all : w.all isWordChar)
    (stop : isWordChar d = false) (quote : d ≠ '\'') :
    tokensFrom (fuel + 1) (g ++ c :: (w ++ d :: rest)) =
      ⟨.word, g, String.ofList (c :: w)⟩ :: tokensFrom fuel (d :: rest) := by
  have white : isGap c = false := isGap_of_isWordStart start
  have gap : startsGap (c :: (w ++ d :: rest)) = false := by
    have minus : c ≠ '-' := by
      rintro rfl
      cases start
    have slash : c ≠ '/' := by
      rintro rfl
      cases start
    simp [startsGap, white, minus, slash]
  rw [tokensFrom_succ fuel rfl (gapLength_slim hg gap) (by simp)
    (nextToken_word rest start all stop quote)]
  rw [if_neg (by simp), List.take_succ_cons, List.take_left' rfl, List.drop_succ_cons,
    List.drop_left' rfl]

/-! ## Conjunctions -/

/-- The tokens of a conjunction are its conditions in groups, unless they end inside of one. -/
theorem tokensFrom_conjunction {es : List String} (nonempty : es ≠ [])
    (balanced : ∀ e ∈ es, isBalanced e) {g : List Char} (hg : isSlim g) {n : Nat}
    (enough : (g ++ (conjunction es).toList).length < n) :
    Listed (es.map tokens) (tokensFrom n (g ++ (conjunction es).toList)) := by
  induction es generalizing g n with
  | nil => exact absurd rfl nonempty
  | cons e es ih =>
    have spans := isBalanced_iff.1 (balanced e (List.mem_cons_self ..))
    rw [Sql.toList_conjunction_cons] at enough ⊢
    obtain ⟨n, rfl⟩ := Nat.exists_eq_add_of_le' (show 1 ≤ n by omega)
    rw [tokensFrom_open hg]
    have cut := cut_spans spans
      (if es = [] then [] else " AND ".toList ++ (conjunction es).toList) (e.length + 1) n
      (by rw [String.length_toList]; omega)
      (by simp only [List.length_append, List.length_cons] at enough ⊢; omega)
    -- The tokens of a condition end at its closing parenthesis, or they break before it.
    rcases cut with ⟨gap, k, neutral, enough', cut⟩ | ⟨depth, cut⟩
    · rw [show tokensFrom (e.length + 1) e.toList = tokens e from rfl] at cut neutral
      rw [cut]
      by_cases last : es = []
      · subst last
        obtain ⟨k, rfl⟩ := Nat.exists_eq_add_of_le' (show 1 ≤ k by omega)
        left
        exact ⟨.last _ rfl rfl, by simpa using neutral⟩
      · rw [if_neg last] at enough' ⊢
        obtain ⟨k, rfl⟩ := Nat.exists_eq_add_of_le' (show 1 ≤ k by omega)
        have word := tokensFrom_word (g := [' ']) (c := 'A') (d := ' ') (w := "ND".toList)
          (.inr rfl) k (conjunction es).toList (by decide) (by decide) (by decide) (by decide)
        have rest := ih last (fun e he => balanced e (List.mem_cons_of_mem _ he)) (g := [' '])
          (.inr rfl) (n := k) (by simp at enough' ⊢; omega)
        change tokensFrom (k + 1) (" AND ".toList ++ (conjunction es).toList) = _ at word
        rw [word]
        rcases rest with ⟨grouped, inside⟩ | broken
        · left
          exact ⟨.cons _ rfl rfl (by decide) grouped, by simpa using And.intro neutral inside⟩
        · right
          exact .cons rfl neutral rfl (by decide) broken
    · right
      exact .last rfl cut

end ResourceProvider.Engine
