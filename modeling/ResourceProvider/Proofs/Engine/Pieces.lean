import ResourceProvider.Proofs.Engine.Insertion
import ResourceProvider.Proofs.Engine.Query
/-!
# Texts that are put together

A piece of text is cut into its own tokens if none of them goes on into what may follow it: a blank,
a comma or a parenthesis. Pieces that follow one another are cut one by one (`Cuts.append`), so the
tokens of a text that is put together are known from its pieces (`Cuts.tokens`).
-/
namespace ResourceProvider.Engine

open Schema (isIdentifier)
open Text (isDigit)

/-! ## Fuel -/

/-- A token that can be read takes some text. -/
theorem nextToken_positive {c : Char} {cs : List Char} (good : (nextToken (c :: cs)).1 ≠ .bad) :
    0 < (nextToken (c :: cs)).2 := by
  by_cases blob : startsBlob (c :: cs)
  · have hex (r : List Char) (good : (nextToken.hexToken r).1 ≠ .bad) :
        0 < (nextToken.hexToken r).2 := by
      simp only [nextToken.hexToken]
      split <;> exact Nat.succ_pos _
    simp only [startsBlob, Bool.or_eq_true, decide_eq_true_eq] at blob
    rcases blob with h | h <;> obtain ⟨r, same⟩ := eq_of_take_two h <;> rw [same] at good ⊢ <;>
      exact hex r good
  by_cases marker : c ∈ markers
  · have quoted (make : String → Token.Kind) (q : Char) : 0 < (quotedToken make q cs).2 := by
      unfold quotedToken
      split <;> exact Nat.succ_pos _
    have named (rest : List Char) : 0 < (nextToken.namedToken rest).2 := by
      unfold nextToken.namedToken
      split <;> exact Nat.succ_pos _
    simp only [markers, List.mem_cons, List.not_mem_nil, or_false] at marker
    rcases marker with rfl | rfl | rfl | rfl | rfl | rfl | rfl | rfl
    · exact quoted .string '\''
    · exact quoted .quoted '"'
    · exact quoted .name '\x60'
    · simp only [nextToken]
      split <;> exact Nat.succ_pos _
    · simp only [nextToken]
      split <;> exact Nat.succ_pos _
    · exact named cs
    · exact named cs
    · exact named cs
  rw [nextToken_plain marker (by simpa using blob)] at good ⊢
  split_ifs at good ⊢ with word number
  · simp only [isWordStart, Bool.and_eq_true] at word
    simp [word.1.1]
  · have sign : c ≠ '-' ∧ c ≠ '+' := by
      constructor <;> (rintro rfl; revert number; simp [isDigit]; try decide)
    exact (numberToken_passes sign.1 sign.2 rfl good).2.1
  all_goals decide

/-- More fuel than characters makes no difference. -/
theorem tokensFrom_enough {n m : Nat} {cs : List Char} (hn : cs.length < n) (hm : cs.length < m) :
    tokensFrom n cs = tokensFrom m cs := by
  induction n generalizing cs m with
  | zero => cases hn
  | succ n ih =>
    obtain ⟨m, rfl⟩ := Nat.exists_eq_add_of_le' (show 1 ≤ m by omega)
    cases start : cs.drop (gapLength (cs.length + 1) cs) with
    | nil => simp only [tokensFrom, start]
    | cons c r =>
      obtain ⟨kind, k, token⟩ : ∃ kind k, nextToken (c :: r) = (kind, k) := ⟨_, _, rfl⟩
      simp only [tokensFrom, start, token]
      by_cases good : kind = .bad
      · rw [if_pos good, if_pos good]
      · have positive : 0 < (nextToken (c :: r)).2 := nextToken_positive (by rwa [token])
        have shorter := congrArg List.length start
        rw [token] at positive
        simp only [List.length_drop, List.length_cons] at shorter
        rw [if_neg good, if_neg good]
        exact congrArg _ (ih (by simp at positive ⊢; omega) (by simp at positive ⊢; omega))

/-- The tokens of characters. -/
def tokensOf (cs : List Char) : List Token :=
  tokensFrom (cs.length + 1) cs

theorem tokens_eq_tokensOf (s : String) : tokens s = tokensOf s.toList := by
  rw [tokens, tokensOf, String.length_toList]

/-! ## Pieces -/

/-- Nothing follows a piece, or a character that goes on with no name. -/
def EndsPiece (rest : List Char) : Prop :=
  ∀ c ∈ rest.head?, c ∈ [' ', ',', '(', ')']

theorem EndsPiece.append {cs rest : List Char} (h : EndsPiece cs) (ends : EndsPiece rest) :
    EndsPiece (cs ++ rest) := by
  cases cs with
  | nil => exact ends
  | cons c cs => exact h

theorem endsPiece_cons {c : Char} (h : c ∈ [' ', ',', '(', ')']) (cs : List Char) :
    EndsPiece (c :: cs) := by
  rintro _ ⟨⟩
  exact h

/-- The text is cut into the tokens, whatever ends it. -/
def Cuts (cs : List Char) (ts : List Token) : Prop :=
  ∀ rest, EndsPiece rest → tokensOf (cs ++ rest) = ts ++ tokensOf rest

namespace Cuts

variable {cs ds : List Char} {ts us : List Token} {g : List Char}

theorem nil : Cuts [] [] :=
  fun _ _ => rfl

theorem append (first : Cuts cs ts) (second : Cuts ds us) (ends : EndsPiece ds) :
    Cuts (cs ++ ds) (ts ++ us) := by
  intro rest behind
  rw [List.append_assoc, first _ (ends.append behind), second _ behind, List.append_assoc]

/-- The tokens of a text that starts with a piece. -/
theorem tokens_append {s clause : String} (h : Cuts s.toList ts) (ends : EndsPiece clause.toList) :
    tokens (s ++ clause) = ts ++ tokens clause := by
  rw [tokens_eq_tokensOf, tokens_eq_tokensOf, String.toList_append, h _ ends]

/-- A text that is one piece has the tokens of the piece. -/
theorem tokens {s : String} (h : Cuts s.toList ts) : tokens s = ts := by
  have whole := h [] (by simp [EndsPiece])
  have none : tokensOf [] = [] := by simp [tokensOf, tokensFrom]
  rwa [List.append_nil, none, List.append_nil, ← tokens_eq_tokensOf] at whole

/-- One token, if it is cut off with any fuel. -/
theorem of_succ {t : Token} (nonempty : cs ≠ [])
    (cut : ∀ rest fuel, EndsPiece rest →
      tokensFrom (fuel + 1) (cs ++ rest) = t :: tokensFrom fuel rest) : Cuts cs [t] := by
  intro rest behind
  have long := List.length_pos_iff.2 nonempty
  rw [tokensOf, cut rest _ behind, List.singleton_append, tokensOf]
  exact congrArg _ (tokensFrom_enough (by rw [List.length_append]; omega) (Nat.lt_succ_self _))

theorem word {s : String} (hs : isIdentifier s) (hg : isSlim g) :
    Cuts (g ++ s.toList) [⟨.word, g, s⟩] := by
  refine .of_succ ?_ fun rest fuel behind => ?_
  · rintro empty
    rw [(List.append_eq_nil_iff.1 empty).2 |> String.toList_eq_nil_iff.1] at hs
    cases hs
  cases rest with
  | cons d rest =>
    have ends : d ∈ [' ', ',', '(', ')'] := behind d rfl
    have stop : ∀ d ∈ [' ', ',', '(', ')'], isWordChar d = false ∧ d ≠ '\'' := by
      simp only [List.forall_mem_cons, List.not_mem_nil, false_implies, implies_true, and_true]
      decide
    rw [List.append_assoc]
    exact tokensFrom_identifier hs hg (stop d ends).1 (stop d ends).2 fuel rest
  | nil =>
    unfold isIdentifier at hs
    split at hs
    · cases hs
    rename_i c w text
    rw [Bool.and_eq_true, List.all_eq_true] at hs
    have start := isWordStart_of_isNameStart hs.1
    have all : w.all isWordChar :=
      List.all_eq_true.2 fun c mem => isWordChar_of_isNameChar (hs.2 c mem)
    have gap : startsGap (c :: w) = false := by
      have minus : c ≠ '-' := by
        rintro rfl
        cases start
      have slash : c ≠ '/' := by
        rintro rfl
        cases start
      simp [startsGap, isGap_of_isWordStart start, minus, slash]
    have read := tokensFrom_succ (w := g) fuel rfl (gapLength_slim hg gap) (by simp)
      (nextToken_end start all)
    rw [List.append_nil, text, read, if_neg (by simp), ← List.length_cons, List.take_length,
      List.drop_length, ← text, String.ofList_toList]

/-- Whatever comes behind a parenthesis that opens, it is a token of its own. -/
theorem opening (hg : isSlim g) (h : Cuts ds us) :
    Cuts (g ++ '(' :: ds) (⟨.operator, g, "("⟩ :: us) := by
  intro rest behind
  have cut := tokensFrom_open hg (g ++ '(' :: ds ++ rest).length (ds ++ rest)
  rw [← List.cons_append, ← List.append_assoc] at cut
  rw [tokensOf, cut, List.cons_append, ← h rest behind]
  exact congrArg _ (tokensFrom_enough (by simp; omega) (Nat.lt_succ_self _))

theorem closing : Cuts [')'] [⟨.operator, [], ")"⟩] :=
  .of_succ (by simp) fun rest fuel _ => tokensFrom_close fuel rest

theorem comma : Cuts [','] [⟨.operator, [], ","⟩] :=
  .of_succ (by simp) fun rest fuel _ => by
    refine tokensFrom_operator (g := []) (.inl rfl) (by decide) (fun mem => ?_) fuel
    have other : ∀ s ∈ pairs, ',' ∉ s.toList := by decide
    exact other _ mem (by simp)

end Cuts

/-! ## Words -/

/-- A word behind a blank. -/
def word (s : String) : Token :=
  ⟨.word, [' '], s⟩

/-- Words, each behind a blank. -/
def spaced (ws : List String) : List Char :=
  ws.flatMap fun w => ' ' :: w.toList

theorem endsPiece_spaced (ws : List String) : EndsPiece (spaced ws) := by
  cases ws with
  | nil => simp [EndsPiece, spaced]
  | cons w ws => exact endsPiece_cons (by decide) _

theorem Cuts.words {ws : List String} (names : ∀ w ∈ ws, isIdentifier w) :
    Cuts (spaced ws) (ws.map Engine.word) := by
  induction ws with
  | nil => exact .nil
  | cons w ws ih =>
    rw [List.forall_mem_cons] at names
    exact (Cuts.word names.1 (g := [' ']) (.inr rfl)).append (ih names.2) (endsPiece_spaced ws)

/-! ## Lists -/

section

variable {α : Type}

/-- Tokens of items with commas between them; `g` is the gap before the first item. -/
def separated (item : List Char → α → List Token) (g : List Char) : List α → List Token
  | [] => []
  | [a] => item g a
  | a :: b :: as => item g a ++ ⟨.operator, [], ","⟩ :: separated item [' '] (b :: as)

theorem separated_map {β : Type} (item : List Char → β → List Token) (f : α → β) (g : List Char)
    (as : List α) : separated item g (as.map f) = separated (fun g a => item g (f a)) g as := by
  fun_induction separated (fun g a => item g (f a)) g as with
  | case1 | case2 => rfl
  | case3 g a b as ih => exact congrArg (item g (f a) ++ ⟨.operator, [], ","⟩ :: ·) ih

theorem separated_start {item : List Char → α → List Token} {g : List Char} {a : α} {t : Token}
    {rest : List Token} (first : item g a = t :: rest) (as : List α) :
    ∃ more, separated item g (a :: as) = t :: more := by
  cases as with
  | nil => exact ⟨rest, first⟩
  | cons b as => exact ⟨_, by rw [separated, first, List.cons_append]⟩

/-- There is a comma behind each item but the last. -/
theorem length_separated (item : List Char → α → List Token) (g : List Char) (as : List α) :
    as.length ≤ (separated item g as).length + 1 := by
  fun_induction separated item g as with
  | case1 | case2 => simp
  | case3 g a b as ih =>
    simp only [List.length_append, List.length_cons] at ih ⊢
    omega

/-- Items are cut one by one. -/
theorem Cuts.separated {item : List Char → α → List Token} {text : α → String} {as : List α}
    (items : ∀ a ∈ as, ∀ g, isSlim g → Cuts (g ++ (text a).toList) (item g a)) {g : List Char}
    (hg : isSlim g) (nonempty : as ≠ []) :
    Cuts (g ++ (Text.join ", " (as.map text)).toList) (separated item g as) := by
  induction as generalizing g with
  | nil => exact absurd rfl nonempty
  | cons a as ih =>
    rw [List.forall_mem_cons] at items
    cases as with
    | nil =>
      have single : Text.join ", " [text a] = text a := by simp [Text.join]
      rw [List.map_cons, List.map_nil, single]
      exact items.1 g hg
    | cons b as =>
      have more := ih items.2 (g := [' ']) (.inr rfl) (by simp)
      have rest := Cuts.comma.append more (endsPiece_cons (by decide) _)
      have whole := (items.1 g hg).append rest (endsPiece_cons (by decide) _)
      rw [List.map_cons, List.map_cons, toList_join, Engine.separated]
      simpa using whole

end

end ResourceProvider.Engine
