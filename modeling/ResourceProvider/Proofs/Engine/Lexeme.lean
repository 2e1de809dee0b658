import ResourceProvider.Proofs.Engine.Number
import ResourceProvider.Proofs.Engine.Reading
/-!
# Tokens of balanced texts

A text whose parentheses, quotes and comments are balanced is cut into the same tokens inside of
parentheses as on its own: no token ends after it. What the reader of parentheses counts is what
the tokens open and close.
-/
namespace ResourceProvider.Engine

open Sql (Reader Spot)
open Text (isDigit)

/-! ## Quotes -/

theorem step_quoted (close c : Char) (d : Nat) :
    Reader.step ⟨.quoted close, d⟩ c =
      some ⟨if c = close then .outside else .quoted close, d⟩ := by
  simp [Reader.step, Spot.isOutside, Spot.next]

/-- In quotes the reader comes outside at the closing quote. -/
theorem unquote_spans {quote : Char} (hq : quote ∈ ['\'', '"', '\x60']) {cs : List Char}
    {d d' : Nat} {spot : Spot} (outside : spot.isOutside)
    (read : cs.foldlM Reader.step ⟨.quoted quote, d⟩ = some ⟨spot, d'⟩) :
    ∃ s n, unquote quote cs = some (s, n) ∧ n ≤ cs.length ∧ Spans d (cs.drop n) d' ∧
      ∀ more, unquote quote (cs ++ ')' :: more) = some (s, n) := by
  have notClosing : ')' ≠ quote := by
    rintro rfl
    revert hq
    decide
  have enters : Reader.step ⟨.outside, d⟩ quote = some ⟨.quoted quote, d⟩ := by
    simp only [List.mem_cons, List.not_mem_nil, or_false] at hq
    rcases hq with rfl | rfl | rfl <;> rfl
  -- The induction is along the text, with two characters at once where a quote is doubled.
  fun_induction unquote quote cs with
  | case1 =>
    cases read
    cases outside
  | case2 =>
    rw [List.foldlM_cons, step_quoted, if_pos rfl] at read
    cases read
    exact ⟨[], 1, rfl, Nat.le_refl _, Spans.nil_iff.2 rfl, fun more => by
      simp [unquote, notClosing]⟩
  | case3 c open_ =>
    rw [List.foldlM_cons, step_quoted, if_neg open_] at read
    cases read
    cases outside
  | case4 rest ih =>
    rw [List.foldlM_cons, step_quoted, if_pos rfl] at read
    simp only [List.foldlM_cons, enters, Option.bind_eq_bind, Option.bind_some] at read
    obtain ⟨s, n, hs, le, spans, same⟩ := ih read
    refine ⟨quote :: s, n + 2, by rw [hs]; rfl, by simpa using le, spans, fun more => ?_⟩
    simp [unquote, same]
  | case5 d' rest last =>
    rw [List.foldlM_cons, step_quoted, if_pos rfl] at read
    exact ⟨[], 1, rfl, by simp, ⟨spot, read, outside⟩, fun more => by simp [unquote, last]⟩
  | case6 c e rest open_ ih =>
    rw [List.foldlM_cons, step_quoted, if_neg open_] at read
    obtain ⟨s, n, hs, le, spans, same⟩ := ih read
    refine ⟨c :: s, n + 1, by rw [hs]; rfl, by simpa using le, spans, fun more => ?_⟩
    have := same more
    simp only [List.cons_append] at this ⊢
    simp [unquote, open_, this]

/-- What is read up to a closing character ends at it. -/
theorem takeWhile_spans {q : Char} (hc : q ≠ ')') {cs : List Char} {d d' : Nat}
    {spot : Spot} (outside : spot.isOutside)
    (read : cs.foldlM Reader.step ⟨.quoted q, d⟩ = some ⟨spot, d'⟩) :
    ∃ w r, cs = w ++ q :: r ∧ w.all (· ≠ q) ∧ Spans d r d' := by
  induction cs with
  | nil =>
    cases read
    cases outside
  | cons c cs ih =>
    rw [List.foldlM_cons, step_quoted] at read
    by_cases last : c = q
    · subst last
      rw [if_pos rfl] at read
      exact ⟨[], cs, rfl, rfl, spot, read, outside⟩
    · rw [if_neg last] at read
      obtain ⟨w, r, rfl, all, spans⟩ := ih read
      exact ⟨c :: w, r, rfl, by rw [List.all_cons, all]; simp [last], spans⟩

/-! ## The next token -/

/-- The characters that a quoted token or a placeholder starts with. -/
def markers : List Char :=
  ['\'', '"', '\x60', '[', '?', ':', '@', '$']

/-- A hexadecimal literal starts with these two characters. -/
def startsBlob (cs : List Char) : Bool :=
  cs.take 2 = ['x', '\''] || cs.take 2 = ['X', '\'']

theorem nextToken_plain {c : Char} {cs : List Char} (marker : c ∉ markers)
    (blob : startsBlob (c :: cs) = false) : nextToken (c :: cs) =
      (if isWordStart c then (.word, ((c :: cs).takeWhile isWordChar).length)
      else if isDigit c ∨ (c = '.' ∧ isDigit (cs.headD ' ')) then numberToken (c :: cs)
      else if String.ofList ((c :: cs).take 2) ∈ pairs then (.operator, 2)
      else if c ∈ "=<>+-*/%&|~(),.;".toList then (.operator, 1)
      else (.bad, 1)) := by
  simp only [markers, List.mem_cons, List.not_mem_nil, or_false, not_or] at marker
  unfold nextToken
  split
  case h_1 =>
    rename_i heq
    cases heq
  case h_10 =>
    rename_i heq
    cases heq
    split
    · simp [startsBlob] at blob
    · simp [startsBlob] at blob
    · rfl
  all_goals
    rename_i heq
    cases heq
    simp at marker

/-- The shapes of a text in which a token is quoted or a placeholder. -/
theorem nextToken_quote {q : Char} (hq : q ∈ ['\'', '"', '\x60']) :
    ∃ make : String → Token.Kind, (∀ s, make s ≠ .operator) ∧
      ∀ cs, nextToken (q :: cs) = quotedToken make q cs := by
  simp only [List.mem_cons, List.not_mem_nil, or_false] at hq
  rcases hq with rfl | rfl | rfl
  · exact ⟨.string, by simp, fun _ => rfl⟩
  · exact ⟨.quoted, by simp, fun _ => rfl⟩
  · exact ⟨.name, by simp, fun _ => rfl⟩

/-- A token of a stretch of text, which is the same whatever comes after the text. -/
structure Lexeme (d : Nat) (cs : List Char) (d' : Nat) (kind : Token.Kind) (k : Nat) : Prop where
  append : ∀ more, nextToken (cs ++ ')' :: more) = (kind, k)
  spans : kind ≠ .bad → 0 < k ∧ k ≤ cs.length ∧ ∃ d₁, Spans d₁ (cs.drop k) d' ∧
    ∀ gap, Token.nest d ⟨kind, gap, String.ofList (cs.take k)⟩ = some d₁

theorem Lexeme.plain {d d' k : Nat} {cs : List Char} {kind : Token.Kind}
    (append : ∀ more, nextToken (cs ++ ')' :: more) = (kind, k)) (operator : kind ≠ .operator)
    (positive : 0 < k) (le : k ≤ cs.length) (spans : Spans d (cs.drop k) d') :
    Lexeme d cs d' kind k where
  append := append
  spans := fun _ => ⟨positive, le, d, spans, fun _ => Token.nest_plain
    (Token.not_isOperator_of_kind operator _) (Token.not_isOperator_of_kind operator _) d⟩

/-- A quoted token ends at its quote. -/
theorem lexeme_quote {q : Char} (hq : q ∈ ['\'', '"', '\x60']) {cs : List Char} {d d' : Nat}
    (spans : Spans d (q :: cs) d') :
    Lexeme d (q :: cs) d' (nextToken (q :: cs)).1 (nextToken (q :: cs)).2 := by
  obtain ⟨make, operator, same⟩ := nextToken_quote hq
  have enters : Reader.step ⟨.outside, d⟩ q = some ⟨.quoted q, d⟩ := by
    simp only [List.mem_cons, List.not_mem_nil, or_false] at hq
    rcases hq with rfl | rfl | rfl <;> rfl
  obtain ⟨spot, read, outside⟩ := spans
  rw [List.foldlM_cons, enters] at read
  obtain ⟨s, n, hs, le, after, append⟩ := unquote_spans hq outside read
  rw [same]
  simp only [quotedToken, hs]
  refine .plain (fun more => ?_) (operator _) (by omega) (by simpa using le) after
  rw [List.cons_append, same, quotedToken, append]

/-- A name in brackets ends at the closing one. -/
theorem lexeme_bracket {cs : List Char} {d d' : Nat} (spans : Spans d ('[' :: cs) d') :
    Lexeme d ('[' :: cs) d' (nextToken ('[' :: cs)).1 (nextToken ('[' :: cs)).2 := by
  obtain ⟨spot, read, outside⟩ := spans
  obtain ⟨w, r, rfl, all, after⟩ := takeWhile_spans (q := ']') (by decide) outside read
  have here (r : List Char) : nextToken ('[' :: (w ++ ']' :: r)) =
      (.name (String.ofList w), w.length + 2) := by
    have taken : (w ++ ']' :: r).takeWhile (· ≠ ']') = w :=
      takeWhile_append_stop r all (by decide)
    simp only [nextToken, taken]
    simp
  rw [here]
  refine .plain (fun more => ?_) (by simp) (by omega) (by simp) (by simpa using after)
  rw [List.cons_append, List.append_assoc]
  exact here _

/-- A placeholder ends after its position. -/
theorem lexeme_mark {cs : List Char} {d d' : Nat} (spans : Spans d ('?' :: cs) d') :
    Lexeme d ('?' :: cs) d' (nextToken ('?' :: cs)).1 (nextToken ('?' :: cs)).2 := by
  have stop : isDigit ')' = false := by decide
  have length : (nextToken ('?' :: cs)).2 = (cs.takeWhile isDigit).length + 1 := by
    rw [nextToken]
    split
    · rename_i none
      rw [none]
      rfl
    · rfl
  have operator : (nextToken ('?' :: cs)).1 ≠ .operator := by
    rw [nextToken]
    split
    · simp
    · split <;> simp
  refine .plain (fun more => ?_) operator (by omega) ?_ ?_
  · simp only [List.cons_append, nextToken, takeWhile_append_cons stop]
  · rw [length]
    simpa using (List.takeWhile_prefix isDigit (l := cs)).length_le
  · rw [length, List.drop_succ_cons, takeWhile_length_drop]
    exact (Passes.dropWhile (fun _ => isInert_of_isDigit) cs).spans (spans.inert (by decide))

/-- A closing parenthesis ends a name, and whatever comes after it does not matter. -/
theorem variableLength_append (started : Bool) (cs more : List Char) :
    variableLength started (cs ++ ')' :: more) = variableLength started cs := by
  have closes : isWordChar ')' = false := by decide
  -- The parenthesis is no second colon.
  have single {c : Char} {rest : List Char}
      (colons : ∀ r, c = ':' → rest = ':' :: r → False) (r : List Char) :
      c = ':' → rest ++ ')' :: more = ':' :: r → False := by
    rintro first second
    cases rest with
    | nil => cases second
    | cons e rest =>
      cases second
      exact colons rest first rfl
  fun_induction variableLength started cs with
  | case1 started rest ih => simp [variableLength, ih]
  | case2 started c rest colons word ih =>
    rw [List.cons_append, variableLength, if_pos word, ih]
    exact single colons
  | case3 started c rest colons word stops =>
    rw [List.cons_append, variableLength, if_neg word, if_pos stops]
    exact single colons
  | case4 started c rest colons word stops =>
    rw [List.cons_append, variableLength, if_neg word, if_neg stops]
    exact single colons
  | case5 => simp [variableLength, closes]
  | case6 started stops => simp [variableLength, closes, stops]

/-- A name leads over letters and colons. -/
theorem variableLength_passes {started : Bool} {cs : List Char} {n : Nat}
    (read : variableLength started cs = some n) : n ≤ cs.length ∧ Passes cs (cs.drop n) := by
  fun_induction variableLength started cs generalizing n with
  | case1 started rest ih =>
    obtain ⟨m, hm, rfl⟩ := Option.map_eq_some_iff.1 read
    obtain ⟨le, passes⟩ := ih hm
    exact ⟨by simpa using le,
      ((Passes.cons (by decide) _).trans (Passes.cons (by decide) _)).trans passes⟩
  | case2 started c rest colons word ih =>
    obtain ⟨m, hm, rfl⟩ := Option.map_eq_some_iff.1 read
    obtain ⟨le, passes⟩ := ih hm
    exact ⟨by simpa using le, (Passes.cons (isInert_of_isWordChar word) _).trans passes⟩
  | case3 | case5 =>
    cases read
    exact ⟨Nat.zero_le _, .refl _⟩
  | case4 | case6 => cases read

/-- A placeholder ends after its name. -/
theorem lexeme_named {c : Char} (hc : c ∈ [':', '@', '$']) {cs : List Char} {d d' : Nat}
    (spans : Spans d (c :: cs) d') :
    Lexeme d (c :: cs) d' (nextToken (c :: cs)).1 (nextToken (c :: cs)).2 := by
  simp only [List.mem_cons, List.not_mem_nil, or_false] at hc
  have same (r : List Char) : nextToken (c :: r) = nextToken.namedToken r := by
    rcases hc with rfl | rfl | rfl <;> rfl
  have inert : isInert c := by rcases hc with rfl | rfl | rfl <;> decide
  have append (more : List Char) :
      nextToken (c :: cs ++ ')' :: more) = nextToken (c :: cs) := by
    rw [List.cons_append, same, same, nextToken.namedToken, variableLength_append]
    rfl
  rw [same] at append ⊢
  cases read : variableLength false cs with
  | none =>
    simp only [nextToken.namedToken, read] at append ⊢
    exact ⟨append, fun good => absurd rfl good⟩
  | some n =>
    obtain ⟨le, passes⟩ := variableLength_passes read
    simp only [nextToken.namedToken, read] at append ⊢
    exact .plain append (by simp) (by omega) (by simpa using le)
      (by simpa using passes.spans (spans.inert inert))

/-- A literal of bytes ends at its quote. -/
theorem lexeme_blob {cs : List Char} {d d' : Nat} (spans : Spans d cs d') (blob : startsBlob cs) :
    Lexeme d cs d' (nextToken cs).1 (nextToken cs).2 := by
  obtain ⟨x, cs, rfl, hx⟩ : ∃ x r, cs = x :: '\'' :: r ∧ (x = 'x' ∨ x = 'X') := by
    simp only [startsBlob, Bool.or_eq_true, decide_eq_true_eq] at blob
    rcases blob with h | h
    · obtain ⟨r, rfl⟩ := eq_of_take_two h
      exact ⟨'x', r, rfl, .inl rfl⟩
    · obtain ⟨r, rfl⟩ := eq_of_take_two h
      exact ⟨'X', r, rfl, .inr rfl⟩
  have same (r : List Char) : nextToken (x :: '\'' :: r) = nextToken.hexToken r := by
    rcases hx with rfl | rfl <;> rfl
  have inert : isInert x := by rcases hx with rfl | rfl <;> decide
  obtain ⟨spot, read, outside⟩ := spans.inert inert
  obtain ⟨w, r, rfl, all, after⟩ := takeWhile_spans (q := '\'') (by decide) outside read
  -- What follows the closing quote does not matter.
  have here (r : List Char) : nextToken.hexToken (w ++ '\'' :: r) =
      match bytesOfHex? w with
      | some bytes => (.blob bytes, w.length + 3)
      | none => (.bad, w.length + 2) := by
    have taken : (w ++ '\'' :: r).takeWhile (· ≠ '\'') = w :=
      takeWhile_append_stop r all (by decide)
    simp only [nextToken.hexToken, taken, List.drop_left]
    cases bytesOfHex? w <;> rfl
  rw [same, here]
  have append (more : List Char) : nextToken (x :: '\'' :: (w ++ '\'' :: r) ++ ')' :: more) =
      nextToken.hexToken (w ++ '\'' :: (r ++ ')' :: more)) := by
    rw [← same]
    simp
  cases hb : bytesOfHex? w with
  | some bytes =>
    exact .plain (fun more => by rw [append, here, hb]) (by simp) (by simp) (by simp)
      (by simpa using after)
  | none => exact ⟨fun more => by rw [append, here, hb], fun good => absurd rfl good⟩

theorem headD_append (p : Char → Bool) (same : p ')' = p ' ') (cs more : List Char) :
    p ((cs ++ ')' :: more).headD ' ') = p (cs.headD ' ') := by
  cases cs with
  | nil => exact same
  | cons c cs => rfl

theorem length_of_mem_pairs : ∀ s ∈ pairs, s.toList.length = 2 := by
  decide

theorem mem_pairs_append (c : Char) (cs more : List Char) :
    String.ofList ((c :: cs ++ ')' :: more).take 2) ∈ pairs ↔
      String.ofList ((c :: cs).take 2) ∈ pairs := by
  cases cs with
  | nil =>
    constructor <;> intro mem
    · have closing : ∀ s ∈ pairs, ')' ∉ s.toList := by decide
      exact absurd (closing _ mem) (by simp)
    · have two := length_of_mem_pairs _ mem
      simp at two
  | cons e cs => rfl

theorem isOperator_mk (gap : List Char) (text op : String) :
    Token.isOperator ⟨.operator, gap, text⟩ op = decide (text = op) := by
  simp [Token.isOperator]

/-- An operator of two characters. -/
theorem lexeme_pair {c e : Char} {cs : List Char} {d d' : Nat} (spans : Spans d (c :: e :: cs) d')
    (pair : String.ofList [c, e] ∈ pairs)
    (append : ∀ more, nextToken (c :: e :: cs ++ ')' :: more) = (.operator, 2)) :
    Lexeme d (c :: e :: cs) d' .operator 2 where
  append := append
  spans := fun _ => by
    have inert : pairs.all fun s => s.toList.all isInert := by decide
    rw [List.all_eq_true] at inert
    have other : ∀ s ∈ pairs, s ≠ "(" ∧ s ≠ ")" := by decide
    have both := List.all_eq_true.1 (inert _ pair)
    have first : isInert c := both c (by simp)
    have second : isInert e := both e (by simp)
    refine ⟨by decide, by simp, d, (spans.inert first).inert second, fun gap => ?_⟩
    refine Token.nest_plain ?_ ?_ d
    · exact (isOperator_mk _ _ _).trans (decide_eq_false (other _ pair).1)
    · exact (isOperator_mk _ _ _).trans (decide_eq_false (other _ pair).2)

theorem isOperator_char (c e : Char) (gap : List Char) :
    Token.isOperator ⟨.operator, gap, String.ofList [c]⟩ (String.ofList [e]) = decide (c = e) := by
  have same : String.ofList [c] = String.ofList [e] ↔ c = e := by
    rw [← String.toList_inj, String.toList_ofList, String.toList_ofList, List.cons.injEq]
    simp
  rw [isOperator_mk, decide_eq_decide, same]

/-- An operator of one character. -/
theorem lexeme_single {c : Char} {cs : List Char} {d d' : Nat} (spans : Spans d (c :: cs) d')
    (stop : startsGap (c :: cs) = false) (single : c ∈ "=<>+-*/%&|~(),.;".toList)
    (append : ∀ more, nextToken (c :: cs ++ ')' :: more) = (.operator, 1)) :
    Lexeme d (c :: cs) d' .operator 1 where
  append := append
  spans := fun _ => by
    refine ⟨by decide, by simp, ?_⟩
    simp only [List.take_succ_cons, List.take_zero, List.drop_succ_cons, List.drop_zero]
    by_cases opens : c = '('
    · subst opens
      exact ⟨d + 1, spans.opening, fun gap => Token.nest_open (isOperator_char '(' '(' gap) d⟩
    · by_cases closes : c = ')'
      · subst closes
        obtain ⟨e, rfl, after⟩ := spans.closing
        exact ⟨e, after, fun gap => Token.nest_close (isOperator_char ')' ')' gap) e⟩
      · have plain (gap : List Char) :
            Token.nest d ⟨.operator, gap, String.ofList [c]⟩ = some d := by
          refine Token.nest_plain ?_ ?_ d
          · exact (isOperator_char c '(' gap).trans (decide_eq_false opens)
          · exact (isOperator_char c ')' gap).trans (decide_eq_false closes)
        refine ⟨d, ?_, plain⟩
        -- A dash or a slash could start a comment, but no gap starts here.
        by_cases minus : c = '-'
        · subst minus
          refine spans.dash fun next => ?_
          obtain ⟨r, rfl⟩ := List.head?_eq_some_iff.1 next
          simp [startsGap] at stop
        · by_cases slash : c = '/'
          · subst slash
            refine spans.slash fun next => ?_
            obtain ⟨r, rfl⟩ := List.head?_eq_some_iff.1 next
            simp [startsGap] at stop
          · have inert : "=<>+-*/%&|~(),.;".toList.all fun c =>
                c = '(' || c = ')' || c = '-' || c = '/' || isInert c := by decide
            have this := List.all_eq_true.1 inert c single
            exact spans.inert (by simpa [opens, closes, minus, slash] using this)

/-- A token that no mark announces. -/
theorem lexeme_plain {c : Char} {cs : List Char} {d d' : Nat} (spans : Spans d (c :: cs) d')
    (stop : startsGap (c :: cs) = false) (marker : c ∉ markers)
    (blob : startsBlob (c :: cs) = false) :
    Lexeme d (c :: cs) d' (nextToken (c :: cs)).1 (nextToken (c :: cs)).2 := by
  have same (more : List Char) : nextToken (c :: cs ++ ')' :: more) = nextToken (c :: cs) := by
    have blob' : startsBlob (c :: (cs ++ ')' :: more)) = false := by
      cases cs with
      | nil => simp [startsBlob]
      | cons e cs => simpa [startsBlob] using blob
    have word : (c :: (cs ++ ')' :: more)).takeWhile isWordChar =
        (c :: cs).takeWhile isWordChar := takeWhile_append_cons (by decide) (c :: cs) more
    have number : numberToken (c :: (cs ++ ')' :: more)) = numberToken (c :: cs) :=
      numberToken_append (List.cons_ne_nil c cs) more
    have pair : String.ofList ((c :: (cs ++ ')' :: more)).take 2) ∈ pairs ↔
        String.ofList ((c :: cs).take 2) ∈ pairs := mem_pairs_append c cs more
    rw [List.cons_append, nextToken_plain marker blob', nextToken_plain marker blob, word, number,
      headD_append isDigit (by decide)]
    simp only [pair]
  -- The kinds of token in the order in which they are tried.
  by_cases word : isWordStart c
  · have token : nextToken (c :: cs) = (.word, ((c :: cs).takeWhile isWordChar).length) := by
      rw [nextToken_plain marker blob, if_pos word]
    have first : isWordChar c := by
      simp only [isWordStart, Bool.and_eq_true] at word
      exact word.1.1
    rw [token] at same ⊢
    refine .plain same (by simp) (by simp [first]) (List.takeWhile_prefix _).length_le ?_
    rw [takeWhile_length_drop]
    exact (Passes.dropWhile (fun _ => isInert_of_isWordChar) _).spans spans
  · by_cases number : isDigit c ∨ (c = '.' ∧ isDigit (cs.headD ' '))
    · have token : nextToken (c :: cs) = numberToken (c :: cs) := by
        rw [nextToken_plain marker blob, if_neg word, if_pos number]
      have sign : c ≠ '-' ∧ c ≠ '+' := by
        constructor <;> (rintro rfl; revert number; simp [isDigit]; try decide)
      rw [token] at same ⊢
      refine ⟨same, fun good => ?_⟩
      obtain ⟨operator, positive, le, passes⟩ := numberToken_passes sign.1 sign.2 rfl good
      exact (Lexeme.plain same operator positive le (passes.spans spans)).spans good
    · by_cases pair : String.ofList ((c :: cs).take 2) ∈ pairs
      · have token : nextToken (c :: cs) = (.operator, 2) := by
          rw [nextToken_plain marker blob, if_neg word, if_neg number, if_pos pair]
        cases cs with
        | nil =>
          have two := length_of_mem_pairs _ pair
          simp at two
        | cons e cs =>
          rw [token] at same ⊢
          exact lexeme_pair spans pair same
      · by_cases single : c ∈ "=<>+-*/%&|~(),.;".toList
        · have token : nextToken (c :: cs) = (.operator, 1) := by
            rw [nextToken_plain marker blob, if_neg word, if_neg number, if_neg pair,
              if_pos single]
          rw [token] at same ⊢
          exact lexeme_single spans stop single same
        · have token : nextToken (c :: cs) = (.bad, 1) := by
            rw [nextToken_plain marker blob, if_neg word, if_neg number, if_neg pair,
              if_neg single]
          rw [token] at same ⊢
          exact ⟨same, fun good => absurd rfl good⟩

/-- The next token of a stretch of text. -/
theorem lexeme {c : Char} {cs : List Char} {d d' : Nat} (spans : Spans d (c :: cs) d')
    (stop : startsGap (c :: cs) = false) :
    Lexeme d (c :: cs) d' (nextToken (c :: cs)).1 (nextToken (c :: cs)).2 := by
  by_cases blob : startsBlob (c :: cs)
  · exact lexeme_blob spans blob
  · by_cases marker : c ∈ markers
    · simp only [markers, List.mem_cons, List.not_mem_nil, or_false] at marker
      rcases marker with rfl | rfl | rfl | rfl | rfl | rfl | rfl | rfl
      · exact lexeme_quote (by decide) spans
      · exact lexeme_quote (by decide) spans
      · exact lexeme_quote (by decide) spans
      · exact lexeme_bracket spans
      · exact lexeme_mark spans
      · exact lexeme_named (by decide) spans
      · exact lexeme_named (by decide) spans
      · exact lexeme_named (by decide) spans
    · exact lexeme_plain spans stop marker (by simpa using blob)

/-! ## Tokens -/

/-- A gap and a token at the head of a text. -/
theorem tokensFrom_succ {cs w r : List Char} {kind : Token.Kind} {k : Nat} (fuel : Nat)
    (text : cs = w ++ r) (gap : gapLength (cs.length + 1) cs = w.length) (more : r ≠ [])
    (token : nextToken r = (kind, k)) :
    tokensFrom (fuel + 1) cs =
      if kind = .bad then [⟨kind, w, String.ofList (r.take k)⟩]
      else ⟨kind, w, String.ofList (r.take k)⟩ :: tokensFrom fuel (r.drop k) := by
  subst text
  cases r with
  | nil => exact absurd rfl more
  | cons c r => simp only [tokensFrom, gap, List.drop_left, List.take_left, token]

theorem nextToken_close (cs : List Char) : nextToken (')' :: cs) = (.operator, 1) := by
  have pair : String.ofList ((')' :: cs).take 2) ∉ pairs := by
    have closing : ∀ s ∈ pairs, ')' ∉ s.toList := by decide
    exact fun mem => closing _ mem (by simp)
  rw [nextToken_plain (by decide) (by cases cs <;> simp [startsBlob]), if_neg (by decide),
    if_neg (by simp [isDigit]), if_neg pair, if_pos (by decide)]

/-- A stretch of text and the parenthesis that closes around it. Its tokens are the same as if it
stood alone, or they end in it without the parenthesis. -/
inductive Cut (fuel d : Nat) (cs : List Char) (d' : Nat) (more : List Char) (n : Nat) : Prop where
  | closed (gap : List Char) (k : Nat) :
      (tokensFrom fuel cs).foldlM Token.nest d = some d' → more.length < k →
      tokensFrom n (cs ++ ')' :: more) =
        tokensFrom fuel cs ++ ⟨.operator, gap, ")"⟩ :: tokensFrom k more →
      Cut fuel d cs d' more n
  | bad (depth : Nat) :
      (tokensFrom n (cs ++ ')' :: more)).foldlM Token.nest d = some depth →
      Cut fuel d cs d' more n

theorem cut_spans {d d' : Nat} {cs : List Char} (spans : Spans d cs d') (more : List Char)
    (fuel n : Nat) (enough : cs.length < fuel) (enough' : (cs ++ ')' :: more).length < n) :
    Cut fuel d cs d' more n := by
  induction fuel generalizing cs d n with
  | zero => cases enough
  | succ fuel ih =>
    obtain ⟨n, rfl⟩ := Nat.exists_eq_add_of_le' (show 1 ≤ n by omega)
    obtain ⟨w, r, gap, spans⟩ := gap_spans spans (Nat.lt_succ_self cs.length)
    have text : cs ++ ')' :: more = w ++ (r ++ ')' :: more) := by rw [gap.text, List.append_assoc]
    have length := gap.append more _ (Nat.lt_succ_self _)
    cases r with
    | nil =>
      obtain rfl := Spans.nil_iff.1 spans
      have none : tokensFrom (fuel + 1) cs = [] := by
        rw [tokensFrom, gap.length, gap.text]
        simp
      have closes := tokensFrom_succ n text length (by simp) (nextToken_close more)
      refine .closed w n (by rw [none]; rfl) (by simp at enough'; omega) ?_
      rw [none]
      exact closes
    | cons c r =>
      obtain ⟨kind, k, hk⟩ : ∃ kind k, nextToken (c :: r) = (kind, k) := ⟨_, _, rfl⟩
      have token := lexeme spans gap.stop
      rw [hk] at token
      have cut := tokensFrom_succ n text length (by simp) (token.append more)
      have alone := tokensFrom_succ fuel gap.text gap.length (by simp) hk
      by_cases good : kind = .bad
      · rw [if_pos good] at cut
        refine .bad d ?_
        rw [cut, good, List.foldlM_cons, Token.nest_plain rfl rfl]
        rfl
      · rw [if_neg good] at cut alone
        obtain ⟨positive, le, d₁, after, nest⟩ := token.spans good
        rw [List.take_append_of_le_length le, List.drop_append_of_le_length le] at cut
        have shorter : ((c :: r).drop k).length < (c :: r).length := by
          simp only [List.length_drop, List.length_cons]
          omega
        have total := congrArg List.length gap.text
        simp only [List.length_append] at total enough'
        dsimp only at after nest
        -- The rest of the text is shorter, so it is cut with one less fuel.
        rcases ih after n (by omega)
          (by simp only [List.length_append, List.length_cons] at enough' ⊢; omega) with
          ⟨gap', k', neutral, enough'', closes⟩ | ⟨depth, ends⟩
        · refine .closed gap' k' ?_ enough'' ?_
          · rw [alone, List.foldlM_cons, nest]
            exact neutral
          · rw [cut, closes, alone]
            rfl
        · refine .bad depth ?_
          rw [cut, List.foldlM_cons, nest]
          exact ends

end ResourceProvider.Engine
