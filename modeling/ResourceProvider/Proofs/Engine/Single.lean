import Mathlib.Data.List.Pairwise
import ResourceProvider.Proofs.Engine.Binding
import ResourceProvider.Proofs.Engine.Conjunction
import ResourceProvider.Proofs.Engine.Keyword
/-!
# Statements with a condition

The first statement of a text ends at the first semicolon. If its condition is a list of groups,
either no semicolon stands in it or it breaks off in a group, where it says nothing. So an update
or a removal by groups is read as a whole, or it is refused.
-/
namespace ResourceProvider.Engine

/-! ## The first statement of a text -/

/-- The tokens before the first semicolon. -/
def firstPart (ts : List Token) : List Token :=
  ts.takeWhile fun t => !t.isOperator ";"

theorem mem_of_mem_firstPart {t : Token} {ts : List Token} (h : t ∈ firstPart ts) : t ∈ ts :=
  (List.takeWhile_sublist fun t : Token => !t.isOperator ";").subset h

theorem splitStatements_firstPart {t : Token} (ts : List Token) (h : t.isOperator ";" = false) :
    ∃ more, splitStatements (t :: ts) = firstPart (t :: ts) :: more ∧
      (firstPart (t :: ts) = t :: ts → more = []) := by
  induction ts generalizing t with
  | nil =>
    refine ⟨[], ?_, fun _ => rfl⟩
    simp [splitStatements, firstPart, h]
  | cons u ts ih =>
    by_cases hu : u.isOperator ";"
    · refine ⟨splitStatements (u :: ts), ?_, fun whole => ?_⟩
      · simp only [splitStatements, firstPart, List.takeWhile_cons, h, hu]
        cases splitStatements ts <;> simp [hu]
      · simp [firstPart, h, hu] at whole
    · obtain ⟨more, split, rest⟩ := ih (t := u) (by simpa using hu)
      refine ⟨more, ?_, fun whole => rest ?_⟩
      · unfold splitStatements
        rw [split]
        simp [h, hu, firstPart]
      · simpa [firstPart, h] using whole

theorem not_semicolon {t : Token} (h : (∃ op, t.isOperator op ∧ op ≠ ";") ∨ t.kind ≠ .operator) :
    (!t.isOperator ";") = true := by
  rcases h with ⟨op, h, ne⟩ | h
  · simp [Token.not_isOperator_of_ne h ne]
  · simp [Token.not_isOperator_of_kind h]

theorem firstPart_cons {t : Token} (h : (!t.isOperator ";") = true) (ts : List Token) :
    firstPart (t :: ts) = t :: firstPart ts := by
  simp only [firstPart, List.takeWhile_cons, h, if_true]

/-- What does not start with `CREATE` starts no trigger. -/
theorem startsTrigger_of_word {t : Token} (h : t.isWord "create" = false) (ts : List Token) :
    startsTrigger (t :: ts) = false := by
  simp [startsTrigger, keywords, keyword, h]

/-- The first statement of a text that starts no trigger ends at the first semicolon. -/
theorem statementsOf_firstPart {text : String} {t : Token} {ts : List Token}
    (read : tokens text = t :: ts) (other : t.isWord "create" = false)
    (plain : (!t.isOperator ";") = true) :
    ∃ more, statementsOf text = firstPart (t :: ts) :: more := by
  obtain ⟨more, split, -⟩ := splitStatements_firstPart ts (by simpa using plain)
  refine ⟨joinTriggers none more, ?_⟩
  rw [statementsOf, read, split, firstPart_cons plain, joinTriggers,
    startsTrigger_of_word other, if_neg Bool.false_ne_true]

/-- A text is run as its first statement, as far as that goes to the end of the text and has values
for its placeholders. -/
theorem Database.run_firstPart (db : Database) (params : List Cell) {text : String} (t : Token)
    (us ts : List Token) (read : tokens text = t :: (us ++ ts))
    (plain : ∀ u ∈ t :: us, (!u.isOperator ";") = true) (other : t.isWord "create" = false) :
    db.run text params = db.refuse ∨
      ∃ s, parseStatement (t :: (us ++ firstPart ts)) = some s ∧
        (firstPart ts = ts → ∀ {cells left},
          bind params (slotsAfter [] (t :: (us ++ ts))) params = .ok (cells, left) →
            db.run text params = db.runStatement cells s) := by
  have part : firstPart (t :: (us ++ ts)) = t :: (us ++ firstPart ts) :=
    List.takeWhile_append_of_pos plain
  have starts := plain t List.mem_cons_self
  cases parsed : parseStatement (t :: (us ++ firstPart ts)) with
  | none =>
    obtain ⟨more, split⟩ := statementsOf_firstPart read other starts
    exact .inl (by rw [Database.run, split, part, runAll, parsed])
  | some s =>
    refine .inr ⟨s, rfl, fun whole {cells left} bound => ?_⟩
    obtain ⟨more, split, last⟩ := splitStatements_firstPart (us ++ ts) (by simpa using starts)
    rw [part, whole] at split last
    rw [whole] at parsed
    have single : splitStatements (tokens text) = [t :: (us ++ ts)] := by
      rw [read, split, last rfl]
    rw [db.run_single params single, parsed, bound]

/-! ## What may follow -/

/-- Nothing follows, or one of some keywords does. -/
def Opens (ks : List String) (ts : List Token) : Prop :=
  ∀ w ∈ ts.head?, ∃ k ∈ ks, w.isWord k

namespace Opens

variable {ks : List String} {ts : List Token}

theorem numbered (h : Opens ks ts) (slots : Slots) : Opens ks (numberParams slots ts) := by
  cases ts with
  | nil => exact h
  | cons w ts =>
    obtain ⟨k, _, word⟩ := h w rfl
    rw [Token.numberParams_plain (.inr (Token.kind_of_isWord word))]
    exact h

theorem firstPart (h : Opens ks ts) : Opens ks (firstPart ts) := by
  cases ts with
  | nil => exact h
  | cons w ts =>
    obtain ⟨k, _, word⟩ := h w rfl
    rw [firstPart_cons (by simp [Token.not_isOperator_of_isWord word])]
    exact h

theorem keyword (h : Opens ks ts) {k : String} (other : k ∉ ks) : keyword k ts = none := by
  cases ts with
  | nil => rfl
  | cons w ts =>
    obtain ⟨k', mem, word⟩ := h w rfl
    exact keyword_other word (by rintro rfl; exact other mem) ts

theorem operator (h : Opens ks ts) (op : String) : operator op ts = none := by
  cases ts with
  | nil => rfl
  | cons w ts =>
    obtain ⟨k, _, word⟩ := h w rfl
    simp [Engine.operator, Token.not_isOperator_of_isWord word]

/-- A value ends before keywords that do not go on with it. -/
theorem halts (h : Opens ks ts)
    (ends : ∀ k ∈ ks, k ∉ "collate" :: suffixWords ∧ k ≠ "or" ∧ k ≠ "and") : Halts 0 ts := by
  cases ts with
  | nil => exact .nil
  | cons w ts =>
    obtain ⟨k, mem, word⟩ := h w rfl
    obtain ⟨suffix, or, and⟩ := ends k mem
    exact .word word suffix (fun _ => or) (fun _ => and) ts

end Opens

/-! ## Conditions in groups -/

theorem firstPart_group {l r a : Token} {ts us : List Token} (hl : l.isOperator "(")
    (neutral : ts.foldlM Token.nest 0 = some 0) (hr : r.isOperator ")") (ha : a.isWord "and") :
    firstPart (l :: (ts ++ r :: a :: us)) = l :: (ts ++ r :: a :: firstPart us) ∨
      Broken (firstPart (l :: (ts ++ r :: a :: us))) := by
  have keeps : (!l.isOperator ";") = true := not_semicolon (.inl ⟨_, hl, by decide⟩)
  cases all : ts.all fun t => !t.isOperator ";" with
  | false => exact .inr (.group hl neutral all keeps)
  | true =>
    left
    have closes : (!r.isOperator ";") = true := not_semicolon (.inl ⟨_, hr, by decide⟩)
    have word : (!a.isOperator ";") = true :=
      not_semicolon (.inr (by simp [Token.kind_of_isWord ha]))
    rw [firstPart_cons keeps, firstPart, List.takeWhile_append_of_pos (List.all_eq_true.1 all),
      ← firstPart, firstPart_cons closes, firstPart_cons word]

/-- Groups that break off do so before a semicolon, too. -/
theorem Broken.firstPart {ts : List Token} (h : Broken ts) : Broken (firstPart ts) := by
  induction h with
  | @last l ts depth hl inside =>
    rw [firstPart_cons (not_semicolon (.inl ⟨_, hl, by decide⟩))]
    rw [← List.takeWhile_append_dropWhile (p := fun t => !t.isOperator ";") (l := ts)] at inside
    obtain ⟨depth, part⟩ := nest_prefix _ _ inside
    exact .last hl part
  | cons hl neutral hr ha _ ih =>
    rcases firstPart_group hl neutral hr ha with whole | broken
    · rw [whole]
      exact .cons hl neutral hr ha ih
    · exact broken

theorem Grouped.firstPart {tss : List (List Token)} {ts : List Token} (h : Grouped tss ts)
    (neutral : ∀ ts ∈ tss, ts.foldlM Token.nest 0 = some 0) :
    firstPart ts = ts ∨ Broken (firstPart ts) := by
  induction h with
  | @last l r ts hl hr =>
    have keeps : (!l.isOperator ";") = true := not_semicolon (.inl ⟨_, hl, by decide⟩)
    have closes : (!r.isOperator ";") = true := not_semicolon (.inl ⟨_, hr, by decide⟩)
    cases all : ts.all fun t => !t.isOperator ";" with
    | false => exact .inr (.group hl (neutral _ (by simp)) all keeps)
    | true =>
      left
      rw [firstPart_cons keeps, Engine.firstPart,
        List.takeWhile_append_of_pos (List.all_eq_true.1 all), ← Engine.firstPart,
        firstPart_cons closes]
      rfl
  | cons ts hl hr ha _ ih =>
    rw [List.forall_mem_cons] at neutral
    rcases firstPart_group hl neutral.1 hr ha with whole | broken
    · rw [whole]
      rcases ih neutral.2 with same | broken
      · exact .inl (by rw [same])
      · exact .inr (.cons hl neutral.1 hr ha broken)
    · exact .inr broken

theorem parseValue_neutral {ts : List Token} {e : Written} (h : parseValue ts = some (e, [])) :
    ts.foldlM Token.nest 0 = some 0 := by
  obtain ⟨us, rfl, took⟩ := (isLocal (20 * ts.length + 20)).expr (by decide) (by simp) h
  rw [List.append_nil]
  exact took.shape 0

/-- Conditions in groups are read whole, each as it is read alone, or they are not read at all. -/
theorem Listed.read {tss : List (List Token)} {ts : List Token} (h : Listed tss ts) {slots : Slots}
    {e : Written} (read : parseValue (numberParams slots (firstPart ts)) = some (e, [])) :
    firstPart ts = ts ∧ Grouped tss ts ∧
      ∃ a es, ReadAlone (numberAll slots tss) (a :: es) ∧ e = es.foldl both a := by
  have closed : ¬ Broken (firstPart ts) := by
    intro broken
    obtain ⟨depth, nest⟩ := broken.nest
    have neutral := parseValue_neutral read
    rw [nest_numberParams, nest] at neutral
    cases neutral
  rcases h with ⟨grouped, neutral⟩ | broken
  · rcases grouped.firstPart neutral with same | broken
    · rw [same] at read
      have value := parseValue_grouped (grouped.numbered slots) (nest_numberAll neutral slots) read
      exact ⟨same, grouped, value⟩
    · exact absurd broken closed
  · exact absurd broken.firstPart closed

/-! ## Removals and updates -/

/-- Of two lists of keywords that stand at the head of the same tokens, one goes on with the other. -/
theorem keywords_agree {ks ks' : List String} {ts rest rest' : List Token}
    (h : keywords ks ts = some rest) (h' : keywords ks' ts = some rest') :
    ks <+: ks' ∨ ks' <+: ks := by
  induction ks generalizing ks' ts with
  | nil => exact .inl (List.nil_prefix)
  | cons k ks ih =>
    cases ks' with
    | nil => exact .inr (List.nil_prefix)
    | cons k' ks' =>
      obtain ⟨us, first, more⟩ := Option.bind_eq_some_iff.1 h
      obtain ⟨us', first', more'⟩ := Option.bind_eq_some_iff.1 h'
      obtain ⟨t, rfl, word⟩ := keyword_eq_some first
      obtain rfl : k = k' := by
        refine Decidable.byContradiction fun other => ?_
        rw [keyword_other word other] at first'
        cases first'
      cases first.symm.trans first'
      simpa only [List.cons_prefix_cons, true_and] using ih more more'

/-- No form of a statement starts with the words of another. -/
theorem statementForms_apart {f g : List String × Parse Statement} (hf : f ∈ statementForms)
    (hg : g ∈ statementForms) (starts : f.1 <+: g.1 ∨ g.1 <+: f.1) : f = g := by
  have apart : statementForms.Pairwise fun f g => ¬ (f.1 <+: g.1 ∨ g.1 <+: f.1) := by
    simp [statementForms]
  have : Std.Symm fun f g : List String × Parse Statement => ¬ (f.1 <+: g.1 ∨ g.1 <+: f.1) :=
    ⟨fun _ _ h h' => h h'.symm⟩
  by_contra other
  exact apart.forall hf hg other starts

/-- A statement that starts with the words of a form is read in that form. -/
theorem parseStatement_of_words {ts rest : List Token} {s : Statement} {ks : List String}
    (read : Parse Statement) (words : keywords ks (numberParams [] ts) = some rest)
    (known : (ks, read) ∈ statementForms) (parsed : parseStatement ts = some s) :
    read rest = some (s, []) := by
  obtain ⟨form, mem, rest', words', reads⟩ := parseStatement_form parsed
  obtain rfl := statementForms_apart mem known (keywords_agree words' words)
  cases words.symm.trans words'
  exact reads

theorem parseStatement_of_word {t : Token} {ts : List Token} {s : Statement} {k : String}
    (read : Parse Statement) (word : t.isWord k) (known : ([k], read) ∈ statementForms)
    (parsed : parseStatement (t :: ts) = some s) : read (numberParams [] ts) = some (s, []) := by
  refine parseStatement_of_words read ?_ known parsed
  rw [Token.numberParams_plain (.inr (Token.kind_of_isWord word)), keywords, keyword_cons word]
  rfl

theorem parseAfter_where {w : Token} {ts rest : List Token} {condition : Option Written}
    (hw : w.isWord "where") (h : parseAfter ["where"] (w :: ts) = some (condition, rest)) :
    ∃ e, condition = some e ∧ parseValue ts = some (e, rest) := by
  simp only [parseAfter, keywords, keyword_cons hw, Option.bind_some] at h
  obtain ⟨⟨e, rest⟩, read, heq⟩ := Option.map_eq_some_iff.1 h
  cases heq
  exact ⟨e, rfl, read⟩

theorem name?_word {t : Token} (h : t.kind = .word) {name : String} (named : t.name? = some name) :
    name = t.text := by
  simp only [Token.name?, h] at named
  split at named
  · cases named
  · cases named
    rfl

/-- A removal from a table by a condition. -/
theorem parseStatement_delete {d f n w : Token} {ts : List Token} {s : Statement}
    (hd : d.isWord "delete") (hf : f.isWord "from") (hn : n.kind = .word) (hw : w.isWord "where")
    (parsed : parseStatement (d :: f :: n :: w :: ts) = some s) :
    ∃ e, parseValue (numberParams [] ts) = some (e, []) ∧ s = .delete n.text (some e) := by
  have read := parseStatement_of_word parseDelete hd (by simp [statementForms]) parsed
  rw [Token.numberParams_plain (.inr (Token.kind_of_isWord hf)), Token.numberParams_plain (.inr hn),
    Token.numberParams_plain (.inr (Token.kind_of_isWord hw))] at read
  simp only [parseDelete, keyword_cons hf, Option.bind_eq_bind, Option.bind_some,
    Option.bind_eq_some_iff] at read
  obtain ⟨⟨name, rest⟩, table, ⟨condition, rest'⟩, after, heq⟩ := read
  obtain ⟨_, same, named, -⟩ := parseName_eq_some table
  cases same
  cases heq
  obtain ⟨e, rfl, value⟩ := parseAfter_where hw after
  exact ⟨e, value, by rw [name?_word hn named]⟩

/-- Columns that are set to placeholders, which are numbered from a position on, or not at all. -/
inductive Assigns : (position : Option Nat) → List String → List Token → Prop where
  | last {p : Option Nat} {n e m : Token} : n.kind = .word → e.isOperator "=" →
      m.kind = .param p → Assigns p [n.text] [n, e, m]
  | cons {p : Option Nat} {n e m c : Token} {cs : List String} {ts : List Token} :
      n.kind = .word → e.isOperator "=" → m.kind = .param p → c.isOperator "," →
      Assigns (p.map (· + 1)) cs ts → Assigns p (n.text :: cs) (n :: e :: m :: c :: ts)

theorem Assigns.plain {position : Option Nat} {cs : List String} {ts : List Token}
    (h : Assigns position cs ts) : ∀ t ∈ ts, (!t.isOperator ";") = true := by
  have marks {m : Token} {position : Option Nat} (hm : m.kind = .param position) :
      (!m.isOperator ";") = true :=
    not_semicolon (.inr (by simp [hm]))
  induction h with
  | last hn he hm =>
    simp only [List.forall_mem_cons]
    exact ⟨not_semicolon (.inr (by simp [hn])), not_semicolon (.inl ⟨_, he, by decide⟩), marks hm,
      by simp⟩
  | cons hn he hm hc _ ih =>
    simp only [List.forall_mem_cons]
    exact ⟨not_semicolon (.inr (by simp [hn])), not_semicolon (.inl ⟨_, he, by decide⟩), marks hm,
      not_semicolon (.inl ⟨_, hc, by decide⟩), ih⟩

theorem Assigns.isUnnamed {cs : List String} {ts : List Token} (h : Assigns none cs ts) :
    ∀ t ∈ ts, t.isUnnamed := by
  have operator {t : Token} {op : String} (h : t.isOperator op) : t.isUnnamed :=
    Token.isUnnamed_of_kind (.inl (Token.kind_of_isOperator h))
  generalize unnumbered : (none : Option Nat) = position at h
  induction h with
  | last hn he hm =>
    subst unnumbered
    simp only [List.forall_mem_cons]
    exact ⟨Token.isUnnamed_of_kind (.inr (.inl hn)), operator he,
      Token.isUnnamed_of_kind (.inr (.inr hm)), by simp⟩
  | cons hn he hm hc _ ih =>
    subst unnumbered
    simp only [List.forall_mem_cons]
    exact ⟨Token.isUnnamed_of_kind (.inr (.inl hn)), operator he,
      Token.isUnnamed_of_kind (.inr (.inr hm)), operator hc, ih rfl⟩

theorem Token.numbered_param {t : Token} (h : t.kind = .param none) (slots : Slots) :
    (t.numbered slots).kind = .param (some (slots.length + 1)) ∧
      t.slotsAfter slots = slots ++ [none] := by
  simp [Token.numbered, Token.slotsAfter, h]

theorem Assigns.numbered {cs : List String} {ts : List Token} (h : Assigns none cs ts)
    (slots : Slots) : Assigns (some (slots.length + 1)) cs (numberParams slots ts) := by
  generalize unnumbered : (none : Option Nat) = position at h
  induction h generalizing slots with
  | last hn he hm =>
    subst unnumbered
    rw [Token.numberParams_plain (.inr hn),
      Token.numberParams_plain (.inl (Token.kind_of_isOperator he)), numberParams_cons]
    exact .last hn he (Token.numbered_param hm slots).1
  | cons hn he hm hc _ ih =>
    subst unnumbered
    obtain ⟨kind, after⟩ := Token.numbered_param hm slots
    rw [Token.numberParams_plain (.inr hn),
      Token.numberParams_plain (.inl (Token.kind_of_isOperator he)), numberParams_cons,
      Token.numberParams_plain (.inl (Token.kind_of_isOperator hc)), after]
    refine .cons hn he kind hc ?_
    have next := ih (slots ++ [none]) rfl
    rwa [List.length_append] at next

theorem Assigns.slotsAfter {cs : List String} {ts : List Token} (h : Assigns none cs ts)
    (slots : Slots) : slotsAfter slots ts = slots ++ List.replicate cs.length none := by
  generalize unnumbered : (none : Option Nat) = position at h
  induction h generalizing slots with
  | last hn he hm =>
    subst unnumbered
    simp only [Engine.slotsAfter, List.foldl_cons, List.foldl_nil,
      (Token.isPlain_of_kind (.inr hn)).slotsAfter,
      (Token.isPlain_of_kind (.inl (Token.kind_of_isOperator he))).slotsAfter,
      (Token.numbered_param hm _).2]
    rfl
  | cons hn he hm hc _ ih =>
    subst unnumbered
    have next := ih (slots ++ [none]) rfl
    simp only [Engine.slotsAfter, List.foldl_cons,
      (Token.isPlain_of_kind (.inr hn)).slotsAfter,
      (Token.isPlain_of_kind (.inl (Token.kind_of_isOperator he))).slotsAfter,
      (Token.numbered_param hm _).2,
      (Token.isPlain_of_kind (.inl (Token.kind_of_isOperator hc))).slotsAfter] at next ⊢
    rw [next, List.append_assoc, List.length_cons, List.replicate_succ]
    rfl

/-- A placeholder is a whole value, if nothing behind it goes on with an operand. -/
theorem parseValue_param {m : Token} {ts : List Token} {k : Nat}
    (hm : m.kind = .param (some (k + 1))) (halts : Halts 0 ts) :
    parseValue (m :: ts) = some (.param k, ts) := by
  have takes (fuel : Nat) : parsePrimary (fuel + 1) (m :: ts) = some (.param k, ts) := by
    simp only [parsePrimary, hm, Nat.add_one_ne_zero, if_false, Nat.add_sub_cancel]
  have starts : StartsOperand m :=
    ⟨Token.not_isOperator_of_kind (by simp [hm]) _, Token.not_isOperator_of_kind (by simp [hm]) _,
      by simp [Token.isWord, hm]⟩
  have operand := parseExpr_operand (n := 20 * (m :: ts).length + 10) starts 8 (by decide)
    fun a rest h => by
      rw [takes] at h
      cases h
      exact halts
  rw [parseValue]
  exact operand.trans (takes _)

theorem parseChange_param {n e m : Token} {ts rest : List Token} {x : String × Written}
    (hn : n.kind = .word) (he : e.isOperator "=") {k : Nat} (hm : m.kind = .param (some (k + 1)))
    (halts : Halts 0 ts) (read : parseChange (n :: e :: m :: ts) = some (x, rest)) :
    x = (n.text, .param k) ∧ rest = ts := by
  simp only [parseChange, Option.bind_eq_bind, Option.bind_eq_some_iff] at read
  obtain ⟨⟨name, rest₁⟩, named, rest₂, equals, ⟨value, rest₃⟩, read, heq⟩ := read
  obtain ⟨_, same, column, -⟩ := parseName_eq_some named
  cases same
  cases heq
  rw [operator_cons he] at equals
  cases equals
  rw [parseValue_param hm halts] at read
  cases read
  exact ⟨by rw [name?_word hn column], rfl⟩

/-- Columns that are set to placeholders, as they are read: from the parameter `k` on. -/
def placeholderChanges (k : Nat) (columns : List String) : List (String × Written) :=
  (columns.zipIdx k).map fun c => (c.1, .param c.2)

/-- A list is over behind an item that no comma follows. -/
theorem parseList_last {α : Type} {item : Parse α} {x : α} {ts us rest : List Token} {fuel : Nat}
    {xs : List α} (first : ∀ y r, item ts = some (y, r) → y = x ∧ r = us)
    (ends : operator "," us = none) (read : parseList item fuel ts = some (xs, rest)) :
    xs = [x] ∧ rest = us := by
  cases fuel with
  | zero => cases read
  | succ fuel =>
    rw [parseList] at read
    split at read
    · cases read
    · rename_i reads
      obtain ⟨rfl, rfl⟩ := first _ _ reads
      rw [ends] at read
      cases read
      exact ⟨rfl, rfl⟩

/-- A list goes on behind a comma. -/
theorem parseList_comma {α : Type} {item : Parse α} {x : α} {c : Token} {ts us rest : List Token}
    {fuel : Nat} {xs : List α} (first : ∀ y r, item ts = some (y, r) → y = x ∧ r = c :: us)
    (hc : c.isOperator ",") (read : parseList item fuel ts = some (xs, rest)) :
    ∃ fuel' ys, parseList item fuel' us = some (ys, rest) ∧ xs = x :: ys := by
  cases fuel with
  | zero => cases read
  | succ fuel =>
    rw [parseList] at read
    split at read
    · cases read
    · rename_i reads
      obtain ⟨rfl, rfl⟩ := first _ _ reads
      rw [operator_cons hc] at read
      obtain ⟨⟨ys, rest⟩, list, same⟩ := Option.map_eq_some_iff.1 read
      cases same
      exact ⟨fuel, ys, list, rfl⟩

theorem parseList_assigns {k : Nat} {cs : List String} {ts : List Token}
    (h : Assigns (some (k + 1)) cs ts) {more rest : List Token} (opens : Opens ["where"] more)
    {fuel : Nat} {xs : List (String × Written)}
    (read : parseList parseChange fuel (ts ++ more) = some (xs, rest)) :
    xs = placeholderChanges k cs ∧ rest = more := by
  generalize numbered : some (k + 1) = position at h
  induction h generalizing fuel xs k with
  | last hn he hm =>
    subst numbered
    exact parseList_last (fun _ _ => parseChange_param hn he hm (opens.halts (by decide)))
      (opens.operator _) read
  | @cons p n e m c cs ts hn he hm hc _ ih =>
    subst numbered
    obtain ⟨fuel, ys, list, rfl⟩ := parseList_comma
      (fun _ _ => parseChange_param hn he hm (.separator hc (by decide) _)) hc read
    obtain ⟨rfl, rfl⟩ := ih list rfl
    exact ⟨rfl, rfl⟩

/-- The table of an update is no policy, whatever its name. -/
theorem parseOr_table {n k : Token} {ts rest : List Token} {policy : ConflictPolicy}
    (hk : k.isWord "set") (h : parseOr (n :: k :: ts) = some (policy, rest)) :
    policy = .none ∧ rest = n :: k :: ts := by
  unfold parseOr at h
  split at h
  · rename_i after or
    obtain ⟨_, same, -⟩ := keyword_eq_some or
    cases same
    obtain ⟨p, found, -⟩ := Option.map_eq_some_iff.1 h
    have named := List.find?_some found
    have other : ∀ p ∈ [ConflictPolicy.rollback, .abort, .fail, .ignore, .replace],
        Text.lower p.name ≠ "set" := by decide
    rw [Token.isWord, Bool.and_eq_true, decide_eq_true_eq, decide_eq_true_eq] at named hk
    exact absurd (named.2.symm.trans hk.2) (other p (List.mem_of_find?_eq_some found))
  · cases h
    exact ⟨rfl, rfl⟩

/-- An update of a table, of all rows or by a condition. -/
theorem parseStatement_changes {u n k : Token} {columns : List String}
    {assigns more : List Token} {s : Statement} (hu : u.isWord "update") (hn : n.kind = .word)
    (hk : k.isWord "set") (ha : Assigns none columns assigns) (opens : Opens ["where"] more)
    (parsed : parseStatement (u :: n :: k :: (assigns ++ more)) = some s) :
    ∃ condition,
      parseAfter ["where"] (numberParams (slotsAfter [] assigns) more) = some (condition, []) ∧
        s = .update .none n.text (placeholderChanges 0 columns) condition := by
  have read := parseStatement_of_word parseUpdate hu (by simp [statementForms]) parsed
  rw [Token.numberParams_plain (.inr hn), Token.numberParams_plain (.inr (Token.kind_of_isWord hk)),
    numberParams_append] at read
  simp only [parseUpdate, Option.bind_eq_bind, Option.bind_eq_some_iff] at read
  obtain ⟨⟨policy, rest₁⟩, or, ⟨name, rest₂⟩, table, rest₃, set, ⟨changes, rest₄⟩, list,
    ⟨condition, rest₅⟩, after, heq⟩ := read
  cases heq
  obtain ⟨rfl, rfl⟩ := parseOr_table hk or
  obtain ⟨_, same, named, -⟩ := parseName_eq_some table
  cases same
  rw [keyword_cons hk] at set
  cases set
  obtain ⟨rfl, rfl⟩ := parseList_assigns (ha.numbered []) (opens.numbered _) list
  exact ⟨condition, after, by rw [name?_word hn named, List.length_nil]⟩

/-- An update of a table by a condition. -/
theorem parseStatement_update {u n k w : Token} {columns : List String}
    {assigns ts : List Token} {s : Statement} (hu : u.isWord "update") (hn : n.kind = .word)
    (hk : k.isWord "set") (ha : Assigns none columns assigns) (hw : w.isWord "where")
    (parsed : parseStatement (u :: n :: k :: (assigns ++ w :: ts)) = some s) :
    ∃ e, parseValue (numberParams (slotsAfter [] assigns) ts) = some (e, []) ∧
      s = .update .none n.text (placeholderChanges 0 columns) (some e) := by
  have opens : Opens ["where"] (w :: ts) := fun v hv => by
    cases hv
    exact ⟨"where", List.mem_singleton_self _, hw⟩
  obtain ⟨condition, after, rfl⟩ := parseStatement_changes hu hn hk ha opens parsed
  rw [Token.numberParams_plain (.inr (Token.kind_of_isWord hw))] at after
  obtain ⟨e, rfl, value⟩ := parseAfter_where hw after
  exact ⟨e, value, rfl⟩

end ResourceProvider.Engine
