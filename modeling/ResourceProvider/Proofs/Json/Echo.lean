import ResourceProvider.Json.Codec
import ResourceProvider.Proofs.Json.Scan
/-!
# Reading what was written

What a codec writes for a value, before a separator or a closing bracket, is read by the same codec
with one answer: the value, or a fault (`Codec.Answers`). A list answers with the first fault of
its items (`Codec.list_answers`) and a record with the first fault of its fields
(`Codec.record_answers`), so a codec whose parts all give their values back gives its own back
(`Codec.Echoes`).
-/
namespace ResourceProvider.Json

open Text

/-! ## Ends and starts of written values -/

/-- The end of a text, a separator or a closing bracket. -/
def Ends (rest : List Char) : Prop :=
  ∀ c ∈ rest.head?, c = ',' ∨ c = ']' ∨ c = '\x7d'

theorem ends_nil : Ends [] := by
  intro c hc
  cases hc

theorem ends_cons {c : Char} (h : c = ',' ∨ c = ']' ∨ c = '\x7d') (rest : List Char) :
    Ends (c :: rest) := by
  intro c' hc'
  cases hc'
  exact h

theorem Ends.endsNumber {rest : List Char} (h : Ends rest) : EndsNumber rest := by
  intro c hc
  rcases h c hc with rfl | rfl | rfl
  all_goals decide

/-- A quote or an opening brace comes first. -/
def Opens (cs : List Char) : Prop :=
  ∃ c rest, cs = c :: rest ∧ (c = '"' ∨ c = '\x7b')

theorem Opens.ne_nil {cs : List Char} (h : Opens cs) : cs ≠ [] := by
  obtain ⟨c, rest, rfl, -⟩ := h
  exact List.cons_ne_nil c rest

theorem opens_text (s : String) : Opens (textChars s) :=
  ⟨'"', _, rfl, .inl rfl⟩

theorem skipSpace_quote (rest : List Char) : skipSpace ('"' :: rest) = '"' :: rest := rfl

theorem skipSpace_brace (rest : List Char) : skipSpace ('\x7b' :: rest) = '\x7b' :: rest := rfl

/-! ## Items with commas between them -/

/-- What stands before an item: nothing before the first, a comma before any other. -/
def separator (first : Bool) : List Char :=
  if first then [] else [',']

/-- The items that are still to come. -/
def joined : (first : Bool) → List (List Char) → List Char
  | _, [] => []
  | first, x :: xs => separator first ++ (x ++ joined false xs)

theorem commaChars_eq (items : List (List Char)) : commaChars items = joined true items := by
  -- On the left side the comma stands after an item, on the right side before one.
  fun_induction commaChars items with
  | case1 => rfl
  | case2 x => simp [joined, separator]
  | case3 x y rest ih =>
    rw [ih]
    simp [joined, separator]

theorem ends_joined {close : Char} (h : close = ']' ∨ close = '\x7d') (items : List (List Char))
    (rest : List Char) : Ends (joined false items ++ close :: rest) := by
  cases items with
  | nil => exact ends_cons (.inr h) rest
  | cons x xs => exact ends_cons (.inl rfl) _

/-- Written items between brackets, cut at the opening one. -/
theorem brackets_append (opening close : Char) (items : List (List Char)) (rest : List Char) :
    opening :: commaChars items ++ [close] ++ rest
      = opening :: (joined true items ++ close :: rest) := by
  rw [commaChars_eq]
  simp

theorem length_le_joined {items : List (List Char)} (nonempty : ∀ x ∈ items, x ≠ [])
    (first : Bool) : items.length ≤ (joined first items).length := by
  induction items generalizing first with
  | nil => exact Nat.le_refl 0
  | cons x xs ih =>
    have tail := ih (fun y hy => nonempty y (List.mem_cons_of_mem x hy)) false
    have head := List.length_pos_iff.mpr (nonempty x List.mem_cons_self)
    simp only [joined, List.length_append, List.length_cons]
    omega

/-- A reader that may take a step for each character has one for each item. -/
theorem length_lt_joined {items : List (List Char)} (nonempty : ∀ x ∈ items, x ≠ [])
    (rest : List Char) : items.length < (joined true items ++ rest).length + 1 := by
  have room := length_le_joined nonempty true
  rw [List.length_append]
  omega

/-! ## Reading item by item -/

theorem readItems_close {α : Type} (item : Scan α) (fuel : Nat) (first : Bool) (rest : List Char) :
    readItems item (fuel + 1) first (']' :: rest) = .ok ([], rest) := rfl

/-- One item of a list is read, and then the others. -/
theorem readItems_item {α : Type} (item : Scan α) (fuel : Nat) (first : Bool) {cs : List Char}
    (opens : Opens cs) :
    readItems item (fuel + 1) first (separator first ++ cs)
      = (item cs).bind fun p => (readItems item fuel false p.2).map fun q => (p.1 :: q.1, q.2) := by
  obtain ⟨c, rest, rfl, h⟩ := opens
  -- Behind its separator, every item is read like the first one.
  have same : readItems item (fuel + 1) first (separator first ++ c :: rest)
      = readItems item (fuel + 1) true (c :: rest) := by
    rcases h with rfl | rfl
    all_goals
      cases first
      all_goals rfl
  have solid : skipSpace (c :: rest) = c :: rest := by
    rcases h with rfl | rfl
    all_goals rfl
  rw [same, readItems, solid]
  split
  · next empty => cases empty
  · next close =>
    cases close
    rcases h with h | h
    all_goals exact absurd h (by decide)
  · next shape =>
    cases shape
    rw [if_pos rfl]
    dsimp only
    cases item (c :: rest) with
    | error e => rfl
    | ok p =>
      obtain ⟨x, others⟩ := p
      dsimp only [Except.bind]
      cases readItems item fuel false others with
      | error e => rfl
      | ok q => rfl

theorem readFields_close {σ : Type} (field : String → σ → Scan σ) (fuel : Nat) (first : Bool)
    (state : σ) (rest : List Char) :
    readFields field (fuel + 1) first state ('\x7d' :: rest) = .ok (state, rest) := rfl

theorem readKeyStart_text (first : Bool) (s : String) (rest : List Char) :
    readKeyStart first (separator first ++ (textChars s ++ rest))
      = .ok (some (s.toList.flatMap escapedChar ++ '"' :: rest),
          s.toList.flatMap escapedChar ++ '"' :: rest) := by
  rw [textChars_append]
  cases first
  all_goals rfl

/-- One field of an object is read, and then the others. -/
theorem readFields_field {σ : Type} (field : String → σ → Scan σ) (fuel : Nat) (first : Bool)
    (state : σ) (key : String) (cs : List Char) :
    readFields field (fuel + 1) first state (separator first ++ (textChars key ++ cs))
      = (field key state cs).bind fun p => readFields field fuel false p.1 p.2 := by
  rw [readFields, readKeyStart_text]
  simp only [scanString_escaped]
  cases field key state cs with
  | error e => rfl
  | ok p => rfl

/-! ## Answers -/

/-- What a reader gives for a value that ends where `rest` starts. -/
def answer {α : Type} (x : α) (fault : Option Fault) (rest : List Char) : Scanned α :=
  match fault with
  | none => .ok (x, rest)
  | some e => .error e

namespace Codec

variable {α : Type} {c : Codec α} {x : α}

/-- What is written for `x` is read as `x`, or refused with the fault, whatever follows its end. -/
def Answers (c : Codec α) (x : α) (fault : Option Fault) : Prop :=
  ∀ rest, Ends rest → c.read (c.write x ++ rest) = answer x fault rest

/-- What is written for `x` is read as `x`. -/
def Echoes (c : Codec α) (x : α) : Prop :=
  c.Answers x none

/-- A whole text is read with the same answer. -/
theorem Answers.parse {fault : Option Fault} (h : c.Answers x fault) :
    c.parse (c.print x) = fault.elim (.ok x) .error := by
  have read := h [] ends_nil
  rw [List.append_nil] at read
  rw [Codec.parse, Codec.print, String.toList_ofList, read]
  cases fault with
  | none => rfl
  | some e => rfl

/-! ### Single values -/

theorem read_text (s : String) (rest : List Char) :
    Codec.text.read (textChars s ++ rest) = .ok (s, rest) := by
  rw [textChars_append]
  exact scanString_escaped s rest

theorem text_echoes (s : String) : Codec.text.Echoes s :=
  fun rest _ => read_text s rest

theorem bool_echoes (b : Bool) : Codec.bool.Echoes b := by
  intro rest _
  cases b with
  | false => rfl
  | true => rfl

theorem isSpace_of_isDigit {d : Char} (digit : isDigit d) : isSpace d = false := by
  unfold isSpace
  simp only [Bool.or_eq_false_iff, decide_eq_false_iff_not]
  refine ⟨⟨⟨?_, ?_⟩, ?_⟩, ?_⟩
  all_goals
    rintro rfl
    exact absurd digit (by decide)

/-- A number is read back if its codec takes it, and if the scanner holds all its digits. -/
theorem whole_echoes (kind : String) {limit n : Nat} (le : n ≤ limit) (fits : limit ≤ maxWhole) :
    (Codec.whole kind limit).Echoes n := by
  intro rest ends
  have scanned := scanNumber_toDigits (Nat.le_trans le fits) ends.endsNumber
  show (Codec.whole kind limit).read (Nat.toDigits 10 n ++ rest) = _
  obtain ⟨d, ds, written, digit⟩ := toDigits_eq_cons n
  rw [written, List.cons_append] at scanned ⊢
  have solid : skipSpace (d :: (ds ++ rest)) = d :: (ds ++ rest) :=
    List.dropWhile_cons_of_neg (by simp [isSpace_of_isDigit digit])
  simp only [Codec.whole, solid, digit, or_true, if_true, scanned]
  rw [if_pos (by omega)]
  rfl

/-- A choice whose name finds it again. -/
theorem choice_echoes {name : α → String} {all : List α} (found : choose name all (name x) = .ok x) :
    (Codec.choice name all).Echoes x := by
  intro rest _
  show (Codec.choice name all).read (textChars (name x) ++ rest) = _
  simp only [Codec.choice, textChars_append, skipSpace_quote, scanString_escaped, found]
  rfl

/-- Null is no value that starts with a quote or a brace. -/
theorem optional_echoes {value : Option α} (opens : ∀ x ∈ value, Opens (c.write x))
    (echoes : ∀ x ∈ value, c.Echoes x) : c.optional.Echoes value := by
  intro rest ends
  cases value with
  | none => rfl
  | some x =>
    have read := echoes x rfl rest ends
    obtain ⟨first, chars, written, h⟩ := opens x rfl
    show c.optional.read (c.write x ++ rest) = _
    rw [written] at read ⊢
    have same : c.optional.read (first :: chars ++ rest)
        = (c.read (first :: chars ++ rest)).map fun p => (some p.1, p.2) := by
      rcases h with rfl | rfl
      all_goals rfl
    rw [same, read]
    rfl

/-! ### Lists -/

theorem readItems_joined {xs : List α} {fault : α → Option Fault}
    (opens : ∀ x ∈ xs, Opens (c.write x)) (answers : ∀ x ∈ xs, c.Answers x (fault x))
    (first : Bool) {fuel : Nat} (enough : xs.length < fuel) (rest : List Char) :
    readItems c.read fuel first (joined first (xs.map c.write) ++ ']' :: rest)
      = answer xs (xs.findSome? fault) rest := by
  induction xs generalizing first fuel with
  | nil =>
    obtain ⟨fuel, rfl⟩ := Nat.exists_eq_succ_of_ne_zero (Nat.ne_zero_of_lt enough)
    exact readItems_close c.read fuel first rest
  | cons x xs ih =>
    obtain ⟨fuel, rfl⟩ := Nat.exists_eq_succ_of_ne_zero (Nat.ne_zero_of_lt enough)
    have tail := ih (fun y hy => opens y (List.mem_cons_of_mem x hy))
      (fun y hy => answers y (List.mem_cons_of_mem x hy)) false (Nat.lt_of_succ_lt_succ enough)
    have head := answers x List.mem_cons_self (joined false (xs.map c.write) ++ ']' :: rest)
      (ends_joined (.inl rfl) _ rest)
    have start : Opens (c.write x ++ (joined false (xs.map c.write) ++ ']' :: rest)) := by
      obtain ⟨d, ds, written, h⟩ := opens x List.mem_cons_self
      exact ⟨d, ds ++ _, by rw [written, List.cons_append], h⟩
    rw [List.map_cons, joined, List.append_assoc, List.append_assoc,
      readItems_item c.read fuel first start, head, List.findSome?_cons]
    cases fault x with
    | some e => rfl
    | none =>
      show (readItems c.read fuel false _).map _ = _
      rw [tail]
      cases xs.findSome? fault with
      | some e => rfl
      | none => rfl

/-- A list answers with the first fault of its items. -/
theorem list_answers {xs : List α} {fault : α → Option Fault}
    (opens : ∀ x ∈ xs, Opens (c.write x)) (answers : ∀ x ∈ xs, c.Answers x (fault x)) :
    c.list.Answers xs (xs.findSome? fault) := by
  intro rest _
  have text : c.list.write xs ++ rest = '[' :: (joined true (xs.map c.write) ++ ']' :: rest) :=
    brackets_append '[' ']' _ rest
  have nonempty : ∀ cs ∈ xs.map c.write, cs ≠ [] := by
    intro cs hcs
    obtain ⟨x, hx, rfl⟩ := List.mem_map.mp hcs
    exact (opens x hx).ne_nil
  have enough := length_lt_joined nonempty (']' :: rest)
  rw [List.length_map] at enough
  rw [text]
  exact readItems_joined opens answers true enough rest

theorem list_echoes {xs : List α} (opens : ∀ x ∈ xs, Opens (c.write x))
    (echoes : ∀ x ∈ xs, c.Echoes x) : c.list.Echoes xs := by
  have answers : c.list.Answers xs (xs.findSome? fun _ => none) := list_answers opens echoes
  rwa [List.findSome?_eq_none_iff.mpr (fun _ _ => rfl)] at answers

end Codec

/-! ### Texts by key -/

/-- A key above all others comes last. -/
theorem insertField_last {α : Type} {fields : List (String × α)} {k : String}
    (above : ∀ f ∈ fields, f.1 < k) (v : α) : insertField k v fields = fields ++ [(k, v)] := by
  induction fields with
  | nil => rfl
  | cons f fields ih =>
    have below := above f List.mem_cons_self
    rw [insertField, if_neg, if_neg, ih (fun g hg => above g (List.mem_cons_of_mem f hg))]
    · rfl
    · exact String.lt_asymm below
    · intro same
      subst same
      exact String.lt_irrefl _ below

/-- Entries above those read so far are read to their end. -/
theorem readFields_texts {field : String → List (String × String) → Scan (List (String × String))}
    (reads : ∀ k v entries rest,
      field k entries (':' :: (textChars v ++ rest)) = .ok (insertField k v entries, rest))
    {seen entries : List (String × String)} (ascending : (seen ++ entries).Pairwise (·.1 < ·.1))
    (first : Bool) {fuel : Nat} (enough : entries.length < fuel) (rest : List Char) :
    readFields field fuel first seen
        (joined first (entries.map fun e => textChars e.1 ++ ':' :: textChars e.2) ++ '\x7d' :: rest)
      = .ok (seen ++ entries, rest) := by
  induction entries generalizing seen first fuel with
  | nil =>
    obtain ⟨fuel, rfl⟩ := Nat.exists_eq_succ_of_ne_zero (Nat.ne_zero_of_lt enough)
    rw [List.append_nil]
    exact readFields_close field fuel first seen rest
  | cons e entries ih =>
    obtain ⟨fuel, rfl⟩ := Nat.exists_eq_succ_of_ne_zero (Nat.ne_zero_of_lt enough)
    obtain ⟨k, v⟩ := e
    have above : ∀ f ∈ seen, f.1 < k := by
      intro f hf
      exact (List.pairwise_append.mp ascending).2.2 f hf (k, v) List.mem_cons_self
    rw [List.append_cons] at ascending
    have tail := ih ascending false (Nat.lt_of_succ_lt_succ enough)
    rw [List.map_cons, joined, List.append_assoc, List.append_assoc, List.append_assoc,
      readFields_field, List.cons_append, reads, insertField_last above]
    show readFields field fuel false (seen ++ [(k, v)]) _ = _
    rw [tail, List.append_assoc]
    rfl

/-- Entries in key order are written as they are, and every text is read into its place. -/
theorem Codec.textMap_echoes {entries : List (String × String)}
    (ascending : entries.Pairwise (·.1 < ·.1)) : Codec.textMap.Echoes entries := by
  intro rest _
  have text : Codec.textMap.write entries ++ rest
      = '\x7b' :: (joined true (entries.map fun e => textChars e.1 ++ ':' :: textChars e.2)
          ++ '\x7d' :: rest) := brackets_append '\x7b' '\x7d' _ rest
  have nonempty : ∀ cs ∈ entries.map fun e => textChars e.1 ++ ':' :: textChars e.2, cs ≠ [] := by
    intro cs hcs
    obtain ⟨e, -, rfl⟩ := List.mem_map.mp hcs
    simp
  have enough := length_lt_joined nonempty ('\x7d' :: rest)
  rw [List.length_map] at enough
  have none_seen : (([] : List (String × String)) ++ entries).Pairwise (·.1 < ·.1) := ascending
  rw [text]
  show readFields _ _ true [] _ = _
  refine readFields_texts ?_ none_seen true enough rest
  intro k v entries rest
  show (Codec.text.read (textChars v ++ rest)).map _ = _
  rw [Codec.read_text]
  rfl

/-! ### Records -/

namespace Fields

/-- The keys of a record, in order. -/
def keys : {τ : Type} → Fields τ → List String
  | _, .done => []
  | _, .field k _ _ rest => k :: rest.keys

/-- A record of which every field was read. -/
def filled : {τ : Type} → (f : Fields τ) → τ → f.Partial
  | _, .done, _ => ()
  | _, .field _ _ _ rest, (x, xs) => (some x, rest.filled xs)

theorem finished_filled {τ : Type} (f : Fields τ) (x : τ) : f.finished (f.filled x) = .ok x := by
  induction f with
  | done => rfl
  | field k c absent rest ih =>
    obtain ⟨x, xs⟩ := x
    show (rest.finished (rest.filled xs)).map (fun ys => (x, ys)) = _
    rw [ih]
    rfl

theorem written_ne_nil {τ : Type} (f : Fields τ) (x : τ) : ∀ cs ∈ f.written x, cs ≠ [] := by
  induction f with
  | done =>
    intro cs hcs
    cases hcs
  | field k c absent rest ih =>
    obtain ⟨x, xs⟩ := x
    intro cs hcs
    rcases List.mem_cons.mp hcs with rfl | hcs
    · simp
    · exact ih xs cs hcs

/-- The first fault of the fields, if any has one; nothing is read behind it. -/
inductive Answers : {τ : Type} → Fields τ → τ → Option Fault → Prop
  | done : Answers .done () none
  | echoed {α β : Type} {key : String} {c : Codec α} {absent : Option α} {rest : Fields β} {x : α}
      {xs : β} {fault : Option Fault} (head : c.Echoes x) (tail : Answers rest xs fault) :
      Answers (.field key c absent rest) (x, xs) fault
  | refused {α β : Type} {key : String} {c : Codec α} {absent : Option α} {rest : Fields β} {x : α}
      {xs : β} {e : Fault} (head : c.Answers x (some e)) :
      Answers (.field key c absent rest) (x, xs) (some e)

/-- A field decides when all fields behind it are read back. -/
theorem Answers.decided {α β : Type} {key : String} {c : Codec α} {absent : Option α}
    {rest : Fields β} {x : α} {xs : β} {fault : Option Fault} (head : c.Answers x fault)
    (tail : rest.Answers xs none) : (Fields.field key c absent rest).Answers (x, xs) fault := by
  cases fault with
  | none => exact .echoed head tail
  | some e => exact .refused head

/-- A field that was not read yet takes the value after its key. -/
theorem accept_head {α β : Type} {key : String} {c : Codec α} {absent : Option α} {rest : Fields β}
    (seen : rest.Partial) (cs : List Char) :
    (Fields.field key c absent rest).accept key (none, seen) (':' :: cs)
      = (c.read cs).map fun p => ((some p.1, seen), p.2) := by
  rw [accept, if_pos rfl]
  rfl

/-- A key of another field is left to the fields behind. -/
theorem accept_tail {α β : Type} {key k : String} {c : Codec α} {absent : Option α}
    {rest : Fields β} (other : key ≠ k) (x : Option α) (seen : rest.Partial) (cs : List Char) :
    (Fields.field key c absent rest).accept k (x, seen) cs
      = (rest.accept k seen cs).map fun p => ((x, p.1), p.2) := by
  rw [accept, if_neg other]

/-- A written field with what follows it. -/
theorem joined_field {α β : Type} (first : Bool) (key : String) (c : Codec α) (absent : Option α)
    (rest : Fields β) (x : α) (xs : β) (more : List Char) :
    joined first ((Fields.field key c absent rest).written (x, xs)) ++ more
      = separator first
          ++ (textChars key ++ ':' :: (c.write x ++ (joined false (rest.written xs) ++ more))) := by
  show separator first ++ ((textChars key ++ ':' :: c.write x) ++ joined false (rest.written xs))
    ++ more = _
  simp

/-- The fields of a record from some field on, when those before are held by `put`. -/
theorem readFields_written {τ σ : Type} {f : Fields τ} {x : τ} {fault : Option Fault}
    (answers : f.Answers x fault) (distinct : f.keys.Nodup) {field : String → σ → Scan σ}
    (put : f.Partial → σ)
    (accepts : ∀ k ∈ f.keys, ∀ seen cs,
      field k (put seen) cs = (f.accept k seen cs).map fun p => (put p.1, p.2))
    (first : Bool) {fuel : Nat} (enough : (f.written x).length < fuel) (rest : List Char) :
    readFields field fuel first (put f.unread) (joined first (f.written x) ++ '\x7d' :: rest)
      = answer (put (f.filled x)) fault rest := by
  induction answers generalizing first fuel with
  | done =>
    obtain ⟨fuel, rfl⟩ := Nat.exists_eq_succ_of_ne_zero (Nat.ne_zero_of_lt enough)
    exact readFields_close field fuel first _ rest
  | @refused α β key c absent others x xs e head =>
    obtain ⟨fuel, rfl⟩ := Nat.exists_eq_succ_of_ne_zero (Nat.ne_zero_of_lt enough)
    rw [joined_field, readFields_field]
    show (field key (put (none, others.unread)) _).bind _ = _
    rw [accepts key List.mem_cons_self, accept_head, head _ (ends_joined (.inr rfl) _ rest)]
    rfl
  | @echoed α β key c absent others x xs fault head tail ih =>
    obtain ⟨fuel, rfl⟩ := Nat.exists_eq_succ_of_ne_zero (Nat.ne_zero_of_lt enough)
    obtain ⟨fresh, distinct⟩ := List.nodup_cons.mp distinct
    -- The fields behind are read into the record that holds this one.
    have behind : ∀ k ∈ others.keys, ∀ seen cs,
        field k (put (some x, seen)) cs
          = (others.accept k seen cs).map fun p => (put (some x, p.1), p.2) := by
      intro k hk seen cs
      have other : key ≠ k := fun same => fresh (same ▸ hk)
      rw [accepts k (List.mem_cons_of_mem key hk), accept_tail other]
      cases others.accept k seen cs with
      | error e => rfl
      | ok p => rfl
    have later := ih distinct _ behind false (Nat.lt_of_succ_lt_succ enough)
    rw [joined_field, readFields_field]
    show (field key (put (none, others.unread)) _).bind _ = _
    rw [accepts key List.mem_cons_self, accept_head, head _ (ends_joined (.inr rfl) _ rest)]
    exact later

end Fields

namespace Codec

variable {τ α : Type} {name : String} {fields : Fields τ} {make : τ → α} {parts : α → τ} {x : α}

theorem record_opens : Opens ((Codec.record name fields make parts).write x) :=
  ⟨'\x7b', _, rfl, .inr rfl⟩

/-- A record answers with the first fault of its fields. -/
theorem record_answers {fault : Option Fault} (distinct : fields.keys.Nodup)
    (whole : make (parts x) = x) (answers : fields.Answers (parts x) fault) :
    (Codec.record name fields make parts).Answers x fault := by
  intro rest _
  have text : (Codec.record name fields make parts).write x ++ rest
      = '\x7b' :: (joined true (fields.written (parts x)) ++ '\x7d' :: rest) :=
    brackets_append '\x7b' '\x7d' _ rest
  have enough := length_lt_joined (fields.written_ne_nil (parts x)) ('\x7d' :: rest)
  have accepts : ∀ k ∈ fields.keys, ∀ seen cs,
      fields.accept k seen cs = (fields.accept k seen cs).map fun p => (p.1, p.2) := by
    intro k _ seen cs
    cases fields.accept k seen cs with
    | error e => rfl
    | ok p => rfl
  have read := Fields.readFields_written answers distinct (fun seen => seen) accepts true enough rest
  rw [text]
  simp only [Codec.record, skipSpace_brace, read]
  cases fault with
  | some e => rfl
  | none =>
    show (fields.finished (fields.filled (parts x))).map _ = _
    rw [fields.finished_filled]
    show Except.ok (make (parts x), rest) = _
    rw [whole]
    rfl

end Codec

/-! ## Values -/

theorem readValue_text (depth : Nat) (s : String) (rest : List Char) :
    readValue depth (textChars s ++ rest) = .ok (.str s, rest) := by
  have scanned := scanString_escaped s rest
  rw [textChars_append]
  cases depth with
  | zero =>
    show (scanString _).map _ = _
    rw [scanned]
    rfl
  | succ depth =>
    show (scanString _).map _ = _
    rw [scanned]
    rfl

/-- An object with one field that holds a text. -/
theorem readValue_pair (depth : Nat) (k s : String) (rest : List Char) :
    readValue (depth + 1) ('\x7b' :: (textChars k ++ ':' :: (textChars s ++ '\x7d' :: rest)))
      = .ok (.obj [(k, .str s)], rest) := by
  show (readFields (readField (readValue depth)) (_ + 1) true []
    (separator true ++ (textChars k ++ ':' :: (textChars s ++ '\x7d' :: rest)))).map _ = _
  have field : readField (readValue depth) k [] (':' :: (textChars s ++ '\x7d' :: rest))
      = .ok ([(k, .str s)], '\x7d' :: rest) := by
    show (readValue depth (textChars s ++ '\x7d' :: rest)).map _ = _
    rw [readValue_text]
    rfl
  rw [readFields_field, field]
  rfl

end ResourceProvider.Json
