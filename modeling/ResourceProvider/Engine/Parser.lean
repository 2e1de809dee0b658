import ResourceProvider.Engine.Statement
/-!
# Reading statements

Each reader takes tokens from the head of a list and gives what they say with what is left, or
nothing if they say something else. Operators bind by level: `or`, `and`, `not`, equality, order,
sums, products, concatenation.

Read are `SELECT` over tables that are joined from the left, `INSERT` and `REPLACE` with rows of
values or defaults, `UPDATE` and `DELETE` of one table by a condition, `CREATE TABLE`,
`ALTER TABLE ADD COLUMN`, `DROP TABLE`, `CREATE TRIGGER` (whose body is not looked at),
`DROP TRIGGER` and `PRAGMA`. Nothing else is: no views, indexes or virtual tables, no compound or
nested queries, no `WITH`, `RETURNING` or upsert, no `RIGHT`, `FULL` or `NATURAL` join and no
`USING`, no names with a schema before them, no transaction control, and among expressions no
`CASE`, `CAST`, `EXISTS`, `GLOB`, window or bit operator, current time, and no functions but those
of `functionOf?`.
-/
namespace ResourceProvider.Engine

open Text

/-- Reads something from the head of a list of tokens. -/
abbrev Parse (α : Type) := List Token → Option (α × List Token)

/-! ## Words and names -/

/-- Skips a keyword. -/
def keyword (k : String) : List Token → Option (List Token)
  | t :: rest => if t.isWord k then some rest else none
  | [] => none

/-- Skips an operator. -/
def operator (op : String) : List Token → Option (List Token)
  | t :: rest => if t.isOperator op then some rest else none
  | [] => none

/-- Skips keywords one after another. -/
def keywords : List String → List Token → Option (List Token)
  | [], ts => some ts
  | k :: ks, ts => (keyword k ts).bind (keywords ks)

/-- Skips keywords if they are there, and says whether they were. -/
def optionalKeywords (ks : List String) (ts : List Token) : Bool × List Token :=
  match keywords ks ts with
  | some rest => (true, rest)
  | none => (false, ts)

/-- A name. -/
def parseName : Parse String
  | t :: rest => t.name?.map fun n => (n, rest)
  | [] => none

/-- Items with commas between them, at least one. -/
def parseList {α : Type} (item : Parse α) : (fuel : Nat) → Parse (List α)
  | 0, _ => none
  | fuel + 1, ts =>
    match item ts with
    | none => none
    | some (x, rest) =>
      match operator "," rest with
      | none => some ([x], rest)
      | some rest => (parseList item fuel rest).map fun p => (x :: p.1, p.2)

/-- Skips the direction of a sort, if there is one, and says whether it is descending. -/
def parseDirection (ts : List Token) : Bool × List Token :=
  match keyword "asc" ts with
  | some rest => (false, rest)
  | none => optionalKeywords ["desc"] ts

/-- A list in parentheses. -/
def parseParens {α : Type} (item : Parse α) (ts : List Token) : Option (List α × List Token) :=
  match operator "(" ts with
  | none => none
  | some rest =>
    match parseList item rest.length rest with
    | none => none
    | some (xs, rest) => (operator ")" rest).map fun rest => (xs, rest)

/-! ## Expressions -/

/-- The operators of a level that joins two operands by a symbol. -/
def symbolOf (level : Nat) (t : Token) : Option (Written → Written → Written) :=
  if t.kind ≠ .operator then none
  else
    match level, t.text with
    | 3, "=" => some (.compare .eq)
    | 3, "==" => some (.compare .eq)
    | 3, "<>" => some (.compare .ne)
    | 3, "!=" => some (.compare .ne)
    | 4, "<" => some (.compare .lt)
    | 4, "<=" => some (.compare .le)
    | 4, ">" => some (.compare .gt)
    | 4, ">=" => some (.compare .ge)
    | 5, "+" => some (.arithmetic .add)
    | 5, "-" => some (.arithmetic .sub)
    | 6, "*" => some (.arithmetic .mul)
    | 6, "/" => some (.arithmetic .div)
    | 6, "%" => some (.arithmetic .rem)
    | 7, "||" => some .concat
    | _, _ => none

/-- Both conditions; beside the number zero, the other one is not looked at. -/
def both : Written → Written → Written
  | .literal (.int 0), _ => .literal (.int 0)
  | _, .literal (.int 0) => .literal (.int 0)
  | a, b => .and a b

/-- The operators of a level that are words. -/
def wordOf (level : Nat) (t : Token) : Option (Written → Written → Written) :=
  match level with
  | 0 => if t.isWord "or" then some .or else none
  | 1 => if t.isWord "and" then some both else none
  | _ => none

/-- A function of one or more values. -/
def functionOf? (name : String) (args : List Written) : Option Written :=
  match lower name, args with
  | "count", [a] => some (.aggregate .count a)
  | "sum", [a] => some (.aggregate .sum a)
  | "total", [a] => some (.aggregate .total a)
  | "avg", [a] => some (.aggregate .avg a)
  | "min", [a] => some (.aggregate .min a)
  | "max", [a] => some (.aggregate .max a)
  | "length", [a] => some (.call .length [a])
  | "lower", [a] => some (.call .lower [a])
  | "upper", [a] => some (.call .upper [a])
  | "abs", [a] => some (.call .abs [a])
  | "ifnull", [a, b] => some (.call .coalesce [a, b])
  | "coalesce", a :: b :: rest => some (.call .coalesce (a :: b :: rest))
  | _, _ => none

/-- A collation by its name. -/
def collationOf? (name : String) : Option Collation :=
  match lower name with
  | "binary" => some .binary
  | "nocase" => some .nocase
  | "rtrim" => some .rtrim
  | _ => none

/-- The negation of a condition, if it is negated. -/
def negated (n : Bool) (e : Written) : Written :=
  if n then .not e else e

/-- A word behind a parenthesis that starts a query of its own. -/
def startsQuery (ts : List Token) : Bool :=
  (keyword "with" ts).isSome

/-! ## Placeholders -/

/-- The positions of a statement that placeholders have taken, by their names. A position without a
name belongs to a placeholder without one, or to none at all. -/
abbrev Slots := List (Option String)

/-- The position that a placeholder gives, with the name that it gives to it. -/
def Slots.give (slots : Slots) (position : Nat) (name : String) : Slots :=
  let slots := slots ++ List.replicate (position - slots.length) none
  match slots[position - 1]? with
  | some none => slots.set (position - 1) (some name)
  | _ => slots

/-- The position of a name, if it has one. -/
def Slots.position? (slots : Slots) (name : String) : Option Nat :=
  (slots.findIdx? (· = some name)).map (· + 1)

/-- The positions that are taken when a token was read. -/
def Token.slotsAfter (slots : Slots) (t : Token) : Slots :=
  match t.kind with
  | .param none => slots ++ [none]
  | .param (some k) => slots.give k t.text
  | .named => if (slots.position? t.text).isSome then slots else slots ++ [some t.text]
  | _ => slots

/-- The token with the position that it takes, if it is a placeholder: without a name it is the one
after the highest position before it. -/
def Token.numbered (slots : Slots) (t : Token) : Token :=
  match t.kind with
  | .param none => { t with kind := .param (some (slots.length + 1)) }
  | .named => { t with kind := .param (some ((slots.position? t.text).getD (slots.length + 1))) }
  | _ => t

/-- The positions that are taken when a list of tokens was read. -/
def slotsAfter (slots : Slots) (ts : List Token) : Slots :=
  ts.foldl Token.slotsAfter slots

/-- The placeholders of a list of tokens with the positions that they take; they are numbered before
an expression is read. -/
def numberParams : Slots → List Token → List Token
  | _, [] => []
  | slots, t :: rest => t.numbered slots :: numberParams (t.slotsAfter slots) rest

/-! ## Reading expressions -/

mutual

/-- An expression whose outermost operator has at least the given level. -/
def parseExpr : (fuel : Nat) → (level : Nat) → Parse Written
  | 0, _, _ => none
  | fuel + 1, level, ts =>
    if level = 2 then
      match keyword "not" ts with
      | some rest => (parseExpr fuel 2 rest).map fun p => (.not p.1, p.2)
      | none => parseExpr fuel 3 ts
    else if level < 8 then
      match parseExpr fuel (level + 1) ts with
      | none => none
      | some (a, rest) => parseMore fuel level a rest
    else
      match ts with
      | t :: rest =>
        if t.isOperator "-" then
          match rest with
          | ⟨.number (.int n), _, _⟩ :: rest => parseCollate fuel (.literal (.int (-n))) rest
          | ⟨.number (.real x), _, s⟩ :: rest =>
            let c := if s = "9223372036854775808" then .int (-0x8000000000000000) else .real (-x)
            parseCollate fuel (.literal c) rest
          | _ => (parseExpr fuel 8 rest).map fun p => (.negate p.1, p.2)
        else if t.isOperator "+" then parseExpr fuel 8 rest
        else
          match parsePrimary fuel ts with
          | none => none
          | some (a, rest) => parseCollate fuel a rest
      | [] => none

/-- The operators of a level that follow an operand. -/
def parseMore : (fuel : Nat) → (level : Nat) → Written → Parse Written
  | 0, _, _, _ => none
  | _ + 1, _, a, [] => some (a, [])
  | fuel + 1, level, a, t :: rest =>
    match (symbolOf level t).or (wordOf level t) with
    | some make =>
      match parseExpr fuel (level + 1) rest with
      | none => none
      | some (b, rest) => parseMore fuel level (make a b) rest
    | none =>
      if level ≠ 3 then some (a, t :: rest)
      else
        match parseSuffix fuel a (t :: rest) with
        | .none => some (a, t :: rest)
        | some none => none
        | some (some (b, rest)) => parseMore fuel 3 b rest

/-- The tests that follow an operand at the level of equality; nothing if there is none. -/
def parseSuffix : (fuel : Nat) → Written → List Token → Option (Option (Written × List Token))
  | 0, _, _ => none
  | fuel + 1, a, ts =>
    let (n, afterNot) := optionalKeywords ["not"] ts
    match keyword "isnull" ts, keyword "notnull" ts, keyword "is" ts with
    | some rest, _, _ => some (some (.is a (.literal .null), rest))
    | _, some rest, _ => some (some (.not (.is a (.literal .null)), rest))
    | _, _, some rest =>
      let (n, rest) := optionalKeywords ["not"] rest
      let (d, rest) := optionalKeywords ["distinct", "from"] rest
      some ((parseExpr fuel 4 rest).map fun p => (negated (n != d) (.is a p.1), p.2))
    | none, none, none =>
      match keyword "null" afterNot, keyword "in" afterNot, keyword "between" afterNot,
          keyword "like" afterNot with
      | some rest, _, _, _ => if n then some (some (.not (.is a (.literal .null)), rest)) else none
      | _, some rest, _, _ =>
        match (operator "(" rest).bind (operator ")") with
        | some rest => some (some (negated n (.isIn a []), rest))
        | none =>
          if startsQuery (rest.drop 1) then some none
          else some ((parseArgs fuel rest).map fun p => (negated n (.isIn a p.1), p.2))
      | _, _, some rest, _ =>
        some <| match parseExpr fuel 4 rest with
        | none => none
        | some (low, rest) =>
          match keyword "and" rest with
          | none => none
          | some rest => (parseExpr fuel 4 rest).map fun p =>
            (negated n (.and (.compare .ge a low) (.compare .le a p.1)), p.2)
      | _, _, _, some rest =>
        some ((parseExpr fuel 4 rest).map fun p => (negated n (.like a p.1), p.2))
      | none, none, none, none => if n then some none else none

/-- Collations that follow an operand. -/
def parseCollate : (fuel : Nat) → Written → Parse Written
  | 0, _, _ => none
  | fuel + 1, a, ts =>
    match keyword "collate" ts with
    | none => some (a, ts)
    | some rest =>
      match parseName rest with
      | none => none
      | some (name, rest) =>
        match collationOf? name with
        | none => none
        | some c => parseCollate fuel (.collate a c) rest

/-- A list of expressions in parentheses. -/
def parseArgs : (fuel : Nat) → Parse (List Written)
  | 0, _ => none
  | fuel + 1, ts =>
    match operator "(" ts with
    | none => none
    | some rest => parseArgsFrom fuel rest

/-- The rest of a list of expressions, with its closing parenthesis. -/
def parseArgsFrom : (fuel : Nat) → Parse (List Written)
  | 0, _ => none
  | fuel + 1, ts =>
    match parseExpr fuel 0 ts with
    | none => none
    | some (a, rest) =>
      match operator "," rest with
      | some rest => (parseArgsFrom fuel rest).map fun p => (a :: p.1, p.2)
      | none => (operator ")" rest).map fun rest => ([a], rest)

/-- A literal, a placeholder, a column, a function or an expression in parentheses. -/
def parsePrimary : (fuel : Nat) → Parse Written
  | 0, _ => none
  | _ + 1, [] => none
  | fuel + 1, t :: rest =>
    match t.kind with
    | .number c => some (.literal c, rest)
    | .string s => some (.literal (.text s), rest)
    | .blob b => some (.literal (.blob b), rest)
    | .param (some k) => if k = 0 then none else some (.param (k - 1), rest)
    | .param none => none
    | .named => none
    | .operator =>
      if t.text = "(" && !startsQuery rest then
        match parseExpr fuel 0 rest with
        | none => none
        | some (a, rest) => (operator ")" rest).map fun rest => (a, rest)
      else none
    | .bad => none
    | _ =>
      if t.isWord "null" then some (.literal .null, rest)
      else if t.startsExpression then none
      else
        match t.name? with
        | none => none
        | some name =>
          let isQuoted := match t.kind with
            | .quoted _ => true
            | _ => false
          match operator "." rest, operator "(" rest with
          | some rest, _ => (parseName rest).map fun p => (.column ⟨some name, p.1, false⟩, p.2)
          | none, some inner =>
            match (operator "*" inner).bind (operator ")") with
            | some rest => if lower name = "count" then some (.countRows, rest) else none
            | none =>
              match parseArgs fuel rest with
              | none => none
              | some (args, rest) => (functionOf? name args).map fun e => (e, rest)
          | none, none => some (.column ⟨none, name, isQuoted⟩, rest)

end

/-- An expression. -/
def parseValue (ts : List Token) : Option (Written × List Token) :=
  parseExpr (20 * ts.length + 20) 0 ts

/-- An expression after a keyword, if the keyword is there. -/
def parseAfter (ks : List String) (ts : List Token) : Option (Option Written × List Token) :=
  match keywords ks ts with
  | none => some (none, ts)
  | some rest => (parseValue rest).map fun p => (some p.1, p.2)

/-! ## Constraints -/

/-- A conflict policy by its keyword. -/
def parsePolicyName : Parse ConflictPolicy
  | t :: rest =>
    ([ConflictPolicy.rollback, .abort, .fail, .ignore, .replace].find? fun p =>
      t.isWord (lower p.name)).map fun p => (p, rest)
  | [] => none

/-- The conflict clause of a constraint, if there is one. -/
def parseConflict (ts : List Token) : Option (ConflictPolicy × List Token) :=
  match keywords ["on", "conflict"] ts with
  | some rest => parsePolicyName rest
  | none => some (.none, ts)

/-- What a foreign key does. -/
def parseAction (ts : List Token) : Option (ForeignKeyAction × List Token) :=
  ([(["set", "null"], ForeignKeyAction.setNull), (["set", "default"], .setDefault),
    (["cascade"], .cascade), (["restrict"], .restrict), (["no", "action"], .noAction)]).findSome?
    fun a => (keywords a.1 ts).map fun rest => (a.2, rest)

/-- The clauses that follow the target of a foreign key. -/
def parseActions : (fuel : Nat) → Target → Parse Target
  | 0, _, _ => none
  | fuel + 1, target, ts =>
    match keywords ["on", "delete"] ts, keywords ["on", "update"] ts with
    | some rest, _ =>
      match parseAction rest with
      | none => none
      | some (a, rest) => parseActions fuel { target with onDelete := a } rest
    | none, some rest =>
      match parseAction rest with
      | none => none
      | some (a, rest) => parseActions fuel { target with onUpdate := a } rest
    | none, none => some (target, ts)

/-- A column in a list, with the direction it may have. -/
def parseKeyColumn (ts : List Token) : Option (String × List Token) :=
  match parseName ts with
  | none => none
  | some (name, rest) =>
    some (name, (parseDirection rest).2)

/-- A column of a key, in a list where expressions could stand. -/
def parseIndexedColumn (ts : List Token) : Option (String × List Token) :=
  match ts with
  | t :: _ => if t.startsExpression then none else parseKeyColumn ts
  | [] => none

/-- The target of a foreign key, after its keyword. -/
def parseTarget (ts : List Token) : Option (Target × List Token) :=
  match parseName ts with
  | none => none
  | some (table, rest) =>
    let columns : Option (List String × List Token) :=
      match operator "(" rest with
      | some _ => parseParens parseKeyColumn rest
      | none => some ([], rest)
    match columns with
    | none => none
    | some (columns, rest) => parseActions rest.length.succ ⟨table, columns, .none, .none, false⟩ rest

/-- When a foreign key is checked: whether at the end of its transaction. -/
def parseDeferral (ts : List Token) : Option (Bool × List Token) :=
  let (never, rest) := optionalKeywords ["not"] ts
  match keyword "deferrable" rest with
  | none => none
  | some rest =>
    match keywords ["initially", "deferred"] rest with
    | some rest => some (!never, rest)
    | none => some (false, (optionalKeywords ["initially", "immediate"] rest).2)

/-- The label of a check: the name it was given, or the text of its condition. -/
def checkLabel (name : Option String) (condition : List Token) : String :=
  name.getD <|
    let s := sourceText condition
    match s.toList with
    | c :: rest =>
      if c = '\'' ∨ c = '"' ∨ c = '\x60' then
        match unquote c rest with
        | some (inner, _) => String.ofList inner
        | none => s
      else if c = '[' then String.ofList (rest.takeWhile (· ≠ ']'))
      else s
    | [] => s

/-- The condition of a check in parentheses, with its label. -/
def parseCheck (name : Option String) (ts : List Token) :
    Option ((String × Written) × List Token) :=
  match operator "(" ts with
  | none => none
  | some rest =>
    match parseValue rest with
    | none => none
    | some (condition, after) =>
      (operator ")" after).map fun final =>
        ((checkLabel name (rest.take (rest.length - after.length)), condition), final)

/-- The word stands for the current time, or it is one of a join; neither is a text. -/
def isNoText (t : Token) : Bool :=
  t.kind = .word &&
    lower t.text ∈ ["current_date", "current_time", "current_timestamp"] ++ joinWords

/-- The value of a default: a literal, a name that stands for itself, or an expression in
parentheses. -/
def parseDefault (ts : List Token) : Option (Written × List Token) :=
  let negative := (operator "-" ts).isSome
  let signed := (operator "-" ts).isSome || (operator "+" ts).isSome
  match if signed then ts.drop 1 else ts with
  | [] => none
  | t :: rest =>
    let signOf (c : Cell) : Option (Written × List Token) :=
      some (if negative then .negate (.literal c) else .literal c, rest)
    match t.kind with
    | .number c => signOf c
    | .string s => signOf (.text s)
    | .blob b => signOf (.blob b)
    | .operator =>
      if signed || t.text ≠ "(" then none
      else
        match parseValue rest with
        | none => none
        | some (e, rest) => (operator ")" rest).map fun rest => (e, rest)
    | _ =>
      if t.isWord "null" then signOf .null
      else if signed || isNoText t then none
      else
        t.name?.map fun s =>
          (.literal (if lower s = "true" then .int 1 else if lower s = "false" then .int 0
            else .text s), rest)

/-- One constraint of a column; `name` is the name given before it. -/
def parseColumnRule (name : Option String) (ts : List Token) : Option (ColumnRule × List Token) :=
  match keyword "null" ts, keywords ["not", "null"] ts, keyword "default" ts,
      keywords ["primary", "key"] ts, keyword "unique" ts, keyword "check" ts,
      keyword "references" ts with
  | some rest, _, _, _, _, _, _ => (parseConflict rest).map fun p => (.nullable, p.2)
  | _, some rest, _, _, _, _, _ => (parseConflict rest).map fun p => (.notNull p.1, p.2)
  | _, _, some rest, _, _, _, _ => (parseDefault rest).map fun p => (.default p.1, p.2)
  | _, _, _, some rest, _, _, _ =>
    let (descending, rest) := parseDirection rest
    (parseConflict rest).map fun p =>
      let (auto, rest) := optionalKeywords ["autoincrement"] p.2
      (.primaryKey descending p.1 auto, rest)
  | _, _, _, _, some rest, _, _ => (parseConflict rest).map fun p => (.unique p.1, p.2)
  | _, _, _, _, _, some rest, _ =>
    (parseCheck name rest).map fun p => (.check p.1.1 p.1.2, p.2)
  | _, _, _, _, _, _, some rest => (parseTarget rest).map fun p => (.references p.1, p.2)
  | none, none, none, none, none, none, none =>
    (parseDeferral ts).map fun p => (.deferral p.1, p.2)

/-- A constraint name, if there is one. -/
def parseConstraintName (name : Option String) (ts : List Token) :
    Option (Option String × List Token) :=
  match keyword "constraint" ts with
  | none => some (name, ts)
  | some rest => (parseName rest).map fun p => (some p.1, p.2)

/-- The token ends a definition inside the parentheses of a table. -/
def endsDefinition (ts : List Token) : Bool :=
  (operator "," ts).isSome || (operator ")" ts).isSome || ts = []

/-- The constraints of a column, up to the end of its definition. -/
def parseColumnRules : (fuel : Nat) → (name : Option String) → Parse (List ColumnRule)
  | 0, _, _ => none
  | fuel + 1, name, ts =>
    match parseConstraintName name ts with
    | none => none
    | some (name, rest) =>
      if endsDefinition rest then some ([], rest)
      else
        match parseColumnRule name rest with
        | none => none
        | some (rule, rest) =>
          (parseColumnRules fuel name rest).map fun p => (rule :: p.1, p.2)

/-- A declared type: names, which may have a size in parentheses. -/
def parseType : (fuel : Nat) → List Token → String × List Token
  | 0, ts => ("", ts)
  | fuel + 1, ts =>
    match ts with
    | t :: rest =>
      match if t.kind = .word ∧ lower t.text ∈ joinWords then none else t.name? with
      | some n =>
        let (more, rest) := parseType fuel rest
        (if more = "" then n else n ++ " " ++ more, rest)
      | none => ("", ts)
    | [] => ("", [])

/-- The definition of a column. -/
def parseColumnSpec (ts : List Token) : Option (ColumnSpec × List Token) :=
  match parseName ts with
  | none => none
  | some (name, rest) =>
    let (type, rest) := parseType rest.length rest
    (parseColumnRules rest.length.succ none rest).map fun p => (⟨name, type, p.1⟩, p.2)

/-- One constraint of a table. -/
def parseTableRule (name : Option String) (ts : List Token) : Option (TableRule × List Token) :=
  match keywords ["primary", "key"] ts, keyword "unique" ts, keyword "check" ts,
      keywords ["foreign", "key"] ts with
  | some rest, _, _, _ =>
    match parseParens parseIndexedColumn rest with
    | none => none
    | some (columns, rest) => (parseConflict rest).map fun p => (.primaryKey columns p.1, p.2)
  | _, some rest, _, _ =>
    match parseParens parseIndexedColumn rest with
    | none => none
    | some (columns, rest) => (parseConflict rest).map fun p => (.unique columns p.1, p.2)
  | _, _, some rest, _ =>
    match parseCheck name rest with
    | none => none
    | some (c, rest) => (parseConflict rest).map fun p => (.check c.1 c.2, p.2)
  | _, _, _, some rest =>
    match parseParens parseKeyColumn rest with
    | none => none
    | some (columns, rest) =>
      match keyword "references" rest with
      | none => none
      | some rest =>
        match parseTarget rest with
        | none => none
        | some (target, rest) =>
          match parseDeferral rest with
          | some (deferred, rest) => some (.foreignKey columns { target with deferred }, rest)
          | none => some (.foreignKey columns target, rest)
  | none, none, none, none => none

/-- The constraints of a table, up to its closing parenthesis; commas may be left out. -/
def parseTableRules : (fuel : Nat) → (name : Option String) → Parse (List TableRule)
  | 0, _, _ => none
  | fuel + 1, name, ts =>
    match operator ")" ts, operator "," ts with
    | some rest, _ => some ([], rest)
    | none, some rest => if endsDefinition rest then none else parseTableRules fuel none rest
    | none, none =>
      match parseConstraintName name ts with
      | none => none
      | some (name, rest) =>
        if endsDefinition rest then parseTableRules fuel name rest
        else
          match parseTableRule name rest with
          | none => none
          | some (rule, rest) =>
            (parseTableRules fuel name rest).map fun p => (rule :: p.1, p.2)

/-- A constraint of a table starts here, not a column. -/
def startsTableRule (ts : List Token) : Bool :=
  ["constraint", "primary", "unique", "check", "foreign"].any fun k => (keyword k ts).isSome

/-- The columns of a table, then its constraints. -/
def parseDefinitions : (fuel : Nat) → Parse (List ColumnSpec × List TableRule)
  | 0, _ => none
  | fuel + 1, ts =>
    match parseColumnSpec ts with
    | none => none
    | some (column, rest) =>
      match operator "," rest with
      | some after =>
        if startsTableRule after then
          (parseTableRules (rest.length + 1) none after).map fun p => (([column], p.1), p.2)
        else (parseDefinitions fuel after).map fun p => ((column :: p.1.1, p.1.2), p.2)
      | none => (operator ")" rest).map fun rest => (([column], []), rest)

/-! ## Queries -/

/-- A name given to what stands before it. -/
def parseAlias (ts : List Token) : Option (Option String × List Token) :=
  match keyword "as" ts with
  | some rest => (parseName rest).map fun p => (some p.1, p.2)
  | none =>
    match ts with
    | t :: rest =>
      match t.alias? with
      | some n => some (some n, rest)
      | none => some (none, ts)
    | [] => some (none, [])

/-- What a query gives for each row. -/
def parseItem (ts : List Token) : Option (Item × List Token) :=
  match operator "*" ts with
  | some rest => some (.all, rest)
  | none =>
    let starred : Option (String × List Token) :=
      match parseName ts with
      | none => none
      | some (t, rest) => ((operator "." rest).bind (operator "*")).map fun rest => (t, rest)
    match starred with
    | some (table, rest) => some (.allOf table, rest)
    | none =>
      match parseValue ts with
      | none => none
      | some (e, rest) =>
        (parseAlias rest).map fun p =>
          (.expr e p.1 (sourceText (ts.take (ts.length - rest.length))), p.2)

/-- How the next table is joined, if one follows: whether the join is an outer one. -/
def parseJoinWord (ts : List Token) : Option (Bool × List Token) :=
  ([(["left", "outer", "join"], true), (["left", "join"], true), (["inner", "join"], false),
    (["cross", "join"], false), (["join"], false)]).findSome?
    (fun j => (keywords j.1 ts).map fun rest => (j.2, rest)) |>.or <|
  (operator "," ts).map fun rest => (false, rest)

/-- A table with the name it goes by in a query. -/
def parseTableName (ts : List Token) : Option ((String × Option String) × List Token) :=
  match parseName ts with
  | none => none
  | some (table, rest) => (parseAlias rest).map fun p => ((table, p.1), p.2)

/-- The tables that are joined to the first one. -/
def parseJoins : (fuel : Nat) → Parse (List Join)
  | 0, _ => none
  | fuel + 1, ts =>
    match parseJoinWord ts with
    | none => some ([], ts)
    | some (outer, rest) =>
      match parseTableName rest with
      | none => none
      | some ((table, alias?), rest) =>
        match parseAfter ["on"] rest with
        | none => none
        | some (condition, rest) =>
          (parseJoins fuel rest).map fun p => (⟨table, alias?, outer, condition⟩ :: p.1, p.2)

/-- The tables of a query. -/
def parseFrom (ts : List Token) : Option (List Join × List Token) :=
  match keyword "from" ts with
  | none => some ([], ts)
  | some rest =>
    match parseTableName rest with
    | none => none
    | some ((table, alias?), rest) =>
      (parseJoins (rest.length + 1) rest).map fun p => (⟨table, alias?, false, none⟩ :: p.1, p.2)

/-- A term by which rows are sorted. -/
def parseSortTerm (ts : List Token) : Option (SortTerm × List Token) :=
  match parseValue ts with
  | none => none
  | some (e, rest) =>
    let (descending, rest) := parseDirection rest
    match keywords ["nulls", "first"] rest, keywords ["nulls", "last"] rest with
    | some rest, _ => some (⟨e, descending, false⟩, rest)
    | none, some rest => some (⟨e, descending, true⟩, rest)
    | none, none => some (⟨e, descending, descending⟩, rest)

/-- A list after keywords, if they are there. -/
def parseClause {α : Type} (ks : List String) (item : Parse α) (ts : List Token) :
    Option (List α × List Token) :=
  match keywords ks ts with
  | none => some ([], ts)
  | some rest => parseList item rest.length rest

/-- How many rows are given, and how many are left out before them. -/
def parseLimit (ts : List Token) : Option ((Option Written × Option Written) × List Token) :=
  match keyword "limit" ts with
  | none => some ((none, none), ts)
  | some rest =>
    match parseValue rest with
    | none => none
    | some (a, rest) =>
      match keyword "offset" rest, operator "," rest with
      | some rest, _ => (parseValue rest).map fun p => ((some a, some p.1), p.2)
      | none, some rest => (parseValue rest).map fun p => ((some p.1, some a), p.2)
      | none, none => some ((some a, none), rest)

/-- A query, after its keyword. -/
def parseQuery (ts : List Token) : Option (Query × List Token) := do
  let (_, ts) := optionalKeywords ["all"] ts
  let (items, ts) ← parseList parseItem ts.length ts
  let (joins, ts) ← parseFrom ts
  let (condition, ts) ← parseAfter ["where"] ts
  let (groupBy, ts) ← parseClause ["group", "by"] parseValue ts
  let (having, ts) ← parseAfter ["having"] ts
  let (orderBy, ts) ← parseClause ["order", "by"] parseSortTerm ts
  let ((limit, offset), ts) ← parseLimit ts
  return (⟨items, joins, condition, groupBy, having, orderBy, limit, offset⟩, ts)

/-! ## Statements -/

/-- The policy of a whole statement, if it names one. -/
def parseOr (ts : List Token) : Option (ConflictPolicy × List Token) :=
  match keyword "or" ts with
  | some rest => parsePolicyName rest
  | none => some (.none, ts)

/-- A statement that adds rows, after its keyword. -/
def parseInsert (ts : List Token) : Option (Statement × List Token) := do
  let (policy, ts) ← parseOr ts
  let ts ← keyword "into" ts
  let (table, ts) ← parseName ts
  let (columns, ts) ← match operator "(" ts with
    | some _ => (parseParens parseName ts).map fun p => (some p.1, p.2)
    | none => some (none, ts)
  match keywords ["default", "values"] ts with
  | some ts => return (.insert policy table columns none, ts)
  | none =>
    let ts ← keyword "values" ts
    let (rows, ts) ← parseList (parseParens parseValue) ts.length ts
    return (.insert policy table columns (some rows), ts)

/-- A column that is set to a value. -/
def parseChange (ts : List Token) : Option ((String × Written) × List Token) := do
  let (column, ts) ← parseName ts
  let ts ← operator "=" ts
  let (value, ts) ← parseValue ts
  return ((column, value), ts)

/-- A statement that changes rows, after its keyword. -/
def parseUpdate (ts : List Token) : Option (Statement × List Token) := do
  let (policy, ts) ← parseOr ts
  let (table, ts) ← parseName ts
  let ts ← keyword "set" ts
  let (changes, ts) ← parseList parseChange ts.length ts
  let (condition, ts) ← parseAfter ["where"] ts
  return (.update policy table changes condition, ts)

/-- A statement that removes rows, after its keyword. -/
def parseDelete (ts : List Token) : Option (Statement × List Token) := do
  let ts ← keyword "from" ts
  let (table, ts) ← parseName ts
  let (condition, ts) ← parseAfter ["where"] ts
  return (.delete table condition, ts)

/-- The name of a table that is created. It is no bare `IF`: that starts a guard, and behind a guard
the table could not be read back from the rest of its statement. -/
def parseNewName (ts : List Token) : Option (String × List Token) :=
  if (keyword "if" ts).isSome then none else parseName ts

/-- A statement that creates a table, after its keywords. -/
def parseCreate (ts : List Token) : Option (Statement × List Token) := do
  let (ifNotExists, ts) := optionalKeywords ["if", "not", "exists"] ts
  let (name, ts) ← parseNewName ts
  let ts ← operator "(" ts
  let ((columns, rules), ts) ← parseDefinitions ts.length ts
  return (.createTable ⟨name, ifNotExists, columns, rules⟩, ts)

/-- A trigger, after its keywords: what it follows, its table, and then its body, which is not looked
at, up to its end. -/
def parseTrigger (ts : List Token) : Option (Statement × List Token) := do
  let (ifNotExists, ts) := optionalKeywords ["if", "not", "exists"] ts
  let (name, ts) ← parseName ts
  let ts := ((keyword "before" ts).or (keyword "after" ts)).getD ts
  let ts ← ["delete", "insert", "update"].findSome? fun k => keyword k ts
  let (_, ts) ← match keyword "of" ts with
    | some ts => parseList parseName ts.length ts
    | none => some ([], ts)
  let ts ← keyword "on" ts
  let (table, ts) ← parseName ts
  let body := (ts.dropWhile fun t => !t.isWord "begin").drop 1
  match body.reverse with
  | last :: semicolon :: _ :: _ =>
    if last.isWord "end" && semicolon.isOperator ";" then
      return (.createTrigger ifNotExists name table, [])
    else none
  | _ => none

/-- The value that a setting is given: a name or a number, which may have a sign. -/
def parseSetting (ts : List Token) : Option (String × List Token) :=
  match ts with
  | t :: rest =>
    if t.isOperator "-" then
      match rest with
      | u :: rest => match u.kind with
        | .number _ => some ("-" ++ u.text, rest)
        | _ => none
      | [] => none
    else
      match t.kind with
      | .number _ => some (t.text, rest)
      | _ => if t.isWord "on" ∨ t.isWord "delete" ∨ t.isWord "default" then some (t.text, rest)
        else t.name?.map fun n => (n, rest)
  | [] => none

/-- A statement on a setting of the database, after its keyword. -/
def parsePragma (ts : List Token) : Option (Statement × List Token) := do
  let (name, ts) ← parseName ts
  match operator "=" ts, operator "(" ts with
  | some ts, _ =>
    let (v, ts) ← parseSetting ts
    return (.pragma name (some v), ts)
  | none, some ts =>
    let (v, ts) ← parseSetting ts
    let ts ← operator ")" ts
    return (.pragma name (some v), ts)
  | none, none => return (.pragma name none, ts)

/-- The first words of each statement, with what reads the rest. -/
def statementForms : List (List String × Parse Statement) :=
  [(["select"], fun ts => (parseQuery ts).map fun p => (.select p.1, p.2)),
   (["insert"], parseInsert),
   (["replace"], fun ts => match parseInsert ts with
      | some (.insert _ table columns rows, rest) =>
        some (.insert .replace table columns rows, rest)
      | _ => none),
   (["update"], parseUpdate),
   (["delete"], parseDelete),
   (["create", "table"], parseCreate),
   (["alter", "table"], fun ts => do
      let (table, ts) ← parseName ts
      let ts ← keyword "add" ts
      let (_, ts) := optionalKeywords ["column"] ts
      let (column, ts) ← parseColumnSpec ts
      return (.addColumn table column, ts)),
   (["drop", "table"], fun ts => do
      let (ifExists, ts) := optionalKeywords ["if", "exists"] ts
      let (table, ts) ← parseName ts
      return (.dropTable ifExists table, ts)),
   (["create", "trigger"], parseTrigger),
   (["create", "temp", "trigger"], parseTrigger),
   (["create", "temporary", "trigger"], parseTrigger),
   (["drop", "trigger"], fun ts => do
      let (ifExists, ts) := optionalKeywords ["if", "exists"] ts
      let (name, ts) ← parseName ts
      return (.dropTrigger ifExists name, ts)),
   (["pragma"], parsePragma)]

/-- The statement that a run of tokens says, all of them taken together. -/
def parseStatement (ts : List Token) : Option Statement :=
  let ts := numberParams [] ts
  statementForms.findSome? fun form =>
    match keywords form.1 ts with
    | none => none
    | some rest =>
      match form.2 rest with
      | some (s, []) => some s
      | _ => none

/-- The runs of tokens between semicolons; empty ones are left out. -/
def splitStatements : List Token → List (List Token)
  | [] => []
  | t :: rest =>
    if t.isOperator ";" then splitStatements rest
    else
      match rest, splitStatements rest with
      | u :: _, first :: more =>
        if u.isOperator ";" then [t] :: first :: more else (t :: first) :: more
      | _, parts => [t] :: parts

/-- The statement is a trigger, in whose body there are semicolons. -/
def startsTrigger (ts : List Token) : Bool :=
  [["create", "trigger"], ["create", "temp", "trigger"], ["create", "temporary", "trigger"]].any
    fun ks => (keywords ks ts).isSome

/-- Statements in which each trigger stands with its body, which goes on to the run of tokens that
starts with its end. `trigger` is the one that was started. -/
def joinTriggers : (trigger : Option (List Token)) → List (List Token) → List (List Token)
  | none, [] => []
  | some ts, [] => [ts]
  | none, ts :: rest =>
    if startsTrigger ts then joinTriggers (some ts) rest else ts :: joinTriggers none rest
  | some ts, us :: rest =>
    let ts := ts ++ ⟨.operator, [], ";"⟩ :: us
    if (keyword "end" us).isSome then ts :: joinTriggers none rest
    else joinTriggers (some ts) rest

/-- The statements of a text. -/
def statementsOf (text : String) : List (List Token) :=
  joinTriggers none (splitStatements (tokens text))

end ResourceProvider.Engine
