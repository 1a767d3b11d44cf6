import TradeRun.Text.Blank

/-!
Declarations of tables: `CREATE TABLE name (column type …, …)`.

* `Lexeme`, `lexemes`: words, quoted names and single marks, without blanks and comments;
* `ColumnDeclaration`: the name of a column, whether it is the number of its row, and whether whole
  numbers in it stand for doubles;
* `Declaration.parse`: the columns of a declaration;
* `Subject`: of what kind that is which a declaration declares, and its name.

Of what is declared besides, only the primary key matters: a column of type `INTEGER` that is the
whole key is the number of its row, and nothing is stored for it.
-/

namespace TradeRun.Store

/-- A part of a declaration. -/
inductive Lexeme
  | word (text : List Char)
  | quoted (text : List Char)
  | mark (c : Char)
deriving DecidableEq, Repr

/-- What is being read. Texts are in reverse order. -/
inductive Mode
  | idle
  | inWord (text : List Char)
  | inQuotes (close : Char) (text : List Char)
  /-- A closing quote that may be the first of two that stand for one. -/
  | afterQuote (close : Char) (text : List Char)
  | afterDash
  | inLineComment
  | afterSlash
  | inComment
  | afterStar

/-- What was read, in reverse order, and what is being read. -/
structure Scan where
  done : List Lexeme := []
  mode : Mode := .idle

namespace Scan

/-- Adds a part and goes on. -/
def emit (s : Scan) (l : Lexeme) (mode : Mode) : Scan := ⟨l :: s.done, mode⟩

/-- Whether a character can be part of a word. -/
def isWordChar (c : Char) : Bool := c.isAlphanum || c == '_' || c == '$' || 128 ≤ c.toNat

/-- The characters that stand at both ends of a quoted name. -/
def quotes : List Char := "'\"`".toList

/-- Begins something new. -/
def start (s : Scan) (c : Char) : Scan :=
  if isWordChar c then { s with mode := .inWord [c] }
  else if quotes.contains c then { s with mode := .inQuotes c [] }
  else if c = '[' then { s with mode := .inQuotes ']' [] }
  else if c = '-' then { s with mode := .afterDash }
  else if c = '/' then { s with mode := .afterSlash }
  else if Text.isBlank c then { s with mode := .idle }
  else s.emit (.mark c) .idle

/-- Reads a character. -/
def step (s : Scan) (c : Char) : Scan :=
  match s.mode with
  | .idle => s.start c
  | .inWord text =>
    if isWordChar c then { s with mode := .inWord (c :: text) }
    else (s.emit (.word text.reverse) .idle).start c
  | .inQuotes close text =>
    if c = close then { s with mode := .afterQuote close text }
    else { s with mode := .inQuotes close (c :: text) }
  | .afterQuote close text =>
    if c = close ∧ close ≠ ']' then { s with mode := .inQuotes close (c :: text) }
    else (s.emit (.quoted text.reverse) .idle).start c
  | .afterDash =>
    if c = '-' then { s with mode := .inLineComment } else (s.emit (.mark '-') .idle).start c
  | .inLineComment => if c = '\n' then { s with mode := .idle } else s
  | .afterSlash =>
    if c = '*' then { s with mode := .inComment } else (s.emit (.mark '/') .idle).start c
  | .inComment => if c = '*' then { s with mode := .afterStar } else s
  | .afterStar =>
    if c = '/' then { s with mode := .idle }
    else if c = '*' then s
    else { s with mode := .inComment }

end Scan

/-- The parts of a text. -/
def lexemes (s : String) : List Lexeme := ((s.toList ++ [' ']).foldl Scan.step {}).done.reverse

/-! ### Columns -/

/-- What is declared of a column. -/
structure ColumnDeclaration where
  name : String
  /-- The column is the number of its row. -/
  isRowNumber : Bool := false
  /-- Whole numbers in the column stand for doubles. -/
  isReal : Bool := false
deriving DecidableEq, Repr

/-- The entries between the outer brackets, in reverse order, with the depth of the brackets. -/
structure Split where
  depth : Nat := 0
  entry : List Lexeme := []
  entries : List (List Lexeme) := []

/-- Reads a part. -/
def Split.step (s : Split) (l : Lexeme) : Split :=
  match l with
  | .mark '(' =>
    if s.depth = 0 then { s with depth := 1 }
    else { s with depth := s.depth + 1, entry := l :: s.entry }
  | .mark ')' =>
    if s.depth = 1 then ⟨0, [], s.entry.reverse :: s.entries⟩
    else { s with depth := s.depth - 1, entry := l :: s.entry }
  | .mark ',' =>
    if s.depth = 1 then { s with entry := [], entries := s.entry.reverse :: s.entries }
    else { s with entry := l :: s.entry }
  | _ => if s.depth = 0 then s else { s with entry := l :: s.entry }

/-- The entries between the outer brackets. -/
def entriesOf (ls : List Lexeme) : List (List Lexeme) := (ls.foldl Split.step {}).entries.reverse

/-- Whether a part is a certain word, in any case. -/
def isWord (word : String) : Lexeme → Bool
  | .word text => Text.foldAscii text == word.toList
  | _ => false

/-- The text of a part that can be a name. -/
def nameOf? : Lexeme → Option String
  | .word text | .quoted text => some (String.ofList text)
  | .mark _ => none

/-- Words after which an entry is no column, or which end the type of one. -/
def keywords : List String :=
  ["CONSTRAINT", "PRIMARY", "UNIQUE", "CHECK", "FOREIGN", "NOT", "NULL", "DEFAULT", "COLLATE",
    "REFERENCES", "GENERATED", "AS"]

/-- Words with which an entry begins that is no column. -/
def constraintWords : List String := ["CONSTRAINT", "PRIMARY", "UNIQUE", "CHECK", "FOREIGN"]

/-- Whether a part is one of some words. -/
def isOneOf (words : List String) (l : Lexeme) : Bool := words.any (isWord · l)

/-- The words of the type of a column, as capitals. -/
def typeOf (rest : List Lexeme) : List String :=
  (rest.takeWhile (!isOneOf keywords ·)).filterMap fun l =>
    (nameOf? l).map fun s => String.ofList (Text.foldAscii s.toList)

/-- Whether one list of characters stands somewhere in another one. -/
def occursIn (part : List Char) : List Char → Bool
  | [] => part.isEmpty
  | c :: cs => part.isPrefixOf (c :: cs) || occursIn part cs

/-- Whether a type names doubles, and neither whole numbers nor texts nor bytes. -/
def isRealType (words : List String) : Bool :=
  let text := (words.map String.toList).flatten
  let mentions (part : String) : Bool := occursIn part.toList text
  !(["INT", "CHAR", "CLOB", "TEXT", "BLOB"].any mentions) && ["REAL", "FLOA", "DOUB"].any mentions

/-- Whether the parts after the type make the column the key, in ascending order. -/
def declaresKey (rest : List Lexeme) : Bool :=
  match rest.dropWhile (!isWord "PRIMARY" ·) with
  | _ :: key :: more => isWord "KEY" key && !(more.head?.any (isWord "DESC"))
  | _ => false

/-- The column that is the whole key, by a declaration after the columns. -/
def keyColumn? (entry : List Lexeme) : Option String :=
  match entry.dropWhile (!isWord "PRIMARY" ·) with
  | [_, _, .mark '(', column, .mark ')'] => nameOf? column
  | _ => none

/-- The columns of a declaration, and whether rows are stored by their numbers. -/
structure Declaration where
  columns : List ColumnDeclaration
  hasRowNumbers : Bool
deriving DecidableEq, Repr

/-- A column of an entry, given the column that is the whole key by another entry. -/
def columnOf? (key : Option String) : List Lexeme → Option ColumnDeclaration
  | [] => none
  | first :: rest =>
    (nameOf? first).map fun name =>
      let type := typeOf rest
      let isKey := declaresKey rest || key.any (Text.equalAscii name)
      { name, isRowNumber := isKey && type == ["INTEGER"], isReal := isRealType type }

/-- Reads a declaration. -/
def Declaration.parse (text : String) : Declaration :=
  let ls := lexemes text
  let entries := entriesOf ls
  let isConstraint (entry : List Lexeme) : Bool := entry.head?.any (isOneOf constraintWords)
  let key := (entries.filter isConstraint).findSome? keyColumn?
  { columns := (entries.filter (!isConstraint ·)).filterMap (columnOf? key)
    hasRowNumbers := !ls.any (isWord "WITHOUT") }

/-- Whether an index of its own goes with the table that is declared. -/
def Declaration.needsIndex (text : String) : Bool :=
  (lexemes text).any (isOneOf ["PRIMARY", "UNIQUE"])

/-! ### What is declared -/

/-- Of what kind that is which a declaration declares, and its name. -/
structure Subject where
  kind : String
  name : String
deriving DecidableEq, Repr

/-- What follows after words that ask whether something is there. -/
def afterQuestion (ls : List Lexeme) : List Lexeme :=
  match ls with
  | first :: second :: third :: rest =>
    if isWord "IF" first && isWord "NOT" second && isWord "EXISTS" third then rest else ls
  | _ => ls

/-- The table or view that is declared. -/
def Subject.ofDeclaration? (text : String) : Option Subject :=
  match ((lexemes text).drop 1).dropWhile (isOneOf ["TEMP", "TEMPORARY", "VIRTUAL"]) with
  | kind :: rest =>
    let name := (afterQuestion rest).head?.bind nameOf?
    if isWord "TABLE" kind then name.map (⟨"table", ·⟩)
    else if isWord "VIEW" kind then name.map (⟨"view", ·⟩)
    else none
  | [] => none

end TradeRun.Store
