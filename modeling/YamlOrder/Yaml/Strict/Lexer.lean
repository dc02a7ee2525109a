/-!
This module contains the lexemes of the strict reader, and its state while it cuts a document into
them: where it is, which plain text it collects, and how the line stands to the delimiter that it
hangs on.
-/

namespace YamlOrder
namespace Yaml
namespace Strict

/-- What a lexeme is. -/
inductive Sign where
  | plain
  | quoted
  /-- The text of a block scalar. -/
  | text
  /-- The header of a block scalar. -/
  | header
  | anchor
  | alias
  | tag
  | mergeKey
  | comment
  | directive
  | documentStart
  | documentEnd
  | mappingStart
  | mappingEnd
  | sequenceStart
  | sequenceEnd
  | comma
  /-- The dash of a sequence entry. -/
  | entry
  /-- The question mark of a key. -/
  | key
  /-- The colon of a value. -/
  | value
  deriving DecidableEq, Repr, Inhabited

/-- Where a lexeme starts. Lines and columns count from 1. -/
structure Place where
  line : Nat
  column : Nat
  deriving DecidableEq, Repr, Inhabited

structure Lexeme where
  sign : Sign
  place : Place
  word : List Char := []
  deriving DecidableEq, Repr, Inhabited

def isNewline (c : Char) : Bool := c == '\n' || c == '\r'

/-- How the first character of a line stands to the last delimiter. -/
inductive Shift where
  | level
  | deeper
  | back
  deriving DecidableEq, Repr, Inhabited

/-- What becomes of the line breaks at the end of a block text. -/
inductive Chomp where
  | strip
  | clip
  | keep
  deriving DecidableEq, Repr, Inhabited

/-- A block text that is being read. Of its columns, 0 stands for one that is not known. -/
structure Block where
  chomp : Chomp
  /-- The header says how far the text is indented. -/
  explicit : Bool := false
  /-- The column at which the text starts. -/
  first : Nat := 0
  /-- The column at which the current line starts. -/
  current : Nat := 0
  /-- The width of the last line of spaces before the first line of the text. -/
  blankWidth : Nat := 0
  /-- The text without its indentation, last character first. -/
  text : List Char := []
  /-- The text with its indentation, last character first. -/
  raw : List Char := []
  deriving Repr, Inhabited

structure Lexer where
  rest : List Char
  /-- The character before `rest`. -/
  before : Char := '\n'
  line : Nat := 1
  column : Nat := 1
  /-- The column of the delimiter that the lines below hang on, 0 if there is none. -/
  delimiter : Nat := 0
  /-- The line has had nothing but spaces so far. -/
  fresh : Bool := true
  shift : Shift := .level
  /-- The name of an anchor or an alias is being read. -/
  naming : Bool := false
  /-- A directive is being read. -/
  directing : Bool := false
  /-- How many flow sequences are open. A closing bracket on its own opens a debt. -/
  sequences : Int := 0
  /-- How many flow mappings are open. -/
  mappings : Nat := 0
  /-- The plain text that is being collected, last character first. -/
  plain : List Char := []
  /-- How many spaces it ends with. -/
  blanks : Nat := 0
  /-- The column at which it starts. -/
  start : Nat := 0
  /--
  The line breaks of a block text without content count as plain text until there is other text.
  -/
  residue : Bool := false
  /-- The place of the first line of a plain text with more than one. -/
  saved : Option Place := none
  block : Option Block := none
  /-- The lexemes so far, the last one first. -/
  lexemes : List Lexeme := []
  deriving Repr, Inhabited

namespace Lexer

def place (s : Lexer) : Place := ⟨s.line, s.column⟩

/-- Some plain text has been collected. -/
def holding (s : Lexer) : Bool := !s.plain.isEmpty || s.residue

def inFlow (s : Lexer) : Bool := 0 < s.sequences || 0 < s.mappings

/-- The character after the current one. -/
def following? (s : Lexer) : Option Char := s.rest.tail.head?

def last? (s : Lexer) : Option Lexeme := s.lexemes.head?

def push (s : Lexer) (l : Lexeme) : Lexer := { s with lexemes := l :: s.lexemes }

/-- Step over `n` characters of a line, which fill `width` columns of it. -/
def skip (s : Lexer) (n : Nat) (width : Nat := n) : Lexer :=
  { s with
    rest := s.rest.drop n
    before := (s.rest.take n).getLastD s.before
    column := s.column + width }

/-- Step over a character that ends a line. -/
def newLine (s : Lexer) : Lexer :=
  { s with
    rest := s.rest.tail
    before := s.rest.headD s.before
    line := s.line + 1
    column := 1
    fresh := true
    naming := false
    directing := false }

/-- Forget the text that has been collected. -/
def clear (s : Lexer) : Lexer :=
    { s with plain := [], blanks := 0, residue := false, block := none }

/-- A sign of one character; what has been collected before it is gone. -/
def sign (s : Lexer) (kind : Sign) : Lexer := ((s.push ⟨kind, s.place, []⟩).skip 1).clear

/-- Collect a character. No plain text starts with a space. -/
def collect (s : Lexer) (c : Char) : Lexer :=
  if c == ' ' then
    if s.plain.isEmpty then s else { s with plain := c :: s.plain, blanks := s.blanks + 1 }
  else
    { s with
      plain := c :: s.plain
      blanks := 0
      start := if s.plain.isEmpty then s.column else s.start
      residue := false }

/-- Collect the current character and step over it. -/
def take (s : Lexer) (c : Char) : Lexer := (s.collect c).skip 1

/-- The lexeme of the plain text that has been collected. -/
def held? (s : Lexer) : Option Lexeme :=
  if s.holding then
    let column := if s.plain.isEmpty then s.column else s.start
    some ⟨.plain, s.saved.getD ⟨s.line, column⟩, (s.plain.drop s.blanks).reverse⟩
  else
    none

/-- End the plain text. -/
def flush (s : Lexer) : Lexer :=
  match s.held? with
  | some l => { s.push l with plain := [], blanks := 0, residue := false, saved := none }
  | none => { s with saved := none }

/--
Note how a line stands to the delimiter when its first character other than a space is met. Without
a delimiter the line before says it.
-/
def observe (s : Lexer) (c : Char) : Lexer :=
  if !s.fresh then { s with shift := .level }
  else if isNewline c || c == ' ' then s
  else
    let shift :=
      if s.delimiter == 0 then s.shift else if s.delimiter < s.column then .deeper else .back
    { s with shift, fresh := false }

/-- A line that starts with three of the character and nothing but a blank after them. -/
def isMarker (c : Char) (rest : List Char) : Bool :=
  rest.take 3 == [c, c, c] && (rest.drop 3).head?.all fun d => d == ' ' || isNewline d

/-- A document starts or ends with this line. -/
def isDocumentMarker (rest : List Char) : Bool := isMarker '-' rest || isMarker '.' rest

end Lexer
end Strict
end Yaml
end YamlOrder
