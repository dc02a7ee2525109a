import YamlOrder.Yaml.Strict.Scalar

/-!
This module contains what each indicator means to the strict reader, and the lexemes of a whole
document. Its texts hold no tabs: they are expanded before a document is read.
-/

namespace YamlOrder
namespace Yaml
namespace Strict
namespace Lexer

/-- A collection in brackets starts, unless the bracket belongs to a plain text. -/
def flowStart (s : Lexer) (c : Char) (kind : Sign) : Lexer :=
  if s.holding && !s.inFlow then s.take c
  else
    let s := s.flush.sign kind
    if kind == .mappingStart then { s with mappings := s.mappings + 1 }
    else { s with sequences := s.sequences + 1 }

def mappingEnd (s : Lexer) (c : Char) : Lexer :=
  if s.mappings == 0 then s.take c
  else
    let s := s.flush.sign .mappingEnd
    { s with mappings := s.mappings - 1 }

def sequenceEnd (s : Lexer) (c : Char) : Lexer :=
  if s.holding && s.sequences ≤ 0 then s.take c
  else
    let s := s.flush.sign .sequenceEnd
    { s with sequences := s.sequences - 1 }

def comma (s : Lexer) (c : Char) : Lexer := if s.inFlow then s.flush.sign .comma else s.take c

/-- Three dots at the start of a line end the document, whatever follows. -/
def dot (s : Lexer) (c : Char) : Lexer :=
  if s.column == 1 && (s.rest.takeWhile (· == '.')).length == 3 then
    ((s.flush.push ⟨.documentEnd, s.place, []⟩).skip 3).clear
  else
    s.take c

/-- A dash starts a document, goes on with a plain text, or starts an entry. -/
def dash (s : Lexer) (c : Char) : Lexer :=
  if s.column == 1 && isMarker '-' s.rest then
    { ((s.flush.push ⟨.documentStart, s.place, []⟩).skip 3).clear with delimiter := 0 }
  else if s.holding && s.shift == .deeper then
    s.blockOfPlain
  else if !s.holding && s.following?.all (fun d => d == ' ' || isNewline d) then
    { s.flush.sign .entry with delimiter := s.column }
  else
    s.take c

/-- After the merge sign, spaces and colons lead to a colon with a blank after it. -/
def leadsToValue : List Char → Bool
  | ' ' :: rest => leadsToValue rest
  | ':' :: rest => rest.head? == some ' ' || rest.head? == some '\n' || leadsToValue rest
  | _ => false

def mergeKey (s : Lexer) (c : Char) : Lexer :=
  if (s.rest.takeWhile (· == '<')).length == 2 && leadsToValue (s.rest.drop 2) then
    { ((s.push ⟨.mergeKey, s.place, []⟩).skip 2).clear with delimiter := s.column }
  else
    s.take c

/-- Whether a colon is the sign of a value. -/
def isValueSign (s : Lexer) : Bool :=
  if s.directing || s.naming then false
  else if s.mappings == 0 then s.following?.all fun d => d == ' ' || isNewline d
  else s.following? != some '/' && s.last?.all (·.sign != .value)

/-- The lines below a colon hang on its key. -/
def value (s : Lexer) (c : Char) : Lexer :=
  if s.isValueSign then
    let key? : Option Lexeme := s.held? <|> s.last?.filter (·.sign == .quoted)
    { s.flush.sign .value with delimiter := (key?.map (·.place.column)).getD s.delimiter }
  else
    s.take c

/--
A tag reaches to a blank or, in a flow collection, a comma; no brace is part of it. The blank after
it does not fill a column. A tag at the end of the text does not count.
-/
def tag (s : Lexer) (c : Char) : Option Lexer :=
  if s.holding || s.directing then some (s.take c)
  else
    let word := s.rest.takeWhile fun d => d != ' ' && !isNewline d && !(d == ',' && s.inFlow)
    if word.any fun d => d == '\x7b' || d == '\x7d' then none
    else
      let width := word.length
      match s.rest.drop width with
      | [] => some (s.skip width).clear
      | d :: _ =>
        let s := s.push ⟨.tag, s.place, word⟩
        if d == ' ' then some (s.skip (width + 1) width).clear
          else some (s.skip width (width - 1)).clear

def directive (s : Lexer) (c : Char) : Lexer :=
  if s.holding || s.column != 1 then s.take c
  else { s.flush.sign .directive with directing := true }

/-- A question mark is the sign of a key if a blank follows. -/
def key (s : Lexer) (c : Char) : Lexer :=
  if !s.holding && s.following?.any (fun d => d == ' ' || isNewline d) then
    { s.sign .key with delimiter := s.column }
  else
    s.take c

/-- The sign of an anchor or an alias; its name follows. -/
def name (s : Lexer) (c : Char) (kind : Sign) : Lexer :=
  if s.holding then s.take c else { s.flush.sign kind with naming := true }

/-- A comment reaches to the end of the line. Within a plain text it needs a blank before it. -/
def comment (s : Lexer) (c : Char) : Lexer :=
  if s.holding && s.before != ' ' && !isNewline s.before then s.take c
  else
    let s := s.flush.push ⟨.comment, s.place, []⟩
    (s.skip (s.rest.takeWhile (!isNewline ·)).length).newLine.clear

/-- The end of a line. A plain text may go on below, a name or a directive may not. -/
def lineEnd (s : Lexer) (c : Char) : Lexer :=
  let s :=
    if !s.plain.isEmpty && s.saved.isNone then
      { s with saved := some ⟨s.line, s.start + s.blanks⟩ }
    else s
  let s := if c == '\r' && s.following? == some '\n' then s.skip 1 else s
  let s := if s.naming || s.directing then s.flush else s
  (s.collect ' ').newLine

def space (s : Lexer) (c : Char) : Lexer :=
  if s.fresh then s.skip 1
  else if s.directing then s.flush.skip 1
  else if s.naming then { s.flush with naming := false }.skip 1
  else s.take c

/-- Take a character outside of a block text. -/
def plainChar (s : Lexer) (c : Char) : Option Lexer :=
  match c with
  | '\x7b' => some (s.flowStart c .mappingStart)
  | '\x7d' => some (s.mappingEnd c)
  | '[' => some (s.flowStart c .sequenceStart)
  | ']' => some (s.sequenceEnd c)
  | ',' => some (s.comma c)
  | '.' => some (s.dot c)
  | '-' => some (s.dash c)
  | '<' => some (s.mergeKey c)
  | ':' => some (s.value c)
  | '|' | '>' => if s.holding then some (s.take c) else s.blockHeader
  | '!' => s.tag c
  | '%' => some (s.directive c)
  | '?' => some (s.key c)
  | '&' => some (s.name c .anchor)
  | '*' => some (s.name c .alias)
  | '#' => some (s.comment c)
  | '\'' | '"' => if s.holding then some (s.take c) else s.quoted c
  | '\r' | '\n' => some (s.lineEnd c)
  | ' ' => some (s.space c)
  | '@' | '\x60' => if s.holding then some (s.take c) else none
  | _ => some (s.take c)

/-- Take the current character. -/
def step (s : Lexer) (c : Char) : Option Lexer := do
  let s := s.observe c
  let s ←
    match s.shift, s.block with
    | .back, some b => s.leaveBlock b
    | .back, none => some s.flush
    | _, _ => some s
  match s.block with
  | some b => s.blockChar b c
  | none => s.plainChar c

/-- End the text that is being read at the end of the document. -/
def finish (s : Lexer) : Lexer :=
  match s.block with
  | some b => if b.body.isEmpty then s else s.endBlock b
  | none => s.flush

/-- Take all characters. Each step takes one at least. -/
def run : Nat → Lexer → Option Lexer
  | 0, s => if s.rest.isEmpty then some s.finish else none
  | fuel + 1, s =>
    match s.rest with
    | [] => some s.finish
    | c :: _ => (s.step c).bind (run fuel)

end Lexer

/-- The lexemes of a document without its comments; nothing if it has a fault. -/
def lexemes? (text : List Char) : Option (List Lexeme) :=
  (Lexer.run text.length { rest := text }).map fun s =>
  s.lexemes.reverse.filter (·.sign != .comment)

end Strict
end Yaml
end YamlOrder
