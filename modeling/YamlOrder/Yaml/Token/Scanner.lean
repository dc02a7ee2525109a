import YamlOrder.Yaml.Source
import YamlOrder.Yaml.Token.Scalar
import YamlOrder.Yaml.Token.Name
import YamlOrder.Yaml.Token.Comment

/-!
This module contains the scanner, which turns the characters of a stream into tokens. A key without
an indicator is only known to be one at its colon, so tokens wait in a queue while a key is possible
at its head, and the indicators are put in before them.
-/

namespace YamlOrder
namespace Yaml

/-- A place at which a key without an indicator may have started. -/
structure SimpleKey where
  possible : Bool := false
  required : Bool := false
  /-- The number of the token that the key would start with. -/
  number : Nat := 0
  /-- Whether that token waits until it is known whether it starts the key. -/
  awaited : Bool := true
  mark : Mark := {}
  deriving Repr, Inhabited

structure Scanner where
  cursor : Cursor
  started : Bool := false
  flowLevel : Nat := 0
  indent : Int := -1
  indents : List Int := []
  keyAllowed : Bool := true
  /-- The possible keys, one for each flow level, the innermost one first. -/
  keys : List SimpleKey := [{}]
  /-- The tokens that have not been given out. -/
  tokens : List Token := []
  /-- How many tokens have been given out. -/
  given : Nat := 0
  /-- The comments that no token has taken. -/
  comments : List Comment := []

namespace Scanner

/-- The deepest nesting. -/
def maxDepth : Nat := 10000

/-- How far a key may reach. -/
def maxKeyLength : Nat := 1024

def mark (s : Scanner) : Mark := s.cursor.mark

def inFlow (s : Scanner) : Bool := s.flowLevel != 0

def fail {α : Type} (s : Scanner) (context : Mark) (p : Problem) : Except Fault α :=
  .error (s.cursor.problem context p)

def push (s : Scanner) (t : Token) : Scanner := { s with tokens := s.tokens ++ [t] }

/-- Step over an indicator and queue its token. -/
def indicator (s : Scanner) (kind : TokenKind) (width : Nat) : Scanner :=
  let cursor := s.cursor.skipN width
  { s with cursor, tokens := s.tokens ++ [⟨kind, s.mark, cursor.mark⟩] }

/-- Whether a key can still be completed. A required one that cannot is a fault. -/
def keyIsValid (s : Scanner) (k : SimpleKey) : Except Fault Bool :=
  if !k.possible then .ok false
  else if k.mark.line < s.mark.line || k.mark.index + maxKeyLength < s.mark.index then
    if k.required then s.fail k.mark .expectedColon else .ok false
  else
    .ok true

def topKey (s : Scanner) : SimpleKey := s.keys.headD {}

def setTopKey (s : Scanner) (k : SimpleKey) : Scanner := { s with keys := k :: s.keys.tail }

/-- Give up the possible key of this level. -/
def removeKey (s : Scanner) : Except Fault Scanner :=
  let k := s.topKey
  if k.possible && k.required then s.fail k.mark .expectedColon
  else .ok (s.setTopKey { k with possible := false })

/-- Remember that a key may start here. -/
def saveKey (s : Scanner) : Except Fault Scanner :=
  if s.keyAllowed then do
    let s ← s.removeKey
    return s.setTopKey {
      possible := true
      required := !s.inFlow && s.indent == s.mark.column
      number := s.given + s.tokens.length
      mark := s.mark }
  else
    .ok s

/-- Queue a token before the one with a number, or last if that has been given out. -/
def insertAt (s : Scanner) (number : Nat) (t : Token) : Scanner :=
  let place := if number < s.given then s.tokens.length else number - s.given
  { s with tokens := s.tokens.insertIdx place t }

/--
Start a block collection at a deeper column. The token goes before the one with a number, or last.
-/
def rollIndent (s : Scanner) (column : Nat) (number : Option Nat) (kind : TokenKind) (mark : Mark)
    : Except Fault Scanner :=
  if !s.inFlow && s.indent < column then
    let s := { s with indents := s.indent :: s.indents, indent := column }
    if maxDepth < s.indents.length then
      s.fail s.topKey.mark .tooDeep
    else
      .ok (s.insertAt (number.getD (s.given + s.tokens.length)) ⟨kind, mark, mark⟩)
  else
    .ok s

/--
The position of the end of a block collection: that of the first of the comments right before which
is indented like the collection, or else `mark`.
-/
def blockEndMark (indent : Int) (mark : Mark) (comments : List Comment) : Mark :=
  go comments.reverse mark.index mark
where
  go : List Comment → Nat → Mark → Mark
    | [], _, best => best
    | c :: rest, stop, best =>
      if c.last.index < stop then best
      else go rest c.scan.index (if (c.first.column : Int) == indent + 1 then c.first else best)

/-- End the block collections that are indented deeper than a column. -/
def unrollIndent (s : Scanner) (column : Int) (scan : Mark) : Scanner :=
  if s.inFlow then s
  else go s.indents.length { scan with index := scan.index - 1 } s
where
  go : Nat → Mark → Scanner → Scanner
    | 0, _, s => s
    | fuel + 1, mark, s =>
      if column < s.indent then
        let mark := blockEndMark s.indent mark s.comments
        go fuel mark
          { s with
            tokens := s.tokens ++ [⟨.blockEnd, mark, mark⟩]
            indent := s.indents.headD (-1)
            indents := s.indents.tail }
      else
        s

/-- Turn a comment right after the dash of a new sequence into a head of what follows. -/
def liftEntryComment (s : Scanner) : Scanner :=
  match s.tokens.reverse, s.comments.reverse with
  | b :: a :: _, c :: rest =>
    if a.kind == .blockSequenceStart && b.kind == .blockEntry && !c.line.isEmpty &&
        !isBreak s.cursor.peek then
      let token := if c.first.line + 1 == s.mark.line then s.mark else c.token
      { s with comments :=
        (({ c with head := c.line, line := [], token } : Comment) :: rest).reverse }
    else
      s
  | _, _ => s

/-- The token that comments found here may be a foot of. -/
def footToken (s : Scanner) : Token :=
  match s.tokens.reverse with
  | b :: a :: _ => if b.kind == .flowEntry then a else b
  | b :: _ => b
  | [] => ⟨.streamStart, {}, {}⟩

/--
Step over white space and comments. While a byte order mark is at the front of the characters in
use, the first character of each line is stepped over in its place.
-/
def scanToNext (scan : Mark) : Nat → Scanner → Scanner
  | 0, s => s
  | fuel + 1, s =>
    let cursor := s.cursor.need 1
    let cursor := if s.mark.column == 0 && cursor.front != 0 then cursor.skip.need 1 else cursor
    let tabs := s.inFlow || !s.keyAllowed
    let cursor := cursor.skipWhile fun c => c == ' ' || (tabs && c == '\t')
    let s := { s with cursor }.liftEntryComment
    let s :=
      if s.cursor.peek == '#' then
        let (comments, cursor) := scanComments scan s.footToken s.inFlow s.indent s.cursor
        { s with comments := s.comments ++ comments, cursor }
      else
        s
    if isBreak s.cursor.peek then
      scanToNext scan fuel
        { s with cursor := s.cursor.skipLine, keyAllowed := s.keyAllowed || !s.inFlow }
    else
      s

/-- The end of the stream is on a line of its own. -/
def fetchStreamEnd (s : Scanner) : Except Fault Scanner := do
  let mark : Mark :=
    if s.mark.column == 0 then s.mark else { s.mark with line := s.mark.line + 1, column := 0 }
  let s := { s with cursor := { s.cursor with mark } }
  let s ← (s.unrollIndent (-1) s.mark).removeKey
  return { s with keyAllowed := false }.push ⟨.streamEnd, s.mark, s.mark⟩

def fetchDirective (s : Scanner) : Except Fault Scanner := do
  let s ← (s.unrollIndent (-1) s.mark).removeKey
  let (token, cursor) ← scanDirective s.cursor
  return { s with keyAllowed := false, cursor }.push token

def fetchDocumentMarker (s : Scanner) (kind : TokenKind) : Except Fault Scanner := do
  let s ← (s.unrollIndent (-1) s.mark).removeKey
  return { s with keyAllowed := false }.indicator kind 3

def fetchFlowStart (s : Scanner) (kind : TokenKind) : Except Fault Scanner := do
  let s ← s.saveKey
  let s := { s with
    keys := { number := s.given + s.tokens.length, mark := s.mark } :: s.keys
    flowLevel := s.flowLevel + 1 }
  if maxDepth < s.flowLevel then
    s.fail s.mark .tooDeep
  else
    return { s with keyAllowed := true }.indicator kind 1

def fetchFlowEnd (s : Scanner) (kind : TokenKind) : Except Fault Scanner := do
  let s ← s.removeKey
  let number := s.topKey.number
  let keys := s.keys.tail.map fun k => { k with awaited := k.awaited && k.number != number }
  let s := if s.inFlow then { s with flowLevel := s.flowLevel - 1, keys } else s
  return { s with keyAllowed := false }.indicator kind 1

def fetchFlowEntry (s : Scanner) : Except Fault Scanner := do
  let s ← s.removeKey
  return { s with keyAllowed := true }.indicator .flowEntry 1

def fetchBlockEntry (s : Scanner) : Except Fault Scanner := do
  let s ←
    if s.inFlow then pure s
    else if !s.keyAllowed then s.fail s.mark .entryNotAllowed
    else s.rollIndent s.mark.column none .blockSequenceStart s.mark
  let s ← s.removeKey
  return { s with keyAllowed := true }.indicator .blockEntry 1

def fetchKey (s : Scanner) : Except Fault Scanner := do
  let s ←
    if s.inFlow then pure s
    else if !s.keyAllowed then s.fail s.mark .keyNotAllowed
    else s.rollIndent s.mark.column none .blockMappingStart s.mark
  let s ← s.removeKey
  return { s with keyAllowed := !s.inFlow }.indicator .key 1

def fetchValue (s : Scanner) : Except Fault Scanner := do
  let k := s.topKey
  if ← s.keyIsValid k then
    let s := s.insertAt k.number ⟨.key, k.mark, k.mark⟩
    let s ← s.rollIndent k.mark.column (some k.number) .blockMappingStart k.mark
    let s := s.setTopKey { k with possible := false }
    return { s with keyAllowed := false }.indicator .value 1
  else
    let s ←
      if s.inFlow then pure s
      else if !s.keyAllowed then s.fail s.mark .valueNotAllowed
      else s.rollIndent s.mark.column none .blockMappingStart s.mark
    return { s with keyAllowed := !s.inFlow }.indicator .value 1

def fetchAnchor (s : Scanner) (kind : Text → TokenKind) : Except Fault Scanner := do
  let s ← s.saveKey
  let (name, cursor) ← scanAnchor s.cursor
  return { s with keyAllowed := false, cursor }.push ⟨kind name, s.mark, cursor.mark⟩

def fetchTag (s : Scanner) : Except Fault Scanner := do
  let s ← s.saveKey
  let (handle, suffix, cursor) ← scanTag s.cursor
  return { s with keyAllowed := false, cursor }.push ⟨.tag handle suffix, s.mark, cursor.mark⟩

/-- Read a block scalar: its header, a comment after it, and its lines. -/
def fetchBlockScalar (s : Scanner) (literal : Bool) : Except Fault Scanner := do
  let s ← s.removeKey
  let start := s.mark
  let (chomping, increment, cursor) ← scanBlockHeader start s.cursor.skip
  let cursor := cursor.skipBlanks
  let (comment, cursor) := if cursor.peek == '#' then scanLineComment start cursor
    else (none, cursor)
  let cursor := if cursor.peek == '#' then cursor.skipToBreak else cursor
  if !isBreakOrEnd cursor.peek then
    throw (cursor.problem start .noCommentOrBreak)
  let indent := if increment == 0 then 0 else s.indent.toNat + increment
  let breaks ← scanBlockBreaks start (s.indent + 1).toNat indent cursor.skipLine
  let scalar ← scanBlockLines start literal chomping breaks
  return { s with
    keyAllowed := true
    cursor := scalar.cursor
    comments := s.comments ++ comment.toList }.push scalar.token

def fetchQuoted (s : Scanner) (single : Bool) : Except Fault Scanner := do
  let s ← s.saveKey
  let scalar ← scanQuoted single s.cursor
  return { s with keyAllowed := false, cursor := scalar.cursor }.push scalar.token

def fetchPlain (s : Scanner) : Except Fault Scanner := do
  let s ← s.saveKey
  let scalar ← scanPlain s.inFlow (s.indent + 1).toNat s.cursor
  return { s with keyAllowed := scalar.brokeLine, cursor := scalar.cursor }.push scalar.token

/-- The characters that cannot start a plain scalar, whatever follows them. -/
def isIndicator (c : Char) : Bool :=
  ['-', '?', ':', ',', '[', ']', '\x7b', '\x7d', '#', '&', '*', '!', '|', '>', '\'', '"', '%', '@',
    '\x60'].contains c

/-- Whether a plain scalar starts here. -/
def startsPlain (s : Scanner) : Bool :=
  let c := s.cursor.peek
  let next := s.cursor.peek 1
  !(isBlankOrEnd c || isIndicator c) || (c == '-' && !isBlank next) ||
    (!s.inFlow && (c == '?' || c == ':') && !isBlankOrEnd next)

/-- Read the token that starts here, which is no end of the stream, directive or document marker. -/
def fetchContent (s : Scanner) : Except Fault Scanner :=
  let c := s.cursor.peek
  let next := s.cursor.peek 1
  match c with
  | '[' => s.fetchFlowStart .flowSequenceStart
  | '\x7b' => s.fetchFlowStart .flowMappingStart
  | ']' => s.fetchFlowEnd .flowSequenceEnd
  | '\x7d' => s.fetchFlowEnd .flowMappingEnd
  | ',' => s.fetchFlowEntry
  | '*' => s.fetchAnchor .alias
  | '&' => s.fetchAnchor .anchor
  | '!' => s.fetchTag
  | '\'' => s.fetchQuoted true
  | '"' => s.fetchQuoted false
  | _ =>
    if c == '-' && isBlankOrEnd next then s.fetchBlockEntry
    else if c == '?' && (s.inFlow || isBlankOrEnd next) then s.fetchKey
    else if c == ':' && (s.inFlow || isBlankOrEnd next) then s.fetchValue
    else if c == '|' && !s.inFlow then s.fetchBlockScalar true
    else if c == '>' && !s.inFlow then s.fetchBlockScalar false
    else if s.startsPlain then s.fetchPlain
    else s.fail s.mark .noToken

/-- Take the comment after the token that was read last, unless that is a dash. -/
def takeLineComment (s : Scanner) (token : Mark) : Scanner :=
  if s.tokens.getLast?.any (·.kind == .blockEntry) then s
  else
    let (comment, cursor) := scanLineComment token s.cursor
    { s with comments := s.comments ++ comment.toList, cursor }

/--
The token that a comment after the next one belongs to: that of a key or of an entry that ends.
-/
def lineCommentMark (s : Scanner) : Mark :=
  let c := s.cursor.peek
  if (!s.inFlow && c == ':') || (s.inFlow && c == ',') then
    (s.tokens.getLast?.map (·.first)).getD s.mark
  else
    s.mark

/-- Read the next token. -/
def fetchNext (s : Scanner) : Except Fault Scanner :=
  if !s.started then
    .ok ({ s with started := true }.push ⟨.streamStart, s.mark, s.mark⟩)
  else
    let scan := s.mark
    let s := scanToNext scan (s.cursor.rest.length + 1) s
    let s := s.unrollIndent s.mark.column scan
    let s := { s with cursor := s.cursor.need 4 }
    if isEnd s.cursor.peek then s.fetchStreamEnd
    else if s.mark.column == 0 && s.cursor.peek == '%' then s.fetchDirective
    else if s.cursor.atMarker '-' then s.fetchDocumentMarker .documentStart
    else if s.cursor.atMarker '.' then s.fetchDocumentMarker .documentEnd
    else do
      let token := s.lineCommentMark
      let s ← s.fetchContent
      return s.takeLineComment token

/-- Read the next token, unless more characters are needed for it than there are before a fault. -/
def fetch (s : Scanner) : Except Fault Scanner := do
  let s := { s with cursor := s.cursor.need 1 }
  let next ← if s.cursor.short then pure s else s.fetchNext
  match next.cursor.short, next.cursor.fault with
  | true, some p => throw (.ofBytes p)
  | _, _ => return next

/-- Whether the first token can be given out: two more are known, and no key can start with it. -/
def ready (s : Scanner) : Except Fault Bool :=
  if s.tokens.length ≤ 2 then .ok false
  else
    match s.keys.find? fun k => k.possible && k.awaited && k.number == s.given with
    | none => .ok true
    | some k => do
      let valid ← s.keyIsValid k
      return !valid

/-- Whether a token takes a comment. An end of a block takes no heads. -/
def takes (t : Token) (c : Comment) : Bool :=
  c.token.index ≤ t.first.index && (c.head.isEmpty || t.kind != .blockEnd)

/-- Give out the tokens one by one, each with the comments that it takes. -/
def run : Nat → Scanner → List TokenItem → TokenStream
  | 0, _, items => ⟨items.reverse, none⟩
  | fuel + 1, s, items =>
    match s.ready with
    | .error e => ⟨items.reverse, some e⟩
    | .ok false =>
      match s.fetch with
      | .error e => ⟨items.reverse, some e⟩
      | .ok s => run fuel s items
    | .ok true =>
      match s.tokens with
      | [] => ⟨items.reverse, none⟩
      | t :: rest =>
        let item : TokenItem := ⟨t, s.comments.takeWhile (takes t)⟩
        if t.kind == .streamEnd then
          ⟨(item :: items).reverse, none⟩
        else
          run fuel
            { s with
              tokens := rest
              given := s.given + 1
              comments := s.comments.dropWhile (takes t) }
            (item :: items)

end Scanner

/-- The tokens of a stream. -/
def TokenStream.ofSource (s : Source) : TokenStream :=
  let front := if s.chars.head?.any isByteOrderMark then s.front else 0
  let cursor : Cursor := { rest := s.chars, fault := s.fault, held := s.held, front }
  Scanner.run (12 * (s.chars.length + s.held.length) + 64) { cursor } []

end Yaml
end YamlOrder
