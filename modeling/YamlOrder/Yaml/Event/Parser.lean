import YamlOrder.Yaml.Token

/-!
This module contains the grammar of YAML: a stack machine that turns the tokens of a stream into the
events of its first document.
-/

namespace YamlOrder
namespace Yaml

/-- What the grammar expects next. -/
inductive Expect where
  | streamStart
  | implicitDocument
  | document
  | documentContent
  | documentEnd
  | blockNode
  | blockSequenceFirst
  | blockSequence
  | indentlessSequence
  | blockMappingFirst
  | blockMappingKey
  | blockMappingValue
  | flowSequenceFirst
  | flowSequence
  | flowPairKey
  | flowPairValue
  | flowPairEnd
  | flowMappingFirst
  | flowMappingKey
  | flowMappingValue
  | flowMappingEmptyValue
  | nothing
  deriving DecidableEq, Repr

structure Parser where
  items : List TokenItem
  fault : Option Fault
  /-- Whether the comments of the first item have been taken. -/
  reached : Bool := false
  /-- The comments that no event has taken. -/
  remarks : Remarks := {}
  /-- The comment above the dash of an entry that is a block collection. -/
  stem : Text := []
  expect : Expect := .streamStart
  /-- What the grammar goes on with when a node is complete. -/
  stack : List Expect := []
  /-- Where the open collections started. -/
  marks : List Mark := []
  /-- The handles of tags and what they stand for. -/
  handles : List (Text × Text) := []

namespace Parser

abbrev Parse := StateT Parser (Except Fault)

/-- The next token. Reaching it for the first time makes its comments known. -/
def peek : Parse Token := do
  let p ← get
  match p.items with
  | [] => throw (p.fault.getD .corrupted)
  | item :: _ =>
    if !p.reached then
      set { p with reached := true, remarks := item.comments.foldl Remarks.add p.remarks }
    return item.token

/-- Step over the next token. -/
def skip : Parse PUnit := modify fun p => { p with items := p.items.tail, reached := false }

/-- Step over the next token and look at the one after it. -/
def advance : Parse Token := do
  skip
  peek

def goTo (e : Expect) : Parse PUnit := modify fun p => { p with expect := e }

/-- Go on with what waits on the stack. -/
def pop : Parse PUnit :=
  modify fun p => { p with expect := p.stack.headD .nothing, stack := p.stack.tail }

def pushReturn (e : Expect) : Parse PUnit := modify fun p => { p with stack := e :: p.stack }

def openMark (m : Mark) : Parse PUnit := modify fun p => { p with marks := m :: p.marks }

def closeMark : Parse PUnit := modify fun p => { p with marks := p.marks.tail }

/-- All comments that wait, which are gone afterwards. -/
def takeRemarks : Parse Remarks := do
  let p ← get
  set { p with remarks := {}, stem := [] }
  return p.remarks

/-- The comment above the dash, which is gone afterwards. -/
def takeStem : Parse Remarks := do
  let p ← get
  set { p with stem := [] }
  return { head := p.stem }

def fail {α : Type} (context position : Mark) (p : Problem) : Parse α :=
  throw (.ofStructure context position p)

/-- A fault in the innermost open collection. -/
def failOpen {α : Type} (position : Mark) (p : Problem) : Parse α := do
  fail ((← get).marks.headD {}) position p

/-- A scalar that is not there. -/
def emptyScalar (mark : Mark) : Event := ⟨.scalar [] [] [] .plain, mark, {}⟩

/-- Add a tag handle. The handles that every document has give way to its own. -/
def addHandle (handle start : Text) (mark : Mark) (builtin : Bool) : Parse PUnit := do
  let p ← get
  if p.handles.any (·.1 == handle) then
    if !builtin then fail {} mark .duplicateTagHandle
  else
    set { p with handles := p.handles ++ [(handle, start)] }

/-- Read the directives before a document. -/
def directives : Nat → Bool → Parse PUnit
  | 0, _ => return
  | fuel + 1, versionSeen => do
    let t ← peek
    match t.kind with
    | .versionDirective major minor =>
      if versionSeen then fail {} t.first .duplicateVersion
      if major != 1 || minor != 1 then fail {} t.first .incompatibleVersion
      skip
      directives fuel true
    | .tagDirective handle start =>
      addHandle handle start t.first false
      skip
      directives fuel versionSeen
    | _ =>
      addHandle [33] [33] t.first true
      addHandle [33, 33] "tag:yaml.org,2002:" t.first true

/--
A head comment at the start of a document cut at its last empty line: the part above is about the
document, the part below about its first node.
-/
def splitHead (head : Text) : Text × Text :=
  if head.getLast? == some Text.newline && 1 < head.length then (head.dropLast, [])
  else
    match Text.findLast? [Text.newline, Text.newline] head with
    | some i => (head.take i, head.drop (i + 2))
    | none => ([], head)

def streamStart : Parse Event := do
  let t ← peek
  if t.kind != .streamStart then fail {} t.first .noStreamStart
  goTo .implicitDocument
  skip
  return ⟨.streamStart, t.first, {}⟩

/-- Step over the ends of documents. -/
def skipDocumentEnds : Nat → Parse PUnit
  | 0 => return
  | fuel + 1 => do
    if (← peek).kind == .documentEnd then
      skip
      skipDocumentEnds fuel

def isDirective : TokenKind → Bool
  | .versionDirective .. => true
  | .tagDirective .. => true
  | _ => false

def documentStart (implicit : Bool) : Parse Event := do
  let fuel := (← get).items.length + 1
  if !implicit then skipDocumentEnds fuel
  let t ← peek
  if t.kind == .streamEnd then
    goTo .nothing
    skip
    return ⟨.streamEnd, t.first, {}⟩
  else if implicit && !isDirective t.kind && t.kind != .documentStart then
    directives fuel false
    pushReturn .documentEnd
    goTo .blockNode
    let p ← get
    let (above, below) := splitHead p.remarks.head
    set { p with remarks := { p.remarks with head := below } }
    return ⟨.documentStart, t.first, { head := above }⟩
  else
    directives fuel false
    let u ← peek
    if u.kind != .documentStart then fail {} u.first .noDocumentStart
    pushReturn .documentEnd
    goTo .documentContent
    skip
    return ⟨.documentStart, t.first, {}⟩

def documentEnd : Parse Event := do
  let t ← peek
  if t.kind == .documentEnd then skip
  modify fun p => { p with handles := [] }
  goTo .document
  let r ← takeRemarks
  let r := if r.foot.isEmpty then { r with head := [], foot := r.head } else r
  return ⟨.documentEnd, t.first, r⟩

/-- The anchor and the tag before a node, in either order, and where they start. -/
structure Properties where
  anchor : Text := []
  tag : Option (Text × Text × Mark) := none
  first : Mark

def properties : Parse Properties := do
  let t ← peek
  match t.kind with
  | .anchor name =>
    let u ← advance
    match u.kind with
    | .tag handle suffix =>
      skip
      return { anchor := name, tag := some (handle, suffix, u.first), first := t.first }
    | _ => return { anchor := name, first := t.first }
  | .tag handle suffix =>
    let u ← advance
    match u.kind with
    | .anchor name =>
      skip
      return { anchor := name, tag := some (handle, suffix, t.first), first := t.first }
    | _ => return { tag := some (handle, suffix, t.first), first := t.first }
  | _ => return { first := t.first }

/-- The full tag of a handle and a suffix. -/
def resolveTag (props : Properties) : Parse Text := do
  match props.tag with
  | none => return []
  | some (handle, suffix, mark) =>
    if handle.isEmpty then
      return suffix
    else
      match (← get).handles.find? (·.1 == handle) with
      | some (_, start) => return start ++ suffix
      | none => fail props.first mark .undefinedTagHandle

/-- A node. Block collections are only possible in the block context. -/
def node (block indentless : Bool) : Parse Event := do
  let t ← peek
  if let .alias name := t.kind then
    pop
    let r ← takeRemarks
    skip
    return ⟨.alias name, t.first, r⟩
  let props ← properties
  let t ← peek
  let tag ← resolveTag props
  let first := props.first
  let anchor := props.anchor
  match t.kind with
  | .scalar value style =>
    pop
    let r ← takeRemarks
    skip
    return ⟨.scalar anchor tag value style, first, r⟩
  | .flowSequenceStart =>
    goTo .flowSequenceFirst
    return ⟨.sequenceStart anchor tag true, first, ← takeRemarks⟩
  | .flowMappingStart =>
    goTo .flowMappingFirst
    return ⟨.mappingStart anchor tag true, first, ← takeRemarks⟩
  | k =>
    if indentless && k == .blockEntry then
      goTo .indentlessSequence
      return ⟨.sequenceStart anchor tag false, first, {}⟩
    else if block && k == .blockSequenceStart then
      goTo .blockSequenceFirst
      return ⟨.sequenceStart anchor tag false, first, ← takeStem⟩
    else if block && k == .blockMappingStart then
      goTo .blockMappingFirst
      return ⟨.mappingStart anchor tag false, first, ← takeStem⟩
    else if !anchor.isEmpty || !tag.isEmpty then
      pop
      return ⟨.scalar anchor tag [] .plain, first, {}⟩
    else
      fail first t.first .noNodeContent

/-- The content of a document, which may be missing. -/
def documentContent : Parse Event := do
  let t ← peek
  match t.kind with
  | .versionDirective .. | .tagDirective .. | .documentStart | .documentEnd | .streamEnd =>
    pop
    return emptyScalar t.first
  | _ => node true false

/-- Step over a bracket that opens a collection. -/
def openCollection : Parse PUnit := do
  let t ← peek
  openMark t.first
  skip

/-- Keep the comment above a dash apart if a block collection follows on its line. -/
def splitStem (stem : Nat) : Parse PUnit := do
  if stem != 0 then
    let t ← peek
    if t.kind == .blockSequenceStart || t.kind == .blockMappingStart then
      modify fun p =>
        { p with
          stem := p.remarks.head.take stem
          remarks := { p.remarks with head := p.remarks.head.drop (stem + 1) } }

/-- The entry after a dash, or an empty one before a token that `ends` it. -/
def entry (ends : TokenKind → Bool) (back : Expect) : Parse Event := do
  let t ← peek
  let stem := (← get).remarks.head.length
  skip
  splitStem stem
  let u ← peek
  if ends u.kind then
    goTo back
    return emptyScalar t.last
  else
    pushReturn back
    node true false

def blockSequence (first : Bool) : Parse Event := do
  if first then openCollection
  let t ← peek
  match t.kind with
  | .blockEntry => entry (fun k => k == .blockEntry || k == .blockEnd) .blockSequence
  | .blockEnd =>
    pop
    closeMark
    skip
    return ⟨.sequenceEnd, t.first, {}⟩
  | _ => failOpen t.first .noDash

def indentlessSequence : Parse Event := do
  let t ← peek
  if t.kind == .blockEntry then
    entry (fun k => k == .blockEntry || k == .key || k == .value || k == .blockEnd)
      .indentlessSequence
  else
    pop
    return ⟨.sequenceEnd, t.first, {}⟩

/-- Whether a token ends a key or a value of a block mapping. -/
def endsBlockPart (k : TokenKind) : Bool := k == .key || k == .value || k == .blockEnd

def blockMappingKey (first : Bool) : Parse Event := do
  if first then openCollection
  let t ← peek
  match t.kind with
  | .key =>
    let u ← advance
    if endsBlockPart u.kind then
      goTo .blockMappingValue
      return emptyScalar t.last
    else
      pushReturn .blockMappingValue
      node true true
  | .blockEnd =>
    pop
    closeMark
    let r ← takeRemarks
    skip
    return ⟨.mappingEnd, t.first, r⟩
  | _ => failOpen t.first .noKey

def blockMappingValue : Parse Event := do
  let t ← peek
  if t.kind == .value then
    let u ← advance
    if endsBlockPart u.kind then
      goTo .blockMappingKey
      return emptyScalar t.last
    else
      pushReturn .blockMappingKey
      node true true
  else
    goTo .blockMappingKey
    return emptyScalar t.first

/-- End a flow collection. -/
def closeFlow (kind : EventKind) (t : Token) : Parse Event := do
  pop
  closeMark
  let r ← takeRemarks
  skip
  return ⟨kind, t.first, r⟩

def flowSequence (first : Bool) : Parse Event := do
  if first then openCollection
  let t ← peek
  if t.kind == .flowSequenceEnd then
    closeFlow .sequenceEnd t
  else
    let t ← (do
      if first then return t
      else if t.kind == .flowEntry then advance
      else failOpen t.first .noFlowSequenceEnd)
    if t.kind == .key then
      goTo .flowPairKey
      skip
      return ⟨.mappingStart [] [] true, t.first, {}⟩
    else if t.kind == .flowSequenceEnd then
      closeFlow .sequenceEnd t
    else
      pushReturn .flowSequence
      node false false

/-- The key of a single pair in a flow sequence. -/
def flowPairKey : Parse Event := do
  let t ← peek
  if t.kind == .value || t.kind == .flowEntry || t.kind == .flowSequenceEnd then
    skip
    goTo .flowPairValue
    return emptyScalar t.last
  else
    pushReturn .flowPairValue
    node false false

def flowPairValue : Parse Event := do
  let t ← peek
  if t.kind == .value then
    let u ← advance
    if u.kind == .flowEntry || u.kind == .flowSequenceEnd then
      goTo .flowPairEnd
      return emptyScalar t.first
    else
      pushReturn .flowPairEnd
      node false false
  else
    goTo .flowPairEnd
    return emptyScalar t.first

def flowPairEnd : Parse Event := do
  let t ← peek
  goTo .flowSequence
  return ⟨.mappingEnd, t.first, {}⟩

def flowMappingKey (first : Bool) : Parse Event := do
  if first then openCollection
  let t ← peek
  if t.kind == .flowMappingEnd then
    closeFlow .mappingEnd t
  else
    let t ← (do
      if first then return t
      else if t.kind == .flowEntry then advance
      else failOpen t.first .noFlowMappingEnd)
    if t.kind == .key then
      let u ← advance
      if u.kind == .value || u.kind == .flowEntry || u.kind == .flowMappingEnd then
        goTo .flowMappingValue
        return emptyScalar u.first
      else
        pushReturn .flowMappingValue
        node false false
    else if t.kind == .flowMappingEnd then
      closeFlow .mappingEnd t
    else
      pushReturn .flowMappingEmptyValue
      node false false

def flowMappingValue (isEmpty : Bool) : Parse Event := do
  let t ← peek
  if !isEmpty && t.kind == .value then
    let u ← advance
    if u.kind == .flowEntry || u.kind == .flowMappingEnd then
      goTo .flowMappingKey
      return emptyScalar u.first
    else
      pushReturn .flowMappingKey
      node false false
  else
    goTo .flowMappingKey
    return emptyScalar t.first

/-- The next event. -/
def step : Parse Event := do
  match (← get).expect with
  | .streamStart => streamStart
  | .implicitDocument => documentStart true
  | .document => documentStart false
  | .documentContent => documentContent
  | .documentEnd => documentEnd
  | .blockNode => node true false
  | .blockSequenceFirst => blockSequence true
  | .blockSequence => blockSequence false
  | .indentlessSequence => indentlessSequence
  | .blockMappingFirst => blockMappingKey true
  | .blockMappingKey => blockMappingKey false
  | .blockMappingValue => blockMappingValue
  | .flowSequenceFirst => flowSequence true
  | .flowSequence => flowSequence false
  | .flowPairKey => flowPairKey
  | .flowPairValue => flowPairValue
  | .flowPairEnd => flowPairEnd
  | .flowMappingFirst => flowMappingKey true
  | .flowMappingKey => flowMappingKey false
  | .flowMappingValue => flowMappingValue false
  | .flowMappingEmptyValue => flowMappingValue true
  | .nothing => throw .corrupted

/-- The events up to the end of the first document. -/
def run : Nat → Parser → List Event → EventStream
  | 0, _, events => ⟨events.reverse, some .corrupted⟩
  | fuel + 1, p, events =>
    match step.run p with
    | .error e => ⟨events.reverse, some e⟩
    | .ok (event, p) =>
      if event.kind == .documentEnd || event.kind == .streamEnd then
        ⟨(event :: events).reverse, none⟩
      else
        run fuel p (event :: events)

end Parser

/-- The events of the first document of a stream. -/
def EventStream.ofTokens (ts : TokenStream) : EventStream :=
  Parser.run (8 * ts.items.length + 64) { items := ts.items, fault := ts.fault } []

end Yaml
end YamlOrder
