import YamlOrder.Yaml.Printer

/-!
This module contains the writing of document trees.
-/

namespace YamlOrder
namespace Yaml

namespace Node

/--
The tag that has to be written, empty for none: one that was written before, or is not the default.
-/
def writtenTag : Node → Text
  | .scalar i value _ =>
    if i.tagged then i.tag
    else if i.tag == Tag.implicit value || i.tag == Tag.str then []
    else i.tag
  | .sequence i _ _ => if i.tagged then i.tag else []
  | .mapping i _ _ => if i.tagged then i.tag else []
  | .alias _ _ _ => []

/-- The handle and the suffix of a tag that has to be written. -/
def tagParts (tag : Text) : Text × Text :=
  let tag := Tag.long tag
  if tag.head? == some 33 then ([33], tag.drop 1)
  else if Tag.longStart.isPrefixOf tag then ([33, 33], tag.drop Tag.longStart.length)
  else ([], tag)

/-- The style that is wanted for a scalar: a plain one with a line break becomes a literal. -/
def wantedStyle (i : NodeInfo) (value : Text) (style : ScalarStyle) : ScalarStyle :=
  if style != .plain then style
  else if value.contains Text.newline then .literal
  else if !i.tagged && i.tag == Tag.str && Tag.implicit value != Tag.str then .doubleQuoted
  else .plain

/-- The length of the anchor and the tag of a node. -/
def propertiesLength (n : Node) : Nat :=
  let (handle, suffix) := if n.writtenTag.isEmpty then ([], []) else tagParts n.writtenTag
  (n.info.anchor.elim 0 (·.name.length)) + handle.length + suffix.length

/-- The longest key that needs no indicator. -/
def maxSimpleKey : Nat := 128

/-- Whether a key can be written without an indicator: it is short and on one line. -/
def isSimpleKey (n : Node) : Bool :=
  match n with
  | .alias _ name _ => name.length ≤ maxSimpleKey
  | .scalar _ value _ =>
    !(Analysis.ofValue (Text.toChars value)).multiline &&
      n.propertiesLength + value.length ≤ maxSimpleKey
  | .sequence _ _ items => items.isEmpty && n.propertiesLength ≤ maxSimpleKey
  | .mapping _ _ pairs => pairs.isEmpty && n.propertiesLength ≤ maxSimpleKey

/-- The comments that are known at the start of a node. -/
def startRemarks : Node → Remarks
  | .scalar i _ _ => i.remarks
  | .alias i _ _ => i.remarks
  | .sequence i _ _ => { head := i.remarks.head }
  | .mapping i _ _ => { head := i.remarks.head }

/-- The comments that wait for the end of a collection. -/
def endRemarks (i : NodeInfo) : Remarks := { i.remarks with head := [] }

/-- Whether a node is a collection in block style. -/
def isBlockCollection : Node → Bool
  | .sequence _ flow _ => !flow
  | .mapping _ flow _ => !flow
  | _ => false

def isScalar : Node → Bool
  | .scalar _ _ _ => true
  | _ => false

end Node

namespace Printer

/-- Write the anchor and the tag of a node. -/
def writeProperties (p : Printer) (n : Node) : Printer :=
  let p := match n.info.anchor with
    | some a =>
      { (p.indicator ['&'] true false false).putAll (Text.toChars a.name) with
        whitespace := false, indention := false }
    | none => p
  if n.writtenTag.isEmpty then p
  else
    match Node.tagParts n.writtenTag with
    | ([], suffix) =>
      let p := (p.indicator ['!', '<'] true false false).putAll (Text.toChars suffix)
      p.indicator ['>'] false false false
    | (handle, suffix) =>
      { p.separate.putAll (Text.toChars (handle ++ suffix)) with
        whitespace := false, indention := false }

/-- Write a scalar. -/
def writeScalar (p : Printer) (n : Node) (value : Text) (style : ScalarStyle)
    (entry simpleKey : Bool) : Printer :=
  let chars := Text.toChars value
  let wanted := Node.wantedStyle n.info value style
  let style := (Analysis.ofValue chars).style wanted chars.isEmpty (p.flowLevel != 0) simpleKey
  let p' := p.writeProperties n
  { writeStyled { p' with indent := p'.deeper true entry } style chars with indent := p.indent }

/-- Let the comments of a key wait; the foot of the key before comes first. -/
def noteKey (p : Printer) (key : Node) (tail : Text) : Printer :=
  let r := { key.startRemarks with foot := [] }
  match key with
  | .scalar _ _ _ => p.note r tail
  | .mapping _ _ _ => p.note r tail
  | _ => p.note r []

/-- A line comment of a key waits for its value, since it can only be written there. -/
def keepKeyLine (p : Printer) : Printer :=
  if p.remarks.line.isEmpty then p
  else { p with keyLine := p.remarks.line, remarks := { p.remarks with line := [] } }

/-- Write the line comment of a key before its value, or leave it to the value. -/
def writeKeyLine (p : Printer) (value : Node) : Printer :=
  if p.keyLine.isEmpty then p
  else if value.isScalar then
    if p.remarks.line.isEmpty then
      { p with keyLine := [], remarks := { p.remarks with line := p.keyLine } }
    else
      p
  else if value.isBlockCollection then
    let p' := writeLine { p with remarks := { p.remarks with line := p.keyLine } }
    { p' with keyLine := [], remarks := { p'.remarks with line := p.remarks.line } }
  else
    p

/-- Write the comma after an entry of a flow collection that has a comment, and the comment. -/
def writeFlowAfter (p : Printer) : Printer :=
  (if p.hasTrail then p.indicator [','] false false false else p).writeAfter

/-- Write what stands before an entry of a flow collection. -/
def beforeFlowEntry (p : Printer) (first trail : Bool) : Printer :=
  let p := (if first || trail then p else p.indicator [','] false false false).writeHead
  if p.column == 0 then p.writeIndent else p

mutual

/--
Write a node. `after` is what stands right after a scalar or an alias, and before the entries of a
collection.
-/
def writeNode (p : Printer) (entry simpleKey : Bool) (after : Printer → Printer) : Node → Printer
  | .alias _ name _ =>
    let p := (p.indicator ['*'] true false false).putAll (Text.toChars name)
    after { p with whitespace := false, indention := false }
  | .scalar i value style =>
    after (p.writeScalar (.scalar i value style) value style entry simpleKey)
  | .sequence i flow items =>
    let p := after (p.writeProperties (.sequence i flow []))
    let indent := p.indent
    if p.flowLevel != 0 || flow || items.isEmpty then
      let p := if items.isEmpty then p.note (Node.endRemarks i) [] else p
      let inner := p.deeper true entry
      let p := p.writeFlowItems (fun p =>
        { p.indicator ['['] true true false with indent := inner, flowLevel := p.flowLevel + 1 })
        true false items
      let p := if items.isEmpty then p else p.note (Node.endRemarks i) []
      let p := { p with indent, flowLevel := p.flowLevel - 1 }
      let p := if p.column == 0 then p.writeIndent else p
      (p.indicator [']'] false false false).writeAfter
    else
      let p := { p with indent := p.deeper false entry }.writeItems items
      { p.note (Node.endRemarks i) [] with indent }
  | .mapping i flow pairs =>
    let p := after (p.writeProperties (.mapping i flow []))
    let indent := p.indent
    if p.flowLevel != 0 || flow || pairs.isEmpty then
      let inner := p.deeper true entry
      let (p, trail, tail) := p.writeFlowPairs (fun p =>
        { p.indicator ['\x7b'] true true false with indent := inner, flowLevel := p.flowLevel + 1 })
        true false [] pairs
      let p := p.note (Node.endRemarks i) tail
      let p :=
        if pairs.isEmpty then
          { p.indicator ['\x7b'] true true false with indent := inner, flowLevel :=
            p.flowLevel + 1 }
        else
          p
      let comma :=
        !(p.remarks.head.isEmpty && p.remarks.foot.isEmpty && p.tail.isEmpty) &&
        !pairs.isEmpty && !trail
      let p := (if comma then p.indicator [','] false false false else p).writeHead
      let p := { p with indent, flowLevel := p.flowLevel - 1 }
      (p.indicator ['\x7d'] false false false).writeAfter
    else
      let inner := p.deeper false entry
      let (p, tail) := { p with indent := inner }.writePairs [] pairs
      { (p.note (Node.endRemarks i) tail).writeHead with indent }

/-- Write the entries of a block sequence. -/
def writeItems (p : Printer) : List Node → Printer
  | [] => p
  | n :: rest =>
    let p := ((p.note n.startRemarks []).writeHead).writeIndent.indicator ['-'] true false true
    (p.writeNode true false writeAfter n).writeItems rest

/-- Write the entries of a flow sequence. `bracket` writes its opening. -/
def writeFlowItems (p : Printer) (bracket : Printer → Printer) (first trail : Bool)
    : List Node → Printer
  | [] => if first then bracket p else p
  | n :: rest =>
    let p := p.note n.startRemarks []
    let p := (if first then bracket p else p).beforeFlowEntry first trail
    let next := p.hasTrail
    (p.writeNode false false writeFlowAfter n).writeFlowItems bracket false next rest

/-- Write the pairs of a block mapping; `tail` is the foot comment of the key before. -/
def writePairs (p : Printer) (tail : Text) : List (Node × Node) → Printer × Text
  | [] => (p, tail)
  | (k, v) :: rest =>
    let p := (p.noteKey k tail).writeHead.writeIndent.keepKeyLine
    let simple := k.isSimpleKey
    let p := if simple then p else p.indicator ['?'] true false true
    let p := p.writeNode false simple id k
    let p := p.note v.startRemarks []
    let p :=
      if simple then p.indicator [':'] false false false
      else p.writeIndent.indicator [':'] true false true
    let p := (p.writeKeyLine v).writeNode false false writeAfter v
    p.writePairs k.remarks.foot rest

/-- Write the pairs of a flow mapping. The result also says whether the last one ended its line. -/
def writeFlowPairs (p : Printer) (bracket : Printer → Printer) (first trail : Bool) (tail : Text)
    : List (Node × Node) → Printer × Bool × Text
  | [] => (p, trail, tail)
  | (k, v) :: rest =>
    let p := p.noteKey k tail
    let p := (if first then bracket p else p).beforeFlowEntry first trail
    let simple := k.isSimpleKey
    let p := if simple then p else p.indicator ['?'] true false false
    let p := p.writeNode false simple id k
    let p := p.note v.startRemarks []
    let p := p.indicator [':'] (!simple) false false
    let next := p.hasTrail
    let p := p.writeNode false false writeFlowAfter v
    p.writeFlowPairs bracket false next k.remarks.foot rest

end

end Printer

/-- The text of a document with the given indentation. -/
def Tree.render (t : Tree) (width : Nat) : Text :=
  let p : Printer := { width }
  let p :=
    if t.head.isEmpty then p else ((p.note { head := t.head } []).writeHead).putBreak
  let p := (p.note t.root.startRemarks []).writeHead
  let p := p.writeNode false false Printer.writeAfter t.root
  let p := p.note { foot := t.foot } []
  let p := { p with footIndent := 0 }.writeFoot
  let p := { p with footIndent := -1 }.writeIndent
  Text.ofChars p.out.reverse

end Yaml
end YamlOrder
