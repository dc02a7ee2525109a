import YamlOrder.Text.Utf8
import YamlOrder.Yaml.Strict.Cluster
import YamlOrder.Yaml.Strict.Indicator

/-!
This module contains the strict reader. It is a second opinion on a text: it knows the block
structure of documents by the columns of their keys and entries, and it refuses some texts that
`Tree.parse` reads. Its grammar tells whether clusters form a document; what the document says is
not its concern. Each function takes clusters from the front and returns those that are left.
-/

namespace YamlOrder
namespace Yaml
namespace Strict

/-- What a node is, as far as the grammar asks later. -/
inductive Shape where
  | scalar
  | collection
  /-- A node with a tag, and where the tag stands. -/
  | tagged (tag : Place)
  /-- A node with an anchor, where the anchor stands, and its tag. -/
  | anchored (anchor : Place) (tag? : Option Place)
  deriving DecidableEq, Repr, Inhabited

namespace Shape

def isAnchored : Shape → Bool
  | anchored _ _ => true
  | _ => false

/-- The shape with an anchor before it. -/
def withAnchor (s : Shape) (anchor : Place) : Shape :=
  match s with
  | tagged tag => anchored anchor (some tag)
  | _ => anchored anchor none

/--
A tag after an anchor is on the same line or deeper than the key or the entry that it belongs to.
-/
def fits (s : Shape) (column : Nat) : Bool :=
  match s with
  | anchored anchor (some tag) => anchor.line == tag.line || column < tag.column
  | _ => true

end Shape

/-- What a node depends on besides its clusters. -/
structure Setting where
  /-- It is inside a flow collection. -/
  flow : Bool := false
  /-- A directive has given the standard tags a meaning of their own. -/
  retagged : Bool := false
  deriving Repr, Inhabited

/-- The kinds of nodes that tags ask for. -/
inductive TagKind where
  | scalar
  | sequence
  | mapping
  | any
  deriving DecidableEq, Repr, Inhabited

def TagKind.ofWord (word : String) : TagKind :=
  if Cluster.scalarTags.contains word then .scalar
  else if ["!!seq", "!!omap"].contains word then .sequence
  else if ["!!map", "!!set"].contains word then .mapping
  else .any

namespace Cluster

/-- The clusters from here on may belong to a mapping. -/
def startsMapping : Cluster → Bool
  | word l => l.sign == .mappingStart || l.sign == .mappingEnd
  | c => c.isKey

/-- The end of an entry of a flow mapping. -/
def endsFlowEntry (c? : Option Cluster) : Bool :=
  c?.any fun c => c.sign == .mappingEnd || c.sign == .comma

/-- The header of a block text and nothing but the text. -/
def isBlockText : List Cluster → Bool
  | [] => true
  | [t] => t.sign == .text
  | _ => false

/-- A lexeme that is a scalar by itself. -/
def isWord (c : Cluster) : Bool :=
  c.bond?.isNone && [Sign.plain, .quoted, .text, .mergeKey].contains c.sign

/-- The clusters from the next entry of a flow collection on, after the comma before it. -/
def nextEntry? (first : Bool) : List Cluster → Option (List Cluster)
  | c :: rest =>
    if c.sign == .comma then if first then none else some rest
    else if first then some (c :: rest)
    else none
  | [] => none

end Cluster

open Cluster

mutual

/-- A node. -/
def node? : Nat → Setting → List Cluster → Option (Shape × List Cluster)
  | 0, _, _ => none
  | _, _, [] => none
  | fuel + 1, s, c :: rest =>
    match c with
    | group .key _ _ | group .pair _ _ => mapping? fuel s (c :: rest)
    | group .anchorName _ _ => anchored? fuel s (c :: rest)
    | group _ _ _ => (scalar? fuel s (c :: rest)).map fun (shape, _) => (shape, rest)
    | word l =>
      match l.sign with
      | .tag => (tagged? fuel s (c :: rest)).map fun (_, rest) => (.tagged l.place, rest)
      | .mappingStart => (flowMapping? fuel { s with flow := true } true rest).map (.collection, ·)
      | .sequenceStart => (flowSequence? fuel { s with flow := true } true rest).map
          (.collection, ·)
      | .entry => (sequence? fuel s l.place (c :: rest)).map (.collection, ·)
      | _ => if c.isWord then some (.scalar, rest) else none

/-- A scalar. Only one whose parts are separate clusters leaves its first cluster behind. -/
def scalar? : Nat → Setting → List Cluster → Option (Shape × List Cluster)
  | 0, _, _ => none
  | _, _, [] => none
  | fuel + 1, s, c :: rest =>
    match c with
    | group .anchor name others => (anchored? fuel s (name :: others)).map fun (shape, _) =>
      (shape, c :: rest)
    | group .anchorName _ _ => anchored? fuel s (c :: rest)
    | group .alias _ others => (scalar? fuel s others).map fun _ => (.scalar, c :: rest)
    | group .block _ others => if isBlockText others then some (.scalar, c :: rest) else none
    | group .tagged tag others =>
      (tagged? fuel s (tag :: others)).map fun _ => (.tagged c.place, c :: rest)
    | group _ _ _ => none
    | word l =>
      if c.isWord then some (.scalar, c :: rest)
      else if l.sign == .tag then do
        let (shape, rest) ← tagged? fuel s (c :: rest)
        guard (shape != .collection)
        return (.tagged l.place, rest)
      else none

/-- A node with an anchor, whose name comes first. A second anchor must not follow. -/
def anchored? : Nat → Setting → List Cluster → Option (Shape × List Cluster)
  | fuel + 1, s, group .anchorName sign name :: rest => do
    let _ ← scalar? fuel s name
    let (shape, rest) ← node? fuel s rest
    guard !shape.isAnchored
    return (shape.withAnchor sign.place, rest)
  | _, _, _ => none

/-- What follows a tag, which comes first. The shape is the one without the tag. -/
def tagged? : Nat → Setting → List Cluster → Option (Shape × List Cluster)
  | 0, _, _ => none
  | _, _, [] => none
  | _, _, [_] => some (.scalar, [])
  | fuel + 1, s, tag :: c :: rest =>
    if s.retagged then some (.scalar, c :: rest)
    else
      match TagKind.ofWord tag.spelling with
      | .mapping => if c.startsMapping then node? fuel s (c :: rest) else none
      | .scalar =>
        if c.bond? == some .block then scalar? fuel s (c :: rest)
        else if c.sign == .comma || c.sign == .value then some (.scalar, c :: rest)
        else (scalar? fuel s (c :: rest)).map fun (shape, rest) => (shape, rest.tail)
      | .sequence =>
        if c.sign == .sequenceStart then node? fuel s (c :: rest)
        else (sequence? fuel s c.place (c :: rest)).map (.collection, ·)
      | .any => node? fuel s (c :: rest)

/-- The key of a cluster. -/
def key? : Nat → Setting → Cluster → Option Shape
  | fuel + 1, s, group .key first others =>
    let parts :=
      match first with
      | group .key _ key => key
      | _ => if first.sign == .key then others else first :: others
    (scalar? fuel s parts).map (·.1)
  | _, _, _ => none

/-- A block mapping. Its keys stand in one column. -/
def mapping? : Nat → Setting → List Cluster → Option (Shape × List Cluster)
  | 0, _, _ => none
  | _, _, [] => none
  | fuel + 1, s, c :: rest => do
    let rest ←
      match c with
      | group .pair key others => do
        let _ ← key? fuel s key
        let _ ← node? fuel s others
        guard (rest.head?.all fun n =>
          n.column ≤ c.column || (s.flow && (n.sign == .comma || n.sign == .sequenceEnd)))
        pure rest
      | _ => do
        let _ ← key? fuel s c
        guard (rest.head?.all fun n => n.line != c.line || n.sign != .entry)
        mappingValue? fuel s c.place rest
    let rest ← mappingRest? fuel s c.column rest
    return (.collection, rest)

/-- The further entries of a block mapping whose keys stand in a column. -/
def mappingRest? : Nat → Setting → Nat → List Cluster → Option (List Cluster)
  | 0, _, _, _ => none
  | _, _, _, [] => some []
  | fuel + 1, s, column, c :: rest =>
    if c.column != column || (s.flow && c.sign == .sequenceEnd) then some (c :: rest)
    else if !c.startsMapping then none
    else if c.sign == .mappingEnd then some rest
    else do
      let (_, rest) ← mapping? fuel s (c :: rest)
      mappingRest? fuel s column rest

/--
The value of a key at a place. It may be absent before the next key or at the end of the mapping.
-/
def mappingValue? : Nat → Setting → Place → List Cluster → Option (List Cluster)
  | 0, _, _, _ => none
  | _, _, _, [] => some []
  | fuel + 1, s, key, c :: rest =>
    let isNext (n : Cluster) : Bool := n.column == key.column && n.startsMapping
    if c.column != key.column && c.line == key.line && c.isKey then none
    else if isNext c then some (c :: rest)
    else innerValue? fuel s key isNext (c :: rest)

/-- The value of a key or an entry at a place, where `isNext` tells the next key or entry. -/
def innerValue? : Nat → Setting → Place → (Cluster → Bool) → List Cluster → Option (List Cluster)
  | 0, _, _, _, _ => none
  | _, _, _, _, [] => some []
  | fuel + 1, s, outer, isNext, c :: rest =>
    if c.line == outer.line && c.isAnchorName && rest.head?.any isNext then some rest
    else if c.column ≤ outer.column && (c.isAnchorName || c.sign == .tag) then none
    else if c.column < outer.column then some (c :: rest)
    else do
      let (shape, rest) ← node? fuel s (c :: rest)
      guard (shape.fits outer.column)
      return rest

/-- A block sequence. Its entries stand in the column of the first one. -/
def sequence? : Nat → Setting → Place → List Cluster → Option (List Cluster)
  | 0, _, _, _ => none
  | _, _, _, [] => some []
  | fuel + 1, s, first, c :: rest =>
    let isNext (n : Cluster) : Bool := n.column == first.column && n.sign == .entry
    if !isNext c then some (c :: rest)
    else if rest.head?.any isNext then sequence? fuel s first rest
    else do
      let rest ← innerValue? fuel s first isNext rest
      sequence? fuel s first rest

/-- The entries of a flow mapping and its end. -/
def flowMapping? : Nat → Setting → Bool → List Cluster → Option (List Cluster)
  | 0, _, _, _ => none
  | fuel + 1, s, first, cs =>
    if cs.head?.any (·.sign == .mappingEnd) then some cs.tail
    else
      match nextEntry? first cs with
      | none | some [] => none
      | some (c :: rest) =>
        if c.sign == .mappingEnd then some rest
        else
          match c with
          | group .pair key others => do
            let _ ← key? fuel s key
            let _ ← node? fuel s others
            flowMapping? fuel s false rest
          | group .key _ _ => do
            let _ ← key? fuel s c
            if endsFlowEntry rest.head? then flowMapping? fuel s false rest
            else
              let (_, rest) ← node? fuel s rest
              flowMapping? fuel s false rest
          | _ => do
            guard (endsFlowEntry rest.head?)
            let (_, rest) ← scalar? fuel s (c :: rest)
            flowMapping? fuel s false rest.tail

/-- The items of a flow sequence and its end. -/
def flowSequence? : Nat → Setting → Bool → List Cluster → Option (List Cluster)
  | 0, _, _, _ => none
  | fuel + 1, s, first, cs =>
    if cs.head?.any (·.sign == .sequenceEnd) then some cs.tail
    else
      match nextEntry? first cs with
      | none | some [] => none
      | some (c :: rest) =>
        if c.sign == .sequenceEnd then some rest
        else do
          let (_, rest) ← node? fuel s (c :: rest)
          flowSequence? fuel s false rest

end

/-- What the directives of the documents so far have said. -/
structure Directives where
  /-- The version of the language is given. -/
  version : Bool := false
  /-- The standard tags have a meaning of their own. -/
  retagged : Bool := false
  deriving Repr, Inhabited

def versions : List String := ["1.0", "1.1", "1.2", "1.3"]

namespace Directives

/-- Take in a directive: its name and its words. Names that are not known mean nothing. -/
def add? (d : Directives) (name : Cluster) (words : List Cluster) : Option Directives :=
  match name.spelling, words.map spelling with
  | "YAML", [version] =>
    if versions.contains version && !d.version then some { d with version := true } else none
  | "YAML", [] => some d
  | "YAML", _ => none
  | "TAG", [handle, _] => some { d with retagged := d.retagged || handle == "!!" }
  | "TAG", [] => some d
  | "TAG", _ => none
  | _, _ => some d

end Directives

/-- Check the content of a document. Nothing may be left of it. -/
def document? (fuel : Nat) (d : Directives) : List Cluster → Option Directives
  | [] => some d
  | [group .directive _ (name :: words)] => if name.isWord then d.add? name words else none
  | cs => do
    let (_, rest) ← node? fuel { retagged := d.retagged } cs
    guard rest.isEmpty
    return d

/-- Whether lexemes form documents. Each lexeme is met by a few functions at most. -/
def areDocuments (ls : List Lexeme) : Bool :=
  ((ofLexemes? ls).bind documents?).any fun ds =>
  (ds.foldlM (document? (8 * ls.length + 8)) {}).isSome

end Strict

/-- Whether the strict reader accepts a text without tabs. -/
def accepts (text : Text) : Bool := (Strict.lexemes? (Text.toChars text)).any Strict.areDocuments

end Yaml
end YamlOrder
