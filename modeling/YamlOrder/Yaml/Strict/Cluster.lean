import YamlOrder.Yaml.Strict.Lexer

/-!
This module contains how lexemes form clusters: an anchor with its name, a tag with its scalar, a
key with its colon, and so on. Each kind of cluster is formed in a pass of its own, and later passes
see the clusters of the earlier ones.
-/

namespace YamlOrder
namespace Yaml
namespace Strict

/-- What holds the lexemes of a cluster together. -/
inductive Bond where
  /-- A header and its block text. -/
  | block
  /-- The sign of an anchor and its name. -/
  | anchorName
  /-- An anchor, its name and its scalar. -/
  | anchor
  | alias
  /-- A tag and its scalar. -/
  | tagged
  /-- A key and its sign. -/
  | key
  /-- A key and its scalar. -/
  | pair
  | directive
  deriving DecidableEq, Repr, Inhabited

inductive Cluster where
  | word (l : Lexeme)
  | group (bond : Bond) (first : Cluster) (others : List Cluster)
  deriving Repr, Inhabited

namespace Cluster

/-- The lexeme that a cluster starts with. -/
def head : Cluster → Lexeme
  | word l => l
  | group _ first _ => first.head

def sign (c : Cluster) : Sign := c.head.sign

def place (c : Cluster) : Place := c.head.place

def line (c : Cluster) : Nat := c.place.line

def column (c : Cluster) : Nat := c.place.column

def bond? : Cluster → Option Bond
  | word _ => none
  | group b _ _ => some b

/-- A key, with or without its value. -/
def isKey (c : Cluster) : Bool := c.bond? == some .key || c.bond? == some .pair

def isAnchorName (c : Cluster) : Bool := c.bond? == some .anchorName

/-- Something that starts like a scalar. -/
def isScalar (c : Cluster) : Bool :=
  !c.isKey && [Sign.anchor, .alias, .header, .plain, .text, .quoted].contains c.sign

/-- The signs that no key starts with. -/
def keylessSigns : List Sign :=
  [.directive, .documentStart, .documentEnd, .comma, .mappingStart, .mappingEnd, .sequenceStart,
    .sequenceEnd, .entry, .value]

/-- The tags of the standard that stand for scalars. -/
def scalarTags : List String :=
  ["!!int", "!!float", "!!str", "!!binary", "!!timestamp", "!!bool", "!!null"]

/-- How the lexeme that a cluster starts with is written. -/
def spelling (c : Cluster) : String := String.ofList c.head.word

/-- A header takes the text after it. -/
def joinBlocks : List Cluster → List Cluster
  | [] => []
  | [c] => if c.sign == .header then [group .block c []] else [c]
  | c :: t :: rest =>
    if c.sign == .header then group .block c [t] :: joinBlocks rest else c :: joinBlocks (t :: rest)

/--
The sign of an anchor or an alias takes its name. An anchor takes a scalar on its line too;
something has to follow it, and no entry of a sequence on its line.
-/
def joinNames : List Cluster → Option (List Cluster)
  | [] => some []
  | [c] => if c.sign == .anchor || c.sign == .alias then none else some [c]
  | c :: n :: rest =>
    if c.sign == .anchor then
      match rest with
      | [] => none
      | v :: rest =>
        let name := group .anchorName c [n]
        if c.line != v.line then (joinNames (v :: rest)).map (name :: ·)
        else if v.sign == .entry then none
        else if v.isScalar then (joinNames rest).map (group .anchor name [v] :: ·)
        else (joinNames (v :: rest)).map (name :: ·)
    else if c.sign == .alias then (joinNames rest).map (group .alias c [n] :: ·)
    else (joinNames (n :: rest)).map (c :: ·)

/-- How a tag goes with what follows it on its line: whether it takes it, unless that is a fault. -/
def takes? (tag next : Cluster) : Option Bool :=
  if tag.sign != .tag || tag.line != next.line || next.isAnchorName then some false
  else if scalarTags.contains tag.spelling then some next.isScalar
  else if tag.spelling == "!!merge" then if next.sign == .mergeKey then some true else none
  else if tag.spelling.startsWith "!!" then some false
  else some (!([Sign.mappingStart, .mappingEnd, .sequenceStart, .entry].contains next.sign))

/-- A tag takes its scalar. -/
def joinTags : List Cluster → Option (List Cluster)
  | [] => some []
  | [c] => some [c]
  | c :: v :: rest =>
    match takes? c v with
    | none => none
    | some true => (joinTags rest).map (group .tagged c [v] :: ·)
    | some false => (joinTags (v :: rest)).map (c :: ·)

/-- An anchor takes a tagged scalar on its line. -/
def joinAnchors : List Cluster → Option (List Cluster)
  | [] => some []
  | [c] => if c.isAnchorName then none else some [c]
  | c :: v :: rest =>
    if c.isAnchorName && c.line == v.line && v.bond? == some .tagged then
      (joinAnchors rest).map (group .anchor c [v] :: ·)
    else
      (joinAnchors (v :: rest)).map (c :: ·)

/-- The sign of a key takes what follows it. -/
def joinKeys : List Cluster → Option (List Cluster)
  | [] => some []
  | [c] => if c.sign == .key then none else some [c]
  | c :: k :: rest =>
    if c.sign == .key then (joinKeys rest).map (group .key c [k] :: ·)
    else (joinKeys (k :: rest)).map (c :: ·)

/-- A colon makes what comes before it a key. -/
def joinValues : List Cluster → Option (List Cluster)
  | [] => some []
  | [c] => if c.sign == .value then none else some [c]
  | c :: v :: rest =>
    if c.sign == .value then none
    else if v.sign != .value then (joinValues (v :: rest)).map (c :: ·)
    else if keylessSigns.contains c.sign then none
    else (joinValues rest).map (group .key c [v] :: ·)

/-- A key takes a scalar on its line. -/
def joinPairs : List Cluster → List Cluster
  | [] => []
  | [c] => [c]
  | c :: v :: rest =>
    if c.bond? == some .key && c.line == v.line && !v.isAnchorName &&
        (v.isScalar || v.bond? == some .tagged) then
      group .pair c [v] :: joinPairs rest
    else
      c :: joinPairs (v :: rest)

def isOnLine (line : Nat) (c : Cluster) : Bool := c.line == line

/-- A directive takes the words on its line. The start of a document has to follow. -/
def joinDirectives : List Cluster → Option (List Cluster)
  | [] => some []
  | c :: rest =>
    if c.sign != .directive then (joinDirectives rest).map (c :: ·)
    else
      match rest with
      | [] => none
      | name :: rest =>
        let directive := group .directive c (name :: rest.takeWhile (isOnLine c.line))
        if ((rest.dropWhile (isOnLine c.line)).head?.map sign) == some .documentStart then
          (joinDirectives (rest.dropWhile (isOnLine c.line))).map (directive :: ·)
        else
          none
termination_by cs => cs.length
decreasing_by
  . simp
  . have := (List.dropWhile_sublist (isOnLine c.line) (l := rest)).length_le
    simp
    omega

/-- The clusters of a document. -/
def ofLexemes? (ls : List Lexeme) : Option (List Cluster) := do
  let cs ← joinNames (joinBlocks (ls.map word))
  let cs ← joinTags cs
  let cs ← joinAnchors cs
  let cs ← joinKeys cs
  let cs ← joinValues cs
  joinDirectives (joinPairs cs)

/--
The contents of the documents. No key and no entry stands on the line on which a document starts,
and no scalar follows the end of one. A start right after another one ends the reading.
-/
def documents? : List Cluster → Option (List (List Cluster))
  | [] => some [[]]
  | c :: rest =>
    match c.sign, rest.head? with
    | .documentStart, none => some [[]]
    | .documentStart, some n =>
      if n.sign == .documentStart then some [[]]
      else if n.line == c.line && (n.isKey || n.sign == .entry) then none
      else (documents? rest).map ([] :: ·)
    | .documentEnd, some n => if n.isScalar then none else (documents? rest).map ([] :: ·)
    | .documentEnd, none => some [[]]
    | _, _ =>
      (documents? rest).map fun
        | d :: ds => (c :: d) :: ds
        | [] => [[c]]

end Cluster
end Strict
end Yaml
end YamlOrder
