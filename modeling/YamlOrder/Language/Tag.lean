import YamlOrder.Language.Subtag
import YamlOrder.Text.Quoted
import YamlOrder.Text.Utf8

/-!
This module contains language tags: how they are read, and the form in which they are written.
-/

namespace YamlOrder
namespace Language

/-- Why a text is no language tag. -/
inductive TagFault where
  | malformed
  | unknown (subtag : String)
  | repeatedKey
  deriving DecidableEq, Repr

def TagFault.message : TagFault → Text
  | .malformed => "language: tag is not well-formed"
  | .unknown s =>
    Text.ofString "language: subtag " ++ Text.quote (Text.ofString s) ++
      " is well-formed but unknown"
  | .repeatedKey => "language: different values for same key in -u extension"

/-- An extension: its letter and what belongs to it. -/
structure Extension where
  letter : String
  subtags : List String
  deriving DecidableEq, Repr, Inhabited

structure Tag where
  /-- Empty if no language is given. -/
  language : String := ""
  script : String := ""
  region : String := ""
  variants : List String := []
  extensions : List Extension := []
  /-- Whether the tag is a private one that says nothing else. -/
  isPrivate : Bool := false
  deriving DecidableEq, Repr, Inhabited

namespace Tag

/-- The subtags of a tag in the order in which they are written. -/
def subtags (t : Tag) : List String :=
  let language := if t.language.isEmpty && !t.isPrivate then "und" else t.language
  [language, t.script, t.region].filter (!·.isEmpty) ++ t.variants ++
    t.extensions.flatMap fun e => e.letter :: e.subtags

def toText (t : Tag) : Text := Text.ofString (String.intercalate "-" t.subtags)

/-- Whether all characters are letters. -/
def isAlpha (s : String) : Bool := s.toList.all Char.isAlpha

/-- Whether the first character is a letter. -/
def startsAlpha (s : String) : Bool := s.toList.head?.any Char.isAlpha

/-- The subtags of a text; separators are hyphens and underscores. -/
def split (s : String) : List String :=
  (String.ofList (s.toList.map fun c => if c == '_' then '-' else c)).splitOn "-"

/-- Subtags have one to eight letters or digits. -/
def isSubtag (s : String) : Bool :=
  1 ≤ s.length && s.length ≤ 8 && s.toList.all fun c => c.isAlpha || c.isDigit

/-- The reading of subtags, which goes on after a fault. -/
abbrev Reading := StateM (Option TagFault)

/-- Tell a fault. The first one counts, but that a tag is malformed counts more than all others. -/
def tell (fault : TagFault) : Reading PUnit :=
  modify fun
    | none => some fault
    | some old => some (if fault == .malformed then fault else old)

/-- A result; a fault is told, and the result is empty. -/
def orTell (r : Except TagFault String) : Reading String :=
  match r with
  | .ok s => return s
  | .error fault => do
    tell fault
    return ""

/-- The language of a code. The code for an unknown language counts as none. -/
def languageOf (s : String) : Except TagFault String :=
  let code := s.toLower
  if !isAlpha s then .error .malformed
  else if s.length == 2 then
    if Subtag.has Subtag.twoLetters code then .ok code else .error (.unknown code)
  else if code == "und" then .ok ""
  else
    match Subtag.restOf? Subtag.longCodes code with
    | some short => .ok short
    | none =>
      if Subtag.isLanguage code || ("qaa" ≤ code && code ≤ "qtz") then .ok code
      else .error (.unknown code)

/-- The script of a code. -/
def scriptOf (s : String) : Except TagFault String :=
  let code := s.toLower.capitalize
  if !isAlpha s then .error .malformed
  else if Subtag.has Subtag.scripts code || ("Qaaa" ≤ code && code ≤ "Qabx") then .ok code
  else .error (.unknown code)

/-- The region of a code of two letters, three letters, or three digits. -/
def regionOf (s : String) : Except TagFault String :=
  let code := s.toUpper
  if s.length == 3 && s.toList.all Char.isDigit then
    match Subtag.restOf? Subtag.numericRegions code with
    | some short => .ok short
    | none => if Subtag.has Subtag.areas code then .ok code else .error (.unknown "")
  else if !isAlpha s then .error .malformed
  else if s.length == 3 then
    match Subtag.restOf? Subtag.longRegions code with
    | some short => .ok short
    | none => .error (.unknown code)
  else if Subtag.has Subtag.regions code then .ok code
  else .error (.unknown code)

/--
The languages that further codes of three letters after the first one stand for; the last one
counts.
-/
def extendedLanguage (language : String) : List String → Reading (String × List String)
  | [] => return (language, [])
  | s :: rest =>
    if s.length == 3 && startsAlpha s then do
      let l ← orTell (languageOf s)
      extendedLanguage (if l.isEmpty then language else l) rest
    else
      return (language, s :: rest)

/-- The script, if the next subtag is one. -/
def takeScript : List String → Reading (String × List String)
  | s :: rest =>
    if s.length == 4 && startsAlpha s then return (← orTell (scriptOf s), rest)
      else return ("", s :: rest)
  | [] => return ("", [])

/-- The region, if the next subtag is one. -/
def takeRegion : List String → Reading (String × List String)
  | s :: rest =>
    if s.length == 2 || s.length == 3 then return (← orTell (regionOf s), rest)
      else return ("", s :: rest)
  | [] => return ("", [])

/-- The variants, which have four or more characters, each with its place in their order. -/
def takeVariants : List String → Reading (List (Nat × String) × List String)
  | s :: rest =>
    if s.length ≥ 4 then do
      let (later, rest) ← takeVariants rest
      match Subtag.variantPlace? s.toLower with
      | some place => return ((place, s.toLower) :: later, rest)
      | none => do
        tell (.unknown s.toLower)
        return (later, rest)
    else
      return ([], s :: rest)
  | [] => return ([], [])

/-- Variants in their order, each once. -/
def sortVariants (vs : List (Nat × String)) : List String :=
  ((vs.mergeSort fun a b => a.1 ≤ b.1).map (·.2)).eraseDups

/-- What comes before the extensions of a tag, and the rest. -/
def takeBase (first : String) (rest : List String) : Reading (Tag × List String) := do
  let language ← orTell (languageOf first)
  let (language, rest) ← extendedLanguage language rest
  let (script, rest) ← takeScript rest
  let (region, rest) ← takeRegion rest
  let (variants, rest) ← takeVariants rest
  return ({ language, script, region, variants := sortVariants variants }, rest)

/-- The keys of an extension, each with its types. -/
def keyed (subtags : List String) : List (String × List String) :=
  match go subtags with
  | (_, keys) => keys
where
  /-- The types before the first key, and the keys. -/
  go : List String → List String × List (String × List String)
    | [] => ([], [])
    | s :: rest =>
      let (types, keys) := go rest
      if s.length == 2 then ([], (s, types) :: keys) else (s :: types, keys)

/-- The keys in order, each once. Two types for one key are a fault. -/
def uniqueKeys : List (String × List String) → Except TagFault (List (String × List String))
  | [] => .ok []
  | (k, types) :: rest =>
    match uniqueKeys rest with
    | .error e => .error e
    | .ok ((k', types') :: later) =>
      if k == k' then
        if types == types' then .ok ((k', types') :: later) else .error .repeatedKey
      else .ok ((k, types) :: (k', types') :: later)
    | .ok [] => .ok [(k, types)]

/-- The extension for locale settings: attributes and keys in order, and the rest. -/
def takeLocale (subtags : List String) : Reading (List String × List String) := do
  let mine := subtags.takeWhile (·.length > 1)
  let attributes := mine.takeWhile (·.length > 2)
  let sorted := (keyed (mine.dropWhile (·.length > 2))).mergeSort fun a b => a.1 ≤ b.1
  let keys ← match uniqueKeys sorted with
    | .ok keys => pure keys
    | .error fault => do
      tell fault
      pure []
  return (attributes.mergeSort (· ≤ ·) ++ keys.flatMap (fun (k, types) => k :: types),
    subtags.dropWhile (·.length > 1))

/--
The fields of a transformed text: keys that end with a digit, each with its values, and the rest.
-/
def takeFields : Nat → List String → List String × List String
  | 0, rest => ([], rest)
  | fuel + 1, s :: rest =>
    if s.length == 2 && !isAlpha (String.ofList (s.toList.drop 1)) then
      let values := rest.takeWhile (·.length ≥ 3)
      let (fields, rest) := takeFields fuel (rest.dropWhile (·.length ≥ 3))
      (s :: values ++ fields, rest)
    else
      ([], s :: rest)
  | _, [] => ([], [])

/--
The extension for transformed texts: the tag of the source, the fields, and the rest. Further codes
of the source's language are kept as they are.
-/
def takeTransform (subtags : List String) : Reading (List String × List String) := do
  let (source, rest) ← match subtags with
    | s :: rest =>
      if (s.length == 2 || s.length == 3) && isAlpha
        (String.ofList ((s.toList.drop 1).take 1)) then do
        let isExtended := fun (s : String) => s.length == 3 && startsAlpha s
        let (tag, others) ← takeBase s (rest.dropWhile isExtended)
        let source := tag.subtags.take 1 ++ rest.takeWhile isExtended ++ tag.subtags.drop 1
        pure (source.map String.toLower, others)
      else
        pure ([], s :: rest)
    | [] => pure ([], [])
  let (fields, rest) := takeFields rest.length rest
  return (source ++ fields, rest)

/--
The extensions, up to a subtag that does not belong to any. The letter `x` takes all that follows.
-/
def takeExtensions : Nat → List String → Reading (List Extension)
  | fuel + 1, s :: rest => do
    if s.length != 1 then
      return []
    if s == "x" then
      if rest.isEmpty then
        tell .malformed
      return [⟨s, rest⟩]
    let (mine, rest) ←
      if s == "u" then takeLocale rest
      else if s == "t" then takeTransform rest
      else pure (rest.takeWhile (·.length > 1), rest.dropWhile (·.length > 1))
    if mine.isEmpty then
      tell .malformed
    let later ← takeExtensions fuel rest
    return ⟨s, mine⟩ :: later
  | _, _ => return []

/-- Extensions come in the order of their letters, private ones last. -/
def sortExtensions (es : List Extension) : List Extension :=
  es.mergeSort fun a b => b.letter == "x" || (a.letter != "x" && a.letter ≤ b.letter)

/-- The tag of subtags that follow the rules. -/
def ofSubtags : List String → Reading Tag
  | [] => do
    tell .malformed
    return {}
  | first :: rest => do
    if first.length ≥ 4 then
      tell .malformed
      return {}
    if first.length == 1 then
      if first.toLower != "x" || rest.isEmpty then
        tell .malformed
      return { extensions := [⟨"x", rest.map String.toLower⟩], isPrivate := true }
    let (tag, rest) ← takeBase first rest
    if rest.head?.any (·.length != 1) then
      tell .malformed
    let extensions ← takeExtensions rest.length (rest.map String.toLower)
    return { tag with extensions := sortExtensions extensions }

/-- The language with a code that is still in use. -/
def modernLanguage (t : Tag) : Tag :=
  match Subtag.replaced.find? (·.1 == t.language) with
  | some (_, "ro-MD") => { t with language := "ro", region :=
      if t.region.isEmpty then "MD" else t.region }
  | some (_, "sr-Latn") =>
    { t with language := "sr", script := if t.script.isEmpty then "Latn" else t.script }
  | some (_, language) => { t with language }
  | none => t

/-- The tag with codes that are still in use. -/
def modernize (t : Tag) : Tag :=
  let t := t.modernLanguage
  let region := (Subtag.restOf? Subtag.replacedRegions t.region).getD t.region
  { t with
    script := if t.script == "Qaai" then "Zinh" else t.script
    region := if t.region.isEmpty then "" else region }

/-- The tag of subtags; a malformed one is reported before one that is unknown. -/
def ofList (subtags : List String) : Except TagFault Tag :=
  if subtags.all isSubtag then
    match (ofSubtags subtags).run none with
    | (tag, none) => .ok tag.modernize
    | (_, some fault) => .error fault
  else
    .error .malformed

/-- Read a language tag. -/
def parse (text : Text) : Except TagFault Tag :=
  match Text.toString? text with
  | none => .error .malformed
  | some s =>
    let subtags := split s
    let folded := String.intercalate "-" (subtags.map String.toLower)
    match Subtag.irregular.find? (·.1 == folded) with
    | some (_, regular) => ofList (split regular)
    | none => ofList subtags

/-- The first type of a key of the extension for locale settings. -/
def typeOf? (t : Tag) (key : String) : Option String :=
  match t.extensions.find? (·.letter == "u") with
  | some e => ((keyed e.subtags).find? (·.1 == key)).bind fun (_, types) => types.head?
  | none => none

end Tag
end Language
end YamlOrder
