import YamlOrder.Comment.Basic
import YamlOrder.Document
import YamlOrder.Layout.Basic
import YamlOrder.Order.Keys
import YamlOrder.Settings
import YamlOrder.Shield.Substitution
import YamlOrder.Tree.Arrange
import YamlOrder.Tree.Check
import YamlOrder.Tree.Style
import YamlOrder.Yaml.Node.Render

/-!
This module contains the sorter: what becomes of a document, a buffer of documents, and a range of
lines when it is sorted, formatted or validated.
-/

namespace YamlOrder

open YamlOrder.Tree (Comparator)

/-- Settings that have been checked, and the direction of the order. -/
structure Sorter where
  settings : Settings
  reverse : Bool := false

namespace Sorter

/-- A sorter for settings that can be used. -/
def make (settings : Settings) (reverse : Bool) : Except Error Sorter := do
  let settings := settings.normalize
  settings.validate
  return { settings, reverse }

/--
The text with tabs expanded. Every width from 1 on has an answer, since memory has no end here.
-/
def expandTabs (text : Text) (width : Int) : Except Error Text :=
  if width < 1 then .error (.invalidOption (.tabWidth width))
  else .ok (Layout.expandTabs text width.toNat)

def schema (s : Sorter) : Schema := Schema.ofName s.settings.schema

def shield (s : Sorter) : Shield :=
    Shield.ofFlags s.settings.helm s.settings.arrays s.settings.octal

def quote (s : Sorter) : Tree.Quote :=
  if s.settings.quotingType == Settings.doubleQuote then .double else .single

def styleOptions (s : Sorter) : Tree.StyleOptions :=
  { quote := s.quote, lineWidth := s.settings.lineWidth, force := s.settings.forceQuotes }

/--
The order of the root mapping and that of all other mappings. Keywords apply to the root only,
unless they are recursive.
-/
def comparators (s : Sorter) (slot : Int) : Comparator × Comparator :=
  let keywords := s.settings.keywords slot
  let collator := Collation.Collator.ofLocale s.settings.locale
  let nested := Order.select collator keywords slot s.settings.recursive s.reverse
  if slot == 0 || s.settings.recursive then (nested, nested)
  else (Order.reverseIf s.reverse (Order.byKeywords keywords (Order.byCollator collator)), nested)

/--
What a document is transformed with: the orders of its mappings, or nothing to keep its order.
-/
abbrev Sorting := Option (Comparator × Comparator)

/-- The tree in its new order. -/
def arrange (sorting : Sorting) (t : Yaml.Tree) : Yaml.Tree :=
  match sorting with
  | some (top, nested) => { t with root := Tree.fixAnchors (Tree.sortRoot top nested t.root) }
  | none => t

/-- The text of a tree: styled, written, wrapped, and with blank lines if it was sorted. -/
def layout (s : Sorter) (sorting : Sorting) (t : Yaml.Tree) : Except Error Text :=
  let width := Layout.effectiveIndent s.settings.indent
  let t := Tree.applyStyles s.schema s.styleOptions (arrange sorting t)
  let out := Layout.wrapFolded (t.render width) s.settings.lineWidth
  if sorting.isSome && s.settings.emptyLinesUntilLevel > 0 then
    match Layout.addBlankLines out s.settings.emptyLinesUntilLevel.toNat width with
    | some out => .ok out
    | none => .error .levelTooDeep
  else
    .ok out

/-- The text that ends with one newline, or is empty. -/
def endLine (text : Text) : Text :=
  let text := Text.dropNewlines text
  if text.isEmpty then [] else text ++ [Text.newline]

/-- A document with its delicate parts hidden, and what is read of it. -/
structure Prepared where
  shield : Shield
  lines : List Text
  content : Text

/--
Expand tabs, hide what must stay as it is, and take out comments if they are moved separately.
-/
def prepare (s : Sorter) (text : Text) : Except Error Prepared := do
  let text ← expandTabs text s.settings.indent
  let (shield, text) := s.shield.shield text
  let lines := Comment.linesOf text
  return { shield, lines, content := if s.settings.comments then Comment.strip lines else text }

/-- The new text of a prepared document. One without content keeps its comments as they are. -/
def rebuild (s : Sorter) (sorting : Sorting) (p : Prepared) : Except Error Text := do
  match ← Tree.parse p.content s.schema with
  | some t => s.layout sorting t
  | none => return if s.settings.comments then [] else Text.trim p.content

/-- Put comments back into a new text. -/
def recomment (s : Sorter) (p : Prepared) (out : Text) : Text :=
  if s.settings.comments then Comment.apply (Comment.pairs p.lines) out else out

/-- The new text of a document. One that is blank stays as it is. -/
def transform (s : Sorter) (sorting : Sorting) (text : Text) : Except Error Text := do
  if Text.isBlank text then
    return text
  let p ← s.prepare text
  let out ← s.rebuild sorting p
  return endLine (p.shield.restore (s.recomment p out))

/-- Sort one document. -/
def sortDocument (s : Sorter) (text : Text) (slot : Int) : Except Error Text :=
  if slot < 0 || slot > 3 then .error (.invalidOption (.customSlot slot))
  else s.transform (some (s.comparators slot)) text

/-- Format one document. -/
def formatDocument (s : Sorter) (text : Text) : Except Error Text := s.transform none text

/-- The documents with new texts. A fault names its document if there are several. -/
def mapDocuments (f : Text → Except Error Text) (docs : List Document)
    : Except Error (List Document) :=
  go 1 docs
where
  go (n : Nat) : List Document → Except Error (List Document)
    | [] => .ok []
    | d :: rest =>
      match f d.text with
      | .error e => .error (if docs.length > 1 then .inDocument n e else e)
      | .ok text => do
        let rest ← go (n + 1) rest
        return { d with text } :: rest

/-- The buffer with every document transformed. -/
def eachDocument (buffer : Text) (f : Text → Except Error Text) : Except Error Text := do
  let docs ← mapDocuments f (Document.split buffer)
  return Document.join docs

/-- The buffer with a delimiter line at its start, if wanted. -/
def withLeadingDashes (s : Sorter) (out : Text) : Text :=
  let line := Document.marker ++ [Text.newline]
  if !s.settings.leadingDashes || out.isEmpty || line.isPrefixOf out then out else line ++ out

/-- Sort all documents of a buffer. -/
def sort (s : Sorter) (buffer : Text) (slot : Int) : Except Error Text :=
  ((eachDocument buffer fun d => s.sortDocument d slot).map s.withLeadingDashes).mapError
  (.during .sort)

/-- Format all documents of a buffer. -/
def format (s : Sorter) (buffer : Text) : Except Error Text :=
  ((eachDocument buffer s.formatDocument).map s.withLeadingDashes).mapError (.during .format)

/-- Sort the documents in a range of lines. -/
def sortLines (s : Sorter) (text : Text) (r : LineRange) (slot : Int) : Except Error Text :=
  (r.apply .invalidRange (fun t => eachDocument t fun d => s.sortDocument d slot) text).mapError
    (.during .sort)

/-- Format the documents in a range of lines. -/
def formatLines (s : Sorter) (text : Text) (r : LineRange) : Except Error Text :=
  (r.apply .invalidRange (fun t => eachDocument t s.formatDocument) text).mapError (.during .format)

/-- A document of the strict form that could be sorted. Its comments stay where they are. -/
def validateDocument (s : Sorter) (text : Text) : Except Error PUnit := do
  if Text.isBlank text then
    return
  let text ← expandTabs text s.settings.indent
  let (_, text) := s.shield.shield text
  let _ ← Tree.parseStrict text s.schema

/-- Check all documents of a buffer. -/
def validate (s : Sorter) (buffer : Text) : Except Error PUnit :=
  ((eachDocument buffer fun d => (s.validateDocument d).map fun _ => d).map fun _ => ()).mapError
    (.during .validate)

end Sorter
end YamlOrder
