import YamlOrder.Log.Basic
import YamlOrder.Sorter

/-!
This module contains the records of what happens on the way while documents are sorted, formatted or
validated. They tell of nothing that changes the result.
-/

namespace YamlOrder
namespace Sorter

open Log (Record)

/-- The locale is no language tag, so that the common order is used. -/
def localeRecords (s : Sorter) : List Record :=
  match Language.Tag.parse s.settings.locale with
  | .ok _ => []
  | .error fault =>
    [{ level := .debug
       message := "unknown locale, using root collation"
       attributes := [("locale", .text s.settings.locale), ("error", .text fault.message)] }]

/--
One record for each order that is made: that of the root is another one if keywords apply only
there.
-/
def orderRecords (s : Sorter) (slot : Int) : List Record :=
  if slot == 0 || s.settings.recursive then s.localeRecords else s.localeRecords ++ s.localeRecords

/-- How much each substitution has hidden. -/
def shieldRecords (shield : Shield) : List Record :=
  (shield.substitutions.filter (!·.store.isEmpty)).map fun sub =>
    { level := .debug
      message := "substituted"
      attributes := [("kind", .text sub.kind), ("count", .int sub.store.length)] }

/-- The comments that could not be put back. -/
def commentRecords (s : Sorter) (p : Prepared) (out : Text) : List Record :=
  if s.settings.comments then
    (Comment.lost (Comment.pairs p.lines) out).map fun (comment, anchor) =>
      { level := .debug
        message := "comment anchor not found"
        attributes := [("comment", .text comment), ("anchor", .text anchor)] }
  else
    []

/-- The tokens that could not be found again, for the last substitution first. -/
def tokenRecords : List Substitution → Text → List Record
  | [], _ => []
  | sub :: rest, text =>
    ((sub.lost text).map fun token =>
      { level := .debug
        message := "substitution token not found"
        attributes := [("kind", .text sub.kind), ("token", .text token)] }) ++
      tokenRecords rest (sub.restore text)

/-- What happens while a document is transformed. -/
def transformRecords (s : Sorter) (sorting : Sorting) (text : Text) : List Record :=
  if Text.isBlank text then []
  else
    match s.prepare text with
    | .error _ => []
    | .ok p =>
      shieldRecords p.shield ++
        match s.rebuild sorting p with
        | .error _ => []
        | .ok out =>
          s.commentRecords p out ++ tokenRecords p.shield.substitutions.reverse (s.recomment p out)

def sortDocumentRecords (s : Sorter) (slot : Int) (text : Text) : List Record :=
  if slot < 0 || slot > 3 then []
  else s.orderRecords slot ++ s.transformRecords (some (s.comparators slot)) text

def formatDocumentRecords (s : Sorter) (text : Text) : List Record := s.transformRecords none text

def validateDocumentRecords (s : Sorter) (text : Text) : List Record :=
  if Text.isBlank text then []
  else
    match expandTabs text s.settings.indent with
    | .error _ => []
    | .ok text => shieldRecords (s.shield.shield text).1

/-- The records of documents, up to the first one that fails. -/
def documentsRecords {α : Type} (run : Text → Except Error α) (records : Text → List Record)
    : List Document → List Record
  | [] => []
  | d :: rest =>
    records d.text ++
      match run d.text with
      | .ok _ => documentsRecords run records rest
      | .error _ => []

def sortRecords (s : Sorter) (buffer : Text) (slot : Int) : List Record :=
  documentsRecords (s.sortDocument · slot) (s.sortDocumentRecords slot) (Document.split buffer)

def formatRecords (s : Sorter) (buffer : Text) : List Record :=
  documentsRecords s.formatDocument s.formatDocumentRecords (Document.split buffer)

def validateRecords (s : Sorter) (buffer : Text) : List Record :=
  documentsRecords s.validateDocument s.validateDocumentRecords (Document.split buffer)

/-- The records of the lines of a range. -/
def linesRecords (r : LineRange) (records : Text → List Record) (text : Text) : List Record :=
  match r.select text with
  | .ok selection => records selection.text
  | .error _ => []

end Sorter
end YamlOrder
