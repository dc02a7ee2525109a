import YamlOrder.Text.Basic

/-!
This module contains the reading of an indented block of text, as it is written inside of indented
source code.
-/

namespace YamlOrder
namespace Text

/-- The longest text that two texts start with. -/
def commonStart : Text → Text → Text
  | a :: s, b :: t => if a == b then a :: commonStart s t else []
  | _, _ => []

/-- The spaces and tabs that a line starts with. -/
def margin (line : Text) : Text := line.takeWhile fun b => b == space || b == tab

/-- The margin that all lines with content share. -/
def commonMargin (lines : List Text) : Text :=
  match (lines.filter (!isBlank ·)).map margin with
  | [] => []
  | m :: ms => ms.foldl commonStart m

/--
A block without one newline on either side and without the margin of its lines; blank lines are
emptied.
-/
def dedent (block : Text) : Text :=
  let lines := lines (dropTrailing [newline] (dropLeading [newline] block))
  let margin := commonMargin lines
  unlines (lines.map fun line => if isBlank line then [] else dropLeading margin line)

/-- Lines put together with Windows line ends between them. -/
def unlinesWindows (ls : List Text) : Text := List.intercalate [carriageReturn, newline] ls

end Text
end YamlOrder
