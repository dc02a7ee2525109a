import YamlOrder.Command.Menu
import YamlOrder.Text.Lower

/-!
This module contains the search for the command that arguments name, among flags that may stand
anywhere, and the distance between two words, by which a near name is suggested.
-/

namespace YamlOrder
namespace Text

/--
The next row of the table of distances. `left` is the entry before, `diagonal` the entry before it
in the row above, and `above` the rest of that row.
-/
def nextRow (b : UInt8) (left diagonal : Nat) : Text → List Nat → List Nat
  | c :: t, up :: above =>
    let entry := if b == c then diagonal else min (min up left) diagonal + 1
    entry :: nextRow b entry up t above
  | _, _ => []

/-- The row of distances for a word that is one byte longer. -/
def addRow (target : Text) (row : List Nat) (b : UInt8) : List Nat :=
  match row with
  | [] => []
  | d :: above => (d + 1) :: nextRow b (d + 1) d target above

/-- The distance between two words. -/
def distance (s t : Text) : Nat :=
  ((s.foldl (addRow t) (List.range (t.length + 1))).getLast?).getD 0

/-- Whether a word that was typed may stand for a name: it is close to it or a part of its start. -/
def resembles (typed name : Text) : Bool :=
  let typed := lower typed
  let name := lower name
  distance typed name ≤ 2 || typed.isPrefixOf name

end Text

namespace Command

/--
Whether an argument is a flag whose value is the next argument. A flag that is not known counts as
one.
-/
def takesNext (flags : List Flag) (arg : Text) : Bool :=
  !arg.contains 61 &&
    match arg with
    | 45 :: 45 :: name => !flags.any fun f => f.name == name && f.kind == .bool
    | [45, c] => !flags.any fun f => f.letter == some c && f.kind == .bool
    | _ => false

def isFlag (arg : Text) : Bool := arg.head? == some 45

/--
The arguments that are neither flags nor their values. A flag right before the last one hides it.
-/
def words (flags : List Flag) : List Text → List Text
  | [] => []
  | arg :: rest =>
    if arg == [45, 45] then []
    else if takesNext flags arg then
      match rest with
      | _ :: next :: rest => words flags (next :: rest)
      | _ => []
    else if arg.isEmpty || isFlag arg then words flags rest
    else arg :: words flags rest

/-- The arguments without the first one that is a given word. -/
def dropWord (flags : List Flag) (word : Text) : List Text → List Text
  | [] => []
  | arg :: rest =>
    if arg == [45, 45] then arg :: rest
    else if takesNext flags arg then
      match rest with
      | value :: rest => arg :: value :: dropWord flags word rest
      | [] => [arg]
    else if !isFlag arg && arg == word then rest
    else arg :: dropWord flags word rest

/-- Follow words from a command on; the number bounds how many. -/
def descend : Nat → Item → List Text → Item × List Text
  | 0, i, args => (i, args)
  | n + 1, i, args =>
    match words i.flags args with
    | [] => (i, args)
    | word :: _ =>
      match i.children.find? (·.name == word) with
      | some child => descend n child (dropWord i.flags word args)
      | none => (i, args)

/-- The commands that a word may stand for. -/
def suggestions (word : Text) : List Text :=
  ((Item.root.children.filter Item.isSuggested).map Item.name).filter (Text.resembles word)

/-- A word that names no command, and where one was expected. -/
structure Unknown where
  word : Text
  path : Text
  suggestions : List Text := []
  deriving DecidableEq, Repr

def Unknown.message (u : Unknown) : Text :=
  let proposal : Text :=
    if u.suggestions.isEmpty then []
    else Text.ofString "\n\nDid you mean this?\n" ++ u.suggestions.flatMap fun s => 9 :: s ++
      [Text.newline]
  Text.ofString "unknown command " ++ Text.quote u.word ++ " for " ++ Text.quote u.path ++ proposal

/-- The command that arguments name, and the arguments that are left for it. -/
def dispatch (args : List Text) : Except Unknown (Item × List Text) :=
  let (i, rest) := descend args.length .root args
  match i, words i.flags rest with
  | .root, word :: _ => .error ⟨word, i.path, suggestions word⟩
  | i, _ => .ok (i, rest)

end Command
end YamlOrder
