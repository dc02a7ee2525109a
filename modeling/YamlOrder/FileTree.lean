import YamlOrder.Text.Basic

/-!
This module contains a tree of files: how a path is followed from the root or from the working
directory, what a directory holds, and how a file is written.
-/

namespace YamlOrder

/-- The names on the way from the root to a file. -/
abbrev Route := List Text

/--
Files, and the working directory. A directory exists if a file or the working directory lies below
it.
-/
structure FileTree where
  files : List (Route × Text) := []
  home : Route := []
  deriving DecidableEq, Repr, Inhabited

/-- Why a path leads to nothing that can be used. -/
inductive PathFault where
  | missing
  | notDirectory
  | isDirectory
  | tooLong
  | invalid
  deriving DecidableEq, Repr

def PathFault.message : PathFault → Text
  | .missing => "no such file or directory"
  | .notDirectory => "not a directory"
  | .isDirectory => "is a directory"
  | .tooLong => "file name too long"
  | .invalid => "invalid argument"

/-- What a path leads to. -/
inductive Entry where
  | file (content : Text)
  | directory
  deriving DecidableEq, Repr

namespace FileTree

def slash : UInt8 := 47

def dot : Text := "."

def dots : Text := ".."

/-- The entry at the end of a route. -/
def entryAt? (t : FileTree) (r : Route) : Option Entry :=
  match t.files.lookup r with
  | some content => some (.file content)
  | none => if r.isPrefixOf t.home || t.files.any (r.isPrefixOf ·.1) then some .directory else none

/-- The greatest length of a name. -/
def maxName : Nat := 255

/-- The greatest length of a path. -/
def maxPath : Nat := 4095

/--
Follow names from a route on. Every name but the last must lead to a directory, and nothing is above
the root.
-/
def follow (t : FileTree) (r : Route) : List Text → Except PathFault (Route × Entry)
  | [] =>
    match t.entryAt? r with
    | some e => .ok (r, e)
    | none => .error .missing
  | name :: rest =>
    match t.entryAt? r with
    | none => .error .missing
    | some (.file _) => .error .notDirectory
    | some .directory =>
      if maxName < name.length then .error .tooLong
      else if name.isEmpty || name == dot then t.follow r rest
      else if name == dots then t.follow r.dropLast rest
      else t.follow (r ++ [name]) rest

/-- The names that a path is made of. -/
def names (path : Text) : List Text := Text.splitOn slash path

/-- Whether a path starts at the root. -/
def isAbsolute (path : Text) : Bool := path.head? == some slash

/-- The route from which the names of a path are followed. -/
def start (t : FileTree) (path : Text) : Route := if isAbsolute path then [] else t.home

/-- What a path leads to. No path holds a zero byte. -/
def find (t : FileTree) (path : Text) : Except PathFault (Route × Entry) :=
  if path.contains 0 then .error .invalid
  else if maxPath < path.length then .error .tooLong
  else if path.isEmpty then .error .missing
  else t.follow (t.start path) (names path)

/-- The content of the file that a path leads to. -/
def read (t : FileTree) (path : Text) : Except PathFault Text :=
  match t.find path with
  | .ok (_, .file content) => .ok content
  | .ok (_, .directory) => .error .isDirectory
  | .error e => .error e

/-- The files with a new content for one of them, which comes last if it is new. -/
def putFile (r : Route) (content : Text) : List (Route × Text) → List (Route × Text)
  | [] => [(r, content)]
  | f :: fs => if r == f.1 then (r, content) :: fs else f :: putFile r content fs

theorem lookup_putFile_self (r : Route) (content : Text) (fs : List (Route × Text))
    : (putFile r content fs).lookup r = some content := by
  induction fs with
  | nil => simp [putFile]
  | cons f fs ih =>
    simp only [putFile]
    split
    . simp
    . next hne =>
      simp only [Bool.not_eq_true] at hne
      rw [List.lookup_cons]
      simp only [hne, ih]

/-- The tree with a new content for a file. -/
def put (t : FileTree) (r : Route) (content : Text) : FileTree :=
    { t with files := putFile r content t.files }

theorem entryAt?_put_self (t : FileTree) (r : Route) (content : Text)
    : (t.put r content).entryAt? r = some (.file content) := by
  simp [entryAt?, put, lookup_putFile_self]

/-- Where a file can be written: over a file, or into a directory that exists. -/
def place (t : FileTree) (path : Text) : Except PathFault Route :=
  match t.find path with
  | .ok (r, .file _) => .ok r
  | .ok (_, .directory) => .error .isDirectory
  | .error .missing =>
    let ns := names path
    match ns.getLast? with
    | none => .error .missing
    | some name =>
      if path.isEmpty then .error .missing
      else
        match t.follow (t.start path) ns.dropLast with
        | .ok (r, .directory) => if name.isEmpty then .error .isDirectory else .ok (r ++ [name])
        | .ok (_, .file _) => .error .notDirectory
        | .error e => .error e
  | .error e => .error e

/-- Write a file, which need not exist yet. -/
def write (t : FileTree) (path content : Text) : Except PathFault FileTree :=
  (t.place path).map (t.put · content)

/-- The order of texts by their bytes. -/
def compareBytes (a b : Text) : Ordering := List.compareLex compare a b

/-- The order in which the files of a tree are visited: name by name. -/
def compareRoutes (a b : Route) : Ordering := List.compareLex compareBytes a b

/-- The routes of all files below a route, in the order in which they are visited. -/
def below (t : FileTree) (r : Route) : List Route :=
  ((t.files.map (·.1)).filter fun f => r.isPrefixOf f).mergeSort fun a b => (compareRoutes a b).isLE

/-- A route as a path. -/
def pathOf (r : Route) : Text := List.intercalate [slash] r

/--
The names of the shortest path with the same meaning: without empty names, dots, and names that are
left again. Nothing is above the root, so an absolute path does not start with two dots.
-/
def clean (path : Text) : List Text :=
  (names path).foldl (step (isAbsolute path)) []
where
  step (absolute : Bool) (ns : List Text) (name : Text) : List Text :=
    if name.isEmpty || name == dot then ns
    else if name == dots && !ns.isEmpty && ns.getLast? != some dots then ns.dropLast
    else if name == dots && absolute then ns
    else ns ++ [name]

/-- The paths of all files below the directory that a path leads to. -/
def walk (t : FileTree) (path : Text) (r : Route) : List Text :=
  (t.below r).map fun f =>
    (if isAbsolute path then [slash] else []) ++ pathOf (clean path ++ f.drop r.length)

/-- Files that are given by their paths from a working directory, which is not the root. -/
def ofPaths (files : List (Text × Text)) : FileTree where
  files := files.map fun (path, content) => ("work" :: clean path, content)
  home := ["work"]

/-- The files of a tree by their paths, from the working directory if they lie below it. -/
def toPaths (t : FileTree) : List (Text × Text) :=
  t.files.map fun (r, content) =>
    (if t.home.isPrefixOf r then pathOf (r.drop t.home.length) else slash :: pathOf r, content)

/-- The part of a file name from its last dot on. -/
def extension (path : Text) : Text :=
  let name := (names path).getLastD []
  match Text.findLast? dot name with
  | some i => name.drop i
  | none => []

end FileTree
end YamlOrder
