import YamlOrder.Program

/-!
This module contains the command line: it brings the files below the working directory and those
that arguments name, the environment and the standard input to `Program.run`, and carries out what
that answers.
-/

namespace YamlOrder
namespace Main

def textOf (bytes : ByteArray) : Text := bytes.toList

def bytesOf (text : Text) : ByteArray := ⟨text.toArray⟩

/--
The file at the end of a route, or the files below the directory there. What cannot be read is left
out.
-/
partial def filesBelow (route : List String) : IO (List (Route × Text)) := do
  let path := System.mkFilePath ("" :: route)
  if ← path.isDir then
    let entries ← try path.readDir catch _ => pure #[]
    let found ← entries.toList.mapM fun e => filesBelow (route ++ [e.fileName])
    return found.flatten
  try
    let content ← IO.FS.readBinFile path
    return [(route.map Text.ofString, textOf content)]
  catch _ =>
    return []

/-- The names on the way from the root to the working directory. -/
def home : IO (List String) := do
  return (← IO.currentDir).components.filter (!·.isEmpty)

/--
The routes that an argument may name: all of it as a path, or what stands behind an equals sign.
-/
def routesOf (home : Route) (arg : Text) : List Route :=
  [arg, ((Text.cut? 61 arg).map (·.2)).getD arg].map fun path =>
    ((FileTree.start { home } path) ++ FileTree.names path).foldl (FileTree.clean.step true) []

/-- The files below the working directory, and those that arguments name elsewhere. -/
def readFiles (args : List Text) : IO FileTree := do
  let home := (← home).map Text.ofString
  let routes := home :: args.flatMap (routesOf home)
  let outermost := (routes.filter fun r => !routes.any fun q => q != r && q.isPrefixOf r).eraseDups
  let files ← (outermost.filterMap (·.mapM Text.toString?)).mapM filesBelow
  return { files := files.flatten, home }

/-- The variables of the environment. -/
def environment : IO Config.Environment := do
  let path := System.mkFilePath ["/proc", "self", "environ"]
  let content ← try IO.FS.readBinFile path catch _ => pure ByteArray.empty
  return (Text.splitOn 0 (textOf content)).filterMap (Text.cut? 61)

/-- All that the standard input holds. -/
partial def readAll (input : IO.FS.Stream) (read : ByteArray) : IO ByteArray := do
  let more ← input.read 65536
  if more.isEmpty then return read else readAll input (read ++ more)

/-- Write the files that are new or have changed. -/
def writeFiles (before after : FileTree) : IO PUnit :=
  after.files.forM fun (route, content) => do
    unless before.files.lookup route == some content do
      if let some names := route.mapM Text.toString? then
        IO.FS.writeBinFile (System.mkFilePath ("" :: names)) (bytesOf content)

/-- Gather what is around the run. A terminal is read only if the arguments ask for it. -/
def world (args : List Text) : IO Program.World := do
  let input ← IO.getStdin
  let terminal ← input.isTty
  let read ← if terminal && !args.contains Batch.standardInput then pure ByteArray.empty
    else readAll input ByteArray.empty
  return {
    files := ← readFiles args
    env := ← environment
    input := textOf read
    terminal }

end Main
end YamlOrder

open YamlOrder in
def main (args : List String) : IO UInt32 := do
  let args := args.map Text.ofString
  let w ← Main.world args
  let r := Program.run w args
  Main.writeFiles w.files r.files
  let output ← IO.getStdout
  output.write (Main.bytesOf r.output)
  output.flush
  let messages ← IO.getStderr
  messages.write (Main.bytesOf r.messages)
  match r.failure with
  | none => return 0
  | some failure =>
    messages.write (Main.bytesOf (failure.message ++ [Text.newline]))
    return 1
