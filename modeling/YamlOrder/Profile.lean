import YamlOrder.FileTree

/-!
This module contains the profiles of a run: which of them are wanted, and what becomes of their
files when the run starts and stops.
-/

namespace YamlOrder
namespace Profile

/-- What a profile shows. -/
inductive Kind where
  | cpu
  | heap
  | allocs
  deriving DecidableEq, Repr

def Kind.name : Kind → Text
  | .cpu => "cpu"
  | .heap => "heap"
  | .allocs => "allocs"

/-- The paths of the wanted profiles. An empty path stands for a profile that is not wanted. -/
structure Paths where
  cpu : Text := []
  heap : Text := []
  allocs : Text := []
  deriving DecidableEq, Repr, Inhabited

/-- A profile whose file cannot be made. -/
structure Fault where
  kind : Kind
  path : Text
  reason : PathFault
  deriving DecidableEq, Repr

def Fault.message (f : Fault) : Text :=
  Text.ofString "create " ++ f.kind.name ++ " profile: open " ++ f.path ++ ": " ++ f.reason.message

/-- Several faults, one on a line. -/
def messages (fs : List Fault) : Text := Text.unlines (fs.map Fault.message)

/-- Whether a run has started, and the file that the profile of the processor goes to. -/
structure State where
  started : Bool := false
  recording : Option Route := none
  deriving DecidableEq, Repr, Inhabited

/-- What stands in the file of a profile that has been written. -/
def content (k : Kind) : Text := k.name ++ Text.ofString " profile\n"

/--
Start a run. A run that has started already goes on, and one whose file cannot be made counts as
started.
-/
def start (p : Paths) (s : State) (t : FileTree) : State × FileTree × List Fault :=
  if s.started then (s, t, [])
  else if p.cpu.isEmpty then ({ s with started := true }, t, [])
  else
    match t.place p.cpu with
    | .ok r => ({ started := true, recording := some r }, t.put r [], [])
    | .error reason => ({ s with started := true }, t, [⟨.cpu, p.cpu, reason⟩])

/-- Write a profile, if it is wanted. -/
def save (k : Kind) (path : Text) (t : FileTree) : FileTree × List Fault :=
  if path.isEmpty then (t, [])
  else
    match t.write path (content k) with
    | .ok t => (t, [])
    | .error reason => (t, [⟨k, path, reason⟩])

/-- Stop a run and write its profiles. Nothing happens to a run that has not started. -/
def stop (p : Paths) (s : State) (t : FileTree) : State × FileTree × List Fault :=
  if !s.started then (s, t, [])
  else
    let t := match s.recording with
      | some r => t.put r (content .cpu)
      | none => t
    let (t, heapFaults) := save .heap p.heap t
    let (t, allocsFaults) := save .allocs p.allocs t
    ({}, t, heapFaults ++ allocsFaults)

end Profile
end YamlOrder
