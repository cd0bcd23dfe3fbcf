import LightShow.Show.Program

/-!
A show on files and a network in memory, with a clock that runs as the clip does. A bridge takes
requests and says nothing that shows.
-/

set_option autoImplicit false

namespace LightShow

structure Rehearsal where
  tree : FileTree
  /-- The lines on the console so far, the latest one first. -/
  console : List LogLine := []
  deriving Repr

namespace Rehearsal

/-- A world that is held in memory. -/
def host (network : Network) (stamp : Nat) : Host (StateM Rehearsal) where
  look path := do return (← get).tree.look path
  makeDirectory path := do
    let (tree, made) := (← get).tree.makeDirectory path
    modify fun state => { state with tree }
    return made
  rotateLogs directory maxFiles :=
    modify fun state => { state with tree := (state.tree.rotateLogs directory maxFiles).1 }
  stamp := pure stamp
  createLog path := do
    match (← get).tree.look path with
    | .directory => return false
    | _ =>
      modify fun state => { state with tree := state.tree.write path [] }
      return true
  write log line :=
    if log.console then modify fun state => { state with console := line :: state.console }
    else pure ()
  resolve settings :=
    pure (((network.resolve settings.targetHost).filter network.binds).map fun host =>
      host.withPort settings.targetPort)
  deliver packet := pure (network.takes packet)
  startBridge _ _ := pure true
  request _ := pure ()
  stopBridge := pure ()
  await block := pure (block.timestamp.toNat * 1000000)

/-- What became of a show: how it ended, what the console showed, and the files it left. -/
structure Result where
  outcome : Outcome
  console : List LogLine
  tree : FileTree
  deriving Repr

/-- Runs a command line on these files. -/
def run (tree : FileTree) (network : Network) (stamp : Nat) (arguments : List String)
    (directives : String) : Result :=
  let (outcome, state) := ((host network stamp).run arguments directives).run { tree }
  ⟨outcome, state.console.reverse, state.tree⟩

end Rehearsal

end LightShow
