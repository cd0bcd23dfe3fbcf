import LightShow.Audio.WaveSource
import LightShow.Light.Router
import LightShow.Log.Rotation

/-!
A tree of files in memory, with the few things the program does with files: looking at a path,
making a directory, rotating logs, loading a light map.
-/

set_option autoImplicit false

namespace LightShow

structure FileTree where
  /-- The directories and files below the root by their paths. A directory has no content. -/
  nodes : List (List FileName × Option (List UInt8)) := []
  /-- A path leads to one of them at most. -/
  distinct : (nodes.map (·.1)).Nodup := by simp
  deriving Repr

namespace FileTree

/-- Puts a directory or a file at a path, in place of what stands there. -/
def put (tree : FileTree) (path : List FileName) (content : Option (List UInt8)) : FileTree where
  nodes := tree.nodes.filter (fun node => node.1 ≠ path) ++ [(path, content)]
  distinct := by
    have hothers : ((tree.nodes.filter fun node => node.1 ≠ path).map (·.1)).Nodup :=
      tree.distinct.sublist (List.filter_sublist.map _)
    simp only [List.map_append, List.map_cons, List.map_nil]
    exact List.nodup_append.mpr ⟨hothers, by simp, by simp⟩

/-- Removes what stands at some paths. -/
def remove (tree : FileTree) (paths : List (List FileName)) : FileTree where
  nodes := tree.nodes.filter fun node => !paths.contains node.1
  distinct := tree.distinct.sublist (List.filter_sublist.map _)

/-- What stands at a path below the root. -/
def content (tree : FileTree) (path : List FileName) : FileContent :=
  if path.isEmpty then .directory
  else
    match tree.nodes.find? fun node => node.1 = path with
    | some (_, some bytes) => .bytes bytes
    | some (_, none) => .directory
    | none => .missing

/-- The longest name of a file or directory in bytes. -/
def longestName : Nat := 255

/-- The longest path below the root in bytes, which leaves room for that of the root. -/
def longestPath : Nat := 4079

/-- Where the steps of a path lead. -/
inductive Trail where
  /-- To this path, where something may stand or not. -/
  | found (path : List FileName)
  /-- Through a directory that is missing. -/
  | missing
  /-- Through a file, or over a name that is too long. -/
  | blocked
  deriving DecidableEq, Repr

/-- Follows the steps of a path. Each step but the last has to lead to a directory. -/
def follow (tree : FileTree) : List FileName → List FileName → Trail
  | current, [] => .found current
  | current, step :: rest =>
    match tree.content current with
    | .missing => .missing
    | .bytes _ => .blocked
    | .directory =>
      if step = [] ∨ step = .here then follow tree current rest
      else if step = .up then follow tree current.dropLast rest
      else if longestName < step.length then .blocked
      else follow tree (current ++ [step]) rest

/-- The steps of a path written with slashes. -/
def steps (path : String) : List FileName :=
  (path.splitOn "/").map .ofText

/-- What stands at a path written with slashes. -/
def look (tree : FileTree) (path : String) : FileContent :=
  match tree.follow [] (steps path) with
  | .found place => tree.content place
  | _ => .missing

/-- What came of making one directory. -/
inductive Making where
  /-- It stands at this path, made or found. -/
  | done (tree : FileTree) (path : List FileName)
  /-- The directory above it is missing. -/
  | missing
  | refused
  deriving Repr

/-- Makes a directory inside one that stands at a path. -/
def makeBelow (tree : FileTree) (above : List FileName) (name : FileName) : Making :=
  let path := above ++ [name]
  if name = .here then .done tree above
  else if name = .up then .done tree above.dropLast
  else if longestName < name.length then .refused
  else
    match tree.content path with
    | .missing => .done (tree.put path none) path
    | .directory => .done tree path
    | .bytes _ => .refused

/-- Makes the directory at the end of some steps, where the directory above it has to stand. -/
def makeLast (tree : FileTree) (steps : List FileName) : Making :=
  match tree.follow [] (steps.dropLast ++ [.here]) with
  | .missing => .missing
  | .blocked => .refused
  | .found above => tree.makeBelow above (steps.getLastD .here)

/-- Makes a directory with all those above it, from its steps in reverse, and gives its path. -/
def makeSteps (tree : FileTree) : List FileName → FileTree × Option (List FileName)
  | [] => (tree, some [])
  | last :: above =>
    match tree.makeLast (last :: above).reverse with
    | .done tree path => (tree, some path)
    | .refused => (tree, none)
    | .missing =>
      match tree.makeSteps above with
      | (tree, none) => (tree, none)
      | (tree, some directory) =>
        match tree.makeBelow directory last with
        | .done tree path => (tree, some path)
        | _ => (tree, none)

/-- Makes a directory with all those above it. The directory above a path is that of its last name
or step up, so that a path which ends in a dot needs the directory before the dot to stand. -/
def makeDirectory (tree : FileTree) (path : String) : FileTree × Bool :=
  let steps := (steps path).filter fun step => step ≠ []
  if path.contains '\x00' || longestPath < path.utf8ByteSize then (tree, false)
  else
    match tree.makeLast steps with
    | .done tree _ => (tree, true)
    | .refused => (tree, false)
    | .missing =>
      let names := steps.filter fun step => step ≠ FileName.here
      match tree.makeSteps names.reverse.tail with
      | (tree, none) => (tree, false)
      | (tree, some _) =>
        match tree.makeLast steps with
        | .done tree _ => (tree, true)
        | _ => (tree, false)

/-- Writes a file. Directories above it that are missing are made. -/
def write (tree : FileTree) (path : String) (bytes : List UInt8) : FileTree :=
  let steps := (steps path).filter fun step => step ≠ [] ∧ step ≠ FileName.here
  let (tree, _) := tree.makeSteps steps.reverse.tail
  match tree.follow [] steps with
  | .found path => tree.put path (some bytes)
  | _ => tree

/-- A node as an entry of a directory, if it is one. -/
def entryIn? (directory : List FileName) (node : List FileName × Option (List UInt8)) :
    Option DirectoryEntry :=
  if node.1.dropLast = directory ∧ !node.1.isEmpty then
    some ⟨node.1.getLast?.getD [], node.2.isNone⟩
  else none

/-- The entries of a directory. -/
def entries (tree : FileTree) (directory : List FileName) : List DirectoryEntry :=
  tree.nodes.filterMap (entryIn? directory)

/-- All paths as they are to be shown, in order. Those of directories end in a slash. -/
def listingAs (tree : FileTree) (shown : String → String) : List String :=
  (tree.nodes.map fun (path, content) =>
    shown ("/".intercalate (path.map FileName.shown) ++
      (if content.isNone then "/" else ""))).mergeSort fun a b =>
      !decide (b < a)

/-- All paths in order. -/
def listing (tree : FileTree) : List String :=
  tree.listingAs id

/-- Rotates the logs of a directory and counts what was removed. Fails where the path is no
directory or a directory is among what would be removed. -/
def rotateLogs (tree : FileTree) (directory : String) (maxFiles : Nat) :
    FileTree × Option Nat :=
  match tree.follow [] (steps directory) with
  | .missing | .blocked => (tree, some 0)
  | .found path =>
    match tree.content path with
    | .missing => (tree, some 0)
    | .bytes _ => (tree, none)
    | .directory =>
      let outcome := LogRotation.rotate maxFiles (tree.entries path)
      (tree.remove (outcome.removed.map fun entry => path ++ [entry.name]),
        if outcome.blocked then none else some outcome.removed.length)

/-- Loads a light map from a file, which errors show under a name. -/
def loadMap (tree : FileTree) (router : Router) (path shown : String) :
    Router × Except LoadError Nat :=
  router.adopt (LightMap.ofFile shown (tree.look path))

end FileTree

/-- A path followed by a name. -/
def joinPath (directory name : String) : String :=
  if directory.isEmpty || directory.endsWith "/" then directory ++ name
  else directory ++ "/" ++ name

end LightShow
