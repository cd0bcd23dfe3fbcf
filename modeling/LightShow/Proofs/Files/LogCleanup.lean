import LightShow.Files.Tree
import LightShow.Proofs.Log.LogOrder
import Mathlib.Data.List.Nodup

/-!
# What a rotation leaves of a directory

A rotation looks at the entries of one directory and removes the oldest log files until there is
room for one more. In a tree of files this touches nothing else (`FileTree.Loses`): neither the
other entries of the directory, nor what stands anywhere else, nor the way to the directory, since
only files are removed (`follow_remove`). So the directory can be looked at again, and then nothing
is too many. A tree is a set of nodes whose order no operation sees (`content_of_perm`), and a
rotation does the same to it in whatever order it is listed (`rotateLogs_of_perm`).
-/

set_option autoImplicit false

namespace LightShow.FileTree

open LogRotation

variable {tree other next : FileTree} {path : List FileName}

/-! ### Nodes and what stands at a path -/

theorem content_of_mem {content : Option (List UInt8)} (hmem : (path, content) ∈ tree.nodes)
    (hpath : path ≠ []) : tree.content path = content.elim .directory .bytes := by
  have hfind : tree.nodes.find? (fun node ↦ node.1 = path) = some (path, content) := by
    cases hfound : tree.nodes.find? fun node ↦ node.1 = path with
    | none =>
      rw [List.find?_eq_none] at hfound
      exact (hfound _ hmem (by simp)).elim
    | some node =>
      have hsame : node.1 = path := by simpa using List.find?_some hfound
      have hnode := List.inj_on_of_nodup_map tree.distinct (List.mem_of_find?_eq_some hfound) hmem
      rw [hnode hsame]
  rw [FileTree.content, if_neg (by simpa using hpath), hfind]
  cases content <;> rfl

theorem content_of_perm (hperm : other.nodes.Perm tree.nodes) (path : List FileName) :
    other.content path = tree.content path := by
  by_cases hpath : path = []
  · simp [content, hpath]
  · by_cases hnode : ∃ content, (path, content) ∈ tree.nodes
    · obtain ⟨content, hmem⟩ := hnode
      rw [content_of_mem hmem hpath, content_of_mem (hperm.mem_iff.mpr hmem) hpath]
    · have hnone (nodes : List (List FileName × Option (List UInt8)))
          (hnodes : nodes.Perm tree.nodes) : nodes.find? (fun node ↦ node.1 = path) = none := by
        rw [List.find?_eq_none]
        intro node hmem
        simp only [decide_eq_true_eq]
        rintro rfl
        exact hnode ⟨node.2, hnodes.mem_iff.mp hmem⟩
      rw [content, content, hnone _ hperm, hnone _ (.refl _)]

theorem content_remove {paths : List (List FileName)} (hkept : path ∉ paths) :
    (tree.remove paths).content path = tree.content path := by
  have hfind : (tree.remove paths).nodes.find? (fun node ↦ node.1 = path) =
      tree.nodes.find? fun node ↦ node.1 = path := by
    rw [remove, List.find?_filter]
    congr 1
    funext node
    by_cases hnode : node.1 = path <;> simp [hnode, hkept]
  rw [content, content, hfind]

theorem follow_of_content (hcontent : ∀ place, other.content place = tree.content place)
    (current places : List FileName) :
    other.follow current places = tree.follow current places := by
  induction places generalizing current with
  | nil => rfl
  | cons step rest ih => simp only [follow, hcontent, ih]

/-- Where only files are removed, a path still leads where it led. -/
theorem follow_remove {paths : List (List FileName)}
    (hfiles : ∀ place ∈ paths, tree.content place ≠ .directory) {current steps : List FileName}
    (hfollow : tree.follow current steps = .found path) :
    (tree.remove paths).follow current steps = .found path := by
  induction steps generalizing current with
  | nil => exact hfollow
  | cons step rest ih =>
    simp only [follow] at hfollow ⊢
    cases hcurrent : tree.content current with
    | missing => simp [hcurrent] at hfollow
    | bytes bytes => simp [hcurrent] at hfollow
    | directory =>
      have hkept : current ∉ paths := fun hgone ↦ hfiles current hgone hcurrent
      simp only [content_remove hkept, hcurrent] at hfollow ⊢
      split_ifs at hfollow ⊢ <;> exact ih hfollow

/-! ### Entries -/

theorem entryIn?_eq_some_iff {node : List FileName × Option (List UInt8)} {entry : DirectoryEntry} :
    entryIn? path node = some entry ↔
      node.1 = path ++ [entry.name] ∧ entry.isDirectory = node.2.isNone := by
  obtain ⟨place, content⟩ := node
  rcases List.eq_nil_or_concat place with rfl | ⟨above, name, rfl⟩
  · simp [entryIn?]
  · obtain ⟨entryName, isDirectory⟩ := entry
    rw [entryIn?, List.concat_eq_append]
    by_cases habove : above = path
    · rw [if_pos ⟨by simp [habove], by simp⟩]
      simp only [List.getLast?_concat, Option.getD_some, Option.some.injEq, DirectoryEntry.mk.injEq,
        habove, List.append_cancel_left_eq, List.cons.injEq, and_true]
      exact and_congr_right' eq_comm
    · simp [habove]

theorem mem_entries_iff {entry : DirectoryEntry} :
    entry ∈ tree.entries path ↔
      ∃ content, (path ++ [entry.name], content) ∈ tree.nodes ∧
        entry.isDirectory = content.isNone := by
  simp [entries, List.mem_filterMap, entryIn?_eq_some_iff]

theorem nodup_entries (tree : FileTree) (path : List FileName) :
    ((tree.entries path).map (·.name)).Nodup := by
  have hdistinct : tree.nodes.Pairwise fun node later ↦ node.1 ≠ later.1 :=
    List.pairwise_map.mp tree.distinct
  rw [List.Nodup, List.pairwise_map, entries]
  refine hdistinct.filterMap _ fun node later hne entry hentry other hother hname ↦ hne ?_
  rw [(entryIn?_eq_some_iff.mp hentry).1, (entryIn?_eq_some_iff.mp hother).1, hname]

/-! ### Removal -/

/-- A tree becomes another by losing some entries of a directory and nothing else. -/
def Loses (tree next : FileTree) (path : List FileName) (gone : List DirectoryEntry) : Prop :=
  ∀ node, node ∈ next.nodes ↔ node ∈ tree.nodes ∧ ∀ entry ∈ gone, node.1 ≠ path ++ [entry.name]

/-- The tree without some entries of a directory. -/
def without (tree : FileTree) (path : List FileName) (gone : List DirectoryEntry) : FileTree :=
  tree.remove (gone.map fun entry ↦ path ++ [entry.name])

theorem loses_without (tree : FileTree) (path : List FileName) (gone : List DirectoryEntry) :
    tree.Loses (tree.without path gone) path gone := by
  intro node
  simp only [without, remove, List.mem_filter, Bool.not_eq_true', List.contains_eq_mem,
    decide_eq_false_iff_not, List.mem_map, not_exists, not_and]
  refine and_congr_right' (forall₂_congr fun entry _ ↦ ?_)
  exact not_congr eq_comm

theorem Loses.mem_entries_iff {gone : List DirectoryEntry} (hloses : tree.Loses next path gone)
    (entry : DirectoryEntry) :
    entry ∈ next.entries path ↔
      entry ∈ tree.entries path ∧ ∀ other ∈ gone, other.name ≠ entry.name := by
  rw [FileTree.mem_entries_iff, FileTree.mem_entries_iff]
  constructor
  · rintro ⟨content, hmem, hkind⟩
    obtain ⟨hnode, hkept⟩ := (hloses _).mp hmem
    refine ⟨⟨content, hnode, hkind⟩, fun other hother hname ↦ hkept other hother ?_⟩
    rw [hname]
  · rintro ⟨⟨content, hmem, hkind⟩, hkept⟩
    refine ⟨content, (hloses _).mpr ⟨hmem, fun other hother hplace ↦ hkept other hother ?_⟩, hkind⟩
    simpa using hplace.symm

theorem without_nil (tree : FileTree) (path : List FileName) : tree.without path [] = tree := by
  obtain ⟨nodes, distinct⟩ := tree
  simp [without, remove]

/-- A file that is an entry is no directory in the tree. -/
theorem content_ne_directory {entry : DirectoryEntry} (hentry : entry ∈ tree.entries path)
    (hfile : entry.isDirectory = false) : tree.content (path ++ [entry.name]) ≠ .directory := by
  obtain ⟨content, hmem, hkind⟩ := mem_entries_iff.mp hentry
  rw [content_of_mem hmem (by simp)]
  cases content with
  | none => simp [hkind] at hfile
  | some bytes => simp

/-! ### Rotation -/

variable {directory : String} {logs : List DirectoryEntry} {maxFiles : ℕ}

/-- What a rotation does to a directory whose excess begins with some files, which end at a
directory or at the end of the excess. -/
theorem rotateLogs_eq (hpath : tree.follow [] (steps directory) = .found path)
    (hdirectory : tree.content path = .directory) (harranged : Arranged (tree.entries path) logs)
    {removed rest : List DirectoryEntry}
    (hexcess : logs.take (logs.length - (maxFiles - 1)) = removed ++ rest)
    (hfiles : ∀ entry ∈ removed, entry.isDirectory = false)
    (hrest : ∀ entry ∈ rest.head?, entry.isDirectory = true) :
    tree.rotateLogs directory maxFiles =
      (tree.without path removed, if rest.isEmpty then some removed.length else none) := by
  have hrotate := rotate_eq (nodup_entries tree path) harranged maxFiles hexcess hfiles hrest
  simp only [rotateLogs, hpath, hdirectory, hrotate]
  cases rest <;> rfl

theorem rotateLogs_of_files (hpath : tree.follow [] (steps directory) = .found path)
    (hdirectory : tree.content path = .directory) (harranged : Arranged (tree.entries path) logs)
    (hfiles : ∀ entry ∈ logs.take (logs.length - (maxFiles - 1)), entry.isDirectory = false) :
    tree.rotateLogs directory maxFiles =
      (tree.without path (logs.take (logs.length - (maxFiles - 1))),
        some (logs.length - (maxFiles - 1))) := by
  refine (rotateLogs_eq hpath hdirectory harranged (List.append_nil _).symm hfiles
    (by simp)).trans ?_
  simp

/-- After a rotation that removed all that was too many, nothing is too many. -/
theorem rotateLogs_without (hpath : tree.follow [] (steps directory) = .found path)
    (hdirectory : tree.content path = .directory) (harranged : Arranged (tree.entries path) logs)
    (hfiles : ∀ entry ∈ logs.take (logs.length - (maxFiles - 1)), entry.isDirectory = false) :
    let next := tree.without path (logs.take (logs.length - (maxFiles - 1)))
    next.rotateLogs directory maxFiles = (next, some 0) := by
  intro next
  have hgone : ∀ place ∈ (logs.take (logs.length - (maxFiles - 1))).map
      (fun entry ↦ path ++ [entry.name]), tree.content place ≠ .directory := by
    intro place hplace
    obtain ⟨entry, hentry, rfl⟩ := List.mem_map.mp hplace
    have hlogs := (harranged.mem_iff entry).mp (List.mem_of_mem_take hentry)
    exact content_ne_directory hlogs.1 (hfiles entry hentry)
  have hkept : Arranged (next.entries path) (logs.drop (logs.length - (maxFiles - 1))) :=
    harranged.drop _ (loses_without tree path _).mem_entries_iff
  have hexcess : (logs.drop (logs.length - (maxFiles - 1))).length - (maxFiles - 1) = 0 := by
    rw [List.length_drop]
    omega
  have hfollow : next.follow [] (steps directory) = .found path := follow_remove hgone hpath
  have hcontent : next.content path = .directory := by
    rw [← hdirectory]
    exact content_remove fun hmem ↦ hgone path hmem hdirectory
  refine (rotateLogs_of_files hfollow hcontent hkept (by rw [hexcess]; simp)).trans ?_
  rw [hexcess, List.take_zero, without_nil]

/-- A rotation does the same in whatever order the nodes of a tree are listed. -/
theorem rotateLogs_of_perm (hperm : other.nodes.Perm tree.nodes) (directory : String)
    (maxFiles : ℕ) :
    (other.rotateLogs directory maxFiles).2 = (tree.rotateLogs directory maxFiles).2 ∧
      (other.rotateLogs directory maxFiles).1.nodes.Perm
        (tree.rotateLogs directory maxFiles).1.nodes := by
  have hfollow := follow_of_content (content_of_perm hperm) [] (steps directory)
  unfold rotateLogs
  rw [hfollow]
  cases htrail : tree.follow [] (steps directory) with
  | missing => exact ⟨rfl, hperm⟩
  | blocked => exact ⟨rfl, hperm⟩
  | found path =>
    dsimp only
    rw [content_of_perm hperm]
    cases hcontent : tree.content path with
    | missing => exact ⟨rfl, hperm⟩
    | bytes bytes => exact ⟨rfl, hperm⟩
    | directory =>
      have hentries : (other.entries path).Perm (tree.entries path) := hperm.filterMap _
      simp only [rotate_of_perm hentries (nodup_entries tree path) maxFiles]
      exact ⟨trivial, hperm.filter _⟩

/-- Of the log files of a directory in their one arrangement, oldest first, a rotation removes as
many as exceed the limit less one. Where these are files, it removes exactly them and says how many
they are; each log file that is left is newer than each one removed, and rotating again removes
nothing. Where a directory is among them, it removes what comes before the first such one and fails.
None of this depends on the order in which anything is listed. -/
theorem rotateLogs_removes_oldest (hpath : tree.follow [] (steps directory) = .found path)
    (hdirectory : tree.content path = .directory) (maxFiles : ℕ) :
    (∃! logs, Arranged (tree.entries path) logs) ∧
    ∀ logs, Arranged (tree.entries path) logs →
      let count := logs.length - (maxFiles - 1)
      let rotated := tree.rotateLogs directory maxFiles
      ((∀ entry ∈ logs.take count, entry.isDirectory = false) →
        rotated.2 = some count ∧ tree.Loses rotated.1 path (logs.take count) ∧
        (∀ kept ∈ rotated.1.entries path, IsLogName kept.name →
          ∀ removed ∈ logs.take count, Older removed.name kept.name) ∧
        rotated.1.rotateLogs directory maxFiles = (rotated.1, some 0)) ∧
      (∀ before blocking after, logs.take count = before ++ blocking :: after →
        (∀ entry ∈ before, entry.isDirectory = false) → blocking.isDirectory = true →
        rotated.2 = none ∧ tree.Loses rotated.1 path before) ∧
      ∀ listed : FileTree, listed.nodes.Perm tree.nodes →
        (listed.rotateLogs directory maxFiles).2 = rotated.2 ∧
          (listed.rotateLogs directory maxFiles).1.nodes.Perm rotated.1.nodes := by
  have hlogs := arranged_logs (nodup_entries tree path)
  refine ⟨⟨_, hlogs, fun others hothers ↦ hothers.unique hlogs⟩, ?_⟩
  intro logs harranged count rotated
  refine ⟨?_, ?_, fun listed hperm ↦ rotateLogs_of_perm hperm directory maxFiles⟩
  · intro hfiles
    have hrotated : rotated = (tree.without path (logs.take count), some count) :=
      rotateLogs_of_files hpath hdirectory harranged hfiles
    have hloses := loses_without tree path (logs.take count)
    rw [hrotated]
    refine ⟨rfl, hloses, ?_, rotateLogs_without hpath hdirectory harranged hfiles⟩
    intro kept hkept hname removed hremoved
    have hdrop := ((harranged.drop count hloses.mem_entries_iff).mem_iff kept).mpr ⟨hkept, hname⟩
    have hsorted := harranged.sorted
    rw [← List.take_append_drop count logs, List.pairwise_append] at hsorted
    exact hsorted.2.2 removed hremoved kept hdrop
  · intro before blocking after hexcess hfiles hblocking
    have hhead : ∀ entry ∈ (blocking :: after).head?, entry.isDirectory = true := by
      simpa using hblocking
    have hrotated : rotated = (tree.without path before, none) :=
      rotateLogs_eq hpath hdirectory harranged hexcess hfiles hhead
    rw [hrotated]
    exact ⟨rfl, loses_without tree path before⟩

theorem steps_empty : steps "" = [[]] := by
  rw [steps, String.splitOn, String.splitOnAux]
  rfl

/-- Log files with and without stamps, two of which have the same one, and a directory that is named
like a log file. -/
def mixedTree : FileTree where
  nodes := [([.ofText "beatlight_10.log"], some []), ([.ofText "beatlight_9.log"], none),
    ([.ofText "beatlight_7.log"], some []), ([.ofText "notes.txt"], some []),
    ([.ofText "beatlight_007.log"], some []), ([.ofText "beatlight.log"], some [])]
  distinct := by decide

/-- The log files of `mixedTree`, oldest first. -/
def mixedLogs : List DirectoryEntry :=
  [{ name := .ofText "beatlight.log" }, { name := .ofText "beatlight_007.log" },
    { name := .ofText "beatlight_7.log" },
    { name := .ofText "beatlight_9.log", isDirectory := true },
    { name := .ofText "beatlight_10.log" }]

theorem arranged_mixedLogs : Arranged (mixedTree.entries []) mixedLogs := by
  refine arranged_of_perm ?_ ?_
  · decide +kernel
  · decide +kernel

/-- With room for two besides the new one, the three oldest are removed; with room for none, the
directory stands in the way. -/
theorem rotateLogs_removes_oldest_mixed :
    mixedTree.follow [] (steps "") = .found [] ∧ mixedTree.content [] = .directory ∧
    (mixedTree.rotateLogs "" 3).2 = some 3 ∧
    mixedTree.Loses (mixedTree.rotateLogs "" 3).1 [] (mixedLogs.take 3) ∧
    (mixedTree.rotateLogs "" 1).2 = none ∧
    mixedTree.Loses (mixedTree.rotateLogs "" 1).1 [] (mixedLogs.take 3) := by
  have hfollow : mixedTree.follow [] (steps "") = .found [] := by rw [steps_empty]; rfl
  have hthree := (rotateLogs_removes_oldest hfollow rfl 3).2 mixedLogs arranged_mixedLogs
  have hone := (rotateLogs_removes_oldest hfollow rfl 1).2 mixedLogs arranged_mixedLogs
  obtain ⟨hcount, hloses, -⟩ := hthree.1 (by decide)
  obtain ⟨hblocked, hbefore⟩ := hone.2.1 (mixedLogs.take 3)
    { name := .ofText "beatlight_9.log", isDirectory := true }
    [{ name := .ofText "beatlight_10.log" }] (by decide) (by decide) rfl
  exact ⟨hfollow, rfl, hcount, hloses, hblocked, hbefore⟩

/-- Two files named like logs, where one of the names holds a byte that no text holds. -/
def unreadableTree : FileTree where
  nodes := [([.ofText "beatlight_1.log"], some []),
    ([FileName.ofText "beatlight_" ++ 0xff :: FileName.ofText ".log"], some [])]
  distinct := by decide +kernel

/-- Two log files, where the greater numeral needs more than 64 bits. -/
def overlongTree : FileTree where
  nodes := [([.ofText "beatlight_5.log"], some []),
    ([.ofText "beatlight_18446744073709551616.log"], some [])]
  distinct := by decide +kernel

/-- Beginning and extension alone make no log file: with room for one besides the new one, neither
of two such entries is removed where the name of one spells no text. And a numeral alone makes no
stamp: with the same room, the greater of two is removed where it needs more than 64 bits. -/
theorem rotateLogs_skips_unreadable :
    ((unreadableTree.entries []).length = 2 ∧
      ∀ entry ∈ unreadableTree.entries [],
        FileName.ofText "beatlight" <+: entry.name ∧
          entry.name.splitExtension.2 = some (.ofText "log")) ∧
    (unreadableTree.rotateLogs "" 2).2 = some 0 ∧
    unreadableTree.Loses (unreadableTree.rotateLogs "" 2).1 [] [] ∧
    (overlongTree.rotateLogs "" 2).2 = some 1 ∧
    overlongTree.Loses (overlongTree.rotateLogs "" 2).1 []
      [{ name := .ofText "beatlight_18446744073709551616.log" }] := by
  have hunreadable : unreadableTree.follow [] (steps "") = .found [] := by rw [steps_empty]; rfl
  have hoverlong : overlongTree.follow [] (steps "") = .found [] := by rw [steps_empty]; rfl
  have hlogs : Arranged (unreadableTree.entries []) [{ name := .ofText "beatlight_1.log" }] :=
    arranged_of_perm (by decide +kernel) (by decide +kernel)
  have hordered : Arranged (overlongTree.entries [])
      [{ name := .ofText "beatlight_18446744073709551616.log" },
        { name := .ofText "beatlight_5.log" }] :=
    arranged_of_perm (by decide +kernel) (by decide +kernel)
  have hkept : unreadableTree.rotateLogs "" 2 = (unreadableTree.without [] [], some 0) :=
    rotateLogs_of_files hunreadable rfl hlogs (by simp)
  have hremoved : overlongTree.rotateLogs "" 2 = (overlongTree.without []
      [{ name := .ofText "beatlight_18446744073709551616.log" }], some 1) :=
    rotateLogs_of_files hoverlong rfl hordered (by simp)
  rw [hkept, hremoved]
  exact ⟨by decide +kernel, rfl, loses_without _ _ _, rfl, loses_without _ _ _⟩

end LightShow.FileTree
