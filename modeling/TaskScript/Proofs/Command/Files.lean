import TaskScript.FileTree

/-!
# Files that are written

What is written at a path is found there afterwards. The path leads through folders only, and those
are still folders when one more file lies among them, so the path leads to the same place as before.

* `FileTree.put`: the tree with one file more, or another content in it.
* `FileTree.follow_put`: a path that could be followed can still be followed, to the same end.
* `FileTree.origin_write`: where bytes go to a file, reading the path gives them back.
-/

namespace TaskScript.FileTree

/-- The tree with a file at the end of a route. -/
def put (tree : FileTree) (route : Route) (content : ByteArray) : FileTree :=
  { tree with files := (route, content) :: tree.files.filter (·.1 ≠ route) }

variable {tree : FileTree} {route other next : Route} {content : ByteArray} {path name : String}

/-! ## Entries -/

theorem lookup_put_of_ne (different : other ≠ route) :
    (tree.put route content).files.lookup other = tree.files.lookup other := by
  have passed : (other == route) = false := beq_false_of_ne different
  show List.lookup other ((route, content) :: tree.files.filter (·.1 ≠ route)) = _
  rw [List.lookup_cons, passed]
  show List.lookup other (tree.files.filter (·.1 ≠ route)) = _
  induction tree.files with
  | nil => rfl
  | cons file files ih =>
    by_cases same : file.1 = route
    · have notOther : (other == file.1) = false := by rw [same]; exact passed
      rw [List.filter_cons_of_neg (by simpa using same), ih, List.lookup_cons, notOther]
    · rw [List.filter_cons_of_pos (by simpa using same), List.lookup_cons, List.lookup_cons, ih]

/-- A folder is still a folder when one more file lies in the tree. -/
theorem isFolder_put (isFolder : tree.isFolder other = true) :
    (tree.put route content).isFolder other = true := by
  unfold FileTree.isFolder at isFolder ⊢
  rw [Bool.or_eq_true] at isFolder ⊢
  rcases isFolder with fixed | holds
  · exact .inl fixed
  · right
    rw [List.any_eq_true] at holds ⊢
    obtain ⟨file, member, below⟩ := holds
    -- The file that makes it a folder may be the one that is written anew.
    by_cases same : file = route
    · refine ⟨route, ?_, same ▸ below⟩
      simp [put]
    · refine ⟨file, ?_, below⟩
      simp only [List.mem_append, List.mem_map, put, List.mem_cons, List.mem_filter] at member ⊢
      rcases member with isDevice | ⟨entry, isFile, rfl⟩
      · exact .inl isDevice
      · exact .inr ⟨entry, .inr ⟨isFile, by simpa using same⟩, rfl⟩

theorem item?_eq_folder_iff :
    tree.item? other = some .folder ↔
      devices.lookup other = none ∧ tree.files.lookup other = none ∧ tree.isFolder other = true := by
  unfold item?
  cases devices.lookup other with
  | some device => simp
  | none =>
    cases tree.files.lookup other with
    | some old => simp
    | none => cases tree.isFolder other <;> simp

theorem item?_put_folder (isFolder : tree.item? other = some .folder)
    (noFolder : tree.item? route ≠ some .folder) :
    (tree.put route content).item? other = some .folder := by
  have different : other ≠ route := by
    rintro rfl
    exact noFolder isFolder
  rw [item?_eq_folder_iff] at isFolder ⊢
  obtain ⟨noDevice, noFile, folder⟩ := isFolder
  exact ⟨noDevice, (lookup_put_of_ne different).trans noFile, isFolder_put folder⟩

theorem item?_put_self (noDevice : devices.lookup route = none) :
    (tree.put route content).item? route = some (.file content) := by
  have found : (tree.put route content).files.lookup route = some content := by
    show List.lookup route ((route, content) :: _) = _
    rw [List.lookup_cons, beq_self_eq_true]
  rw [item?, noDevice, found]

/-! ## Paths -/

/-- Only a folder can be left by a name. -/
theorem folder_of_step (stepped : tree.step other name = .ok next) :
    tree.item? other = some .folder := by
  unfold step at stepped
  split at stepped
  case h_4 isFolder => exact isFolder
  all_goals cases stepped

theorem step_put (noFolder : tree.item? route ≠ some .folder)
    (stepped : tree.step other name = .ok next) :
    (tree.put route content).step other name = .ok next := by
  have isFolder := folder_of_step stepped
  rw [step, isFolder] at stepped
  rw [step, item?_put_folder isFolder noFolder]
  exact stepped

theorem foldlM_step_put (noFolder : tree.item? route ≠ some .folder) {names : List String}
    (followed : names.foldlM tree.step other = .ok next) :
    names.foldlM (tree.put route content).step other = .ok next := by
  induction names generalizing other with
  | nil => exact followed
  | cons name names ih =>
    rw [List.foldlM_cons] at followed ⊢
    cases stepped : tree.step other name with
    | error e =>
      rw [stepped] at followed
      cases followed
    | ok reached =>
      rw [stepped] at followed
      rw [step_put noFolder stepped]
      exact ih followed

/-- A path that leads somewhere leads there still. -/
theorem follow_put (noFolder : tree.item? route ≠ some .folder) {names : List String}
    (followed : tree.follow path names = .ok next) :
    (tree.put route content).follow path names = .ok next := by
  unfold follow at followed ⊢
  split at followed
  · cases followed
  split at followed
  · cases followed
  case isFalse notEmpty short =>
    rw [if_neg notEmpty, if_neg short]
    exact foldlM_step_put noFolder followed

/-! ## Reading what was written -/

/-- No device keeps the bytes that are written to it. -/
theorem sink_of_device {device : Device} (isDevice : devices.lookup route = some device) :
    device.sink ≠ .ok .file := by
  obtain ⟨before, after, split, -⟩ := List.lookup_eq_some_iff.mp isDevice
  have member : (route, device) ∈ devices := by simp [split]
  have all : ∀ entry ∈ devices, entry.2.sink ≠ .ok .file := by
    simp [devices, Device.null, Device.source, Device.full, Device.terminal, Device.stdin,
      Device.stdout, Device.stderr]
  exact all _ member

theorem follow_of_target (target : tree.target path = .ok route) :
    tree.follow path (namesOf path) = .ok route := by
  unfold FileTree.target at target
  cases followed : tree.follow path (targetNames path) with
  | error e =>
    rw [followed] at target
    cases target
  | ok reached =>
    rw [followed] at target
    simp only [bind, Except.bind] at target
    split at target
    case isTrue => cases target
    case isFalse noSlash =>
      cases target
      rw [targetNames, if_neg noSlash] at followed
      exact followed

/-- Bytes go to a file where the path leads to one, or where one can be made. -/
theorem exists_target (isFile : tree.sink path = .ok .file) :
    ∃ route, tree.target path = .ok route ∧ devices.lookup route = none ∧
      tree.item? route ≠ some .folder := by
  unfold sink at isFile
  cases target : tree.target path with
  | error e =>
    rw [target] at isFile
    cases isFile
  | ok route =>
    rw [target] at isFile
    simp only [bind, Except.bind] at isFile
    refine ⟨route, rfl, ?_, fun isFolder => ?_⟩
    · cases found : devices.lookup route with
      | none => rfl
      | some device =>
        have isDevice : tree.item? route = some (.device device) := by rw [item?, found]
        rw [isDevice] at isFile
        exact absurd isFile (sink_of_device found)
    · rw [isFolder] at isFile
      cases isFile

/-- What is written to a file is what its path gives when it is read. -/
theorem origin_write (isFile : tree.sink path = .ok .file) :
    (tree.write path content).origin path = .ok (.bytes content) := by
  obtain ⟨route, target, noDevice, noFolder⟩ := exists_target isFile
  have written : tree.write path content = tree.put route content := by
    rw [write, target]
    rfl
  rw [written, origin, follow_put noFolder (follow_of_target target)]
  simp only [bind, Except.bind, item?_put_self noDevice]

end TaskScript.FileTree
