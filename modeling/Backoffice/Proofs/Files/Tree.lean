import Backoffice.Proofs.Files.Directories

/-!
# Stores that are trees

The entries of a store could be anything, but those of files on a disk form a tree: what
there is lies in directories. A tree stays one, whatever is made and written in it. In a
tree, a pathname that never goes back leads through the directories around its file and
no others, so making directories does not give it a file that it did not lead to.

* `Tree.of_made`, `Tree.put_filePath`: what comes of a tree is a tree;
* `Made.find_eq_of_eq_ok`: a pathname leads to what it led to before;
* `Made.find_eq_file_iff`: and to no other file, if it never goes back.
-/

namespace Backoffice.Files

variable {files made : Files} {path here there working : Path} {name pathname : Text}
  {names : List Text} {entry : Entry} {content : ByteArray}

/-- What there is lies in directories, and the working directory exists. -/
structure Tree (working : Path) (files : Files) : Prop where
  entry?_working : files.entry? working = some .directory
  entry?_around : ∀ path name, files.entry? (path ++ [name]) ≠ none →
    files.entry? path = some .directory

namespace Tree

/-- Around a directory there are directories only. -/
theorem entry?_outward (ht : Tree working files) (hp : path <+: there)
    (h : files.entry? there = some .directory) : files.entry? path = some .directory := by
  -- One name after the other, from the outside in.
  obtain ⟨rest, rfl⟩ := hp
  induction rest generalizing path with
  | nil => rwa [List.append_nil] at h
  | cons name rest ih =>
    have hn : files.entry? (path ++ [name]) = some .directory := by
      refine ih ?_
      rwa [List.append_assoc]
    exact ht.entry?_around path name (by rw [hn]; exact nofun)

/-- Names lead to a directory, even where they go back. -/
theorem entry?_walk (ht : Tree working files) (hh : files.entry? here = some .directory)
    (h : files.walk here names = .ok there) : files.entry? there = some .directory := by
  induction names generalizing here with
  | nil =>
    cases h
    exact hh
  | cons name names ih =>
    obtain ⟨next, hs, hw⟩ := walk_cons.1 h
    refine ih ?_ hw
    rcases step_cases hs with ⟨-, rfl, -⟩ | ⟨-, rfl, -⟩ | ⟨-, -, he⟩
    · exact hh
    · -- Two dots lead to the directory around this one, which is one in a tree.
      exact ht.entry?_outward (List.dropLast_prefix _) hh
    · exact he.symm

theorem entry?_approach (ht : Tree working files)
    (h : files.approach working pathname = .ok (here, name)) :
    files.entry? here = some .directory := by
  obtain ⟨-, hw, -⟩ := approach_eq_ok.1 h
  refine ht.entry?_walk ?_ hw
  rw [Pathname.start]
  split_ifs
  · exact entry?_nil
  · exact ht.entry?_working

/-! ### What comes of a tree -/

/-- Something may be put into a directory wherever that is not a directory itself. -/
theorem put (ht : Tree working files) (hh : files.entry? here = some .directory)
    (hn : files.entry? (here ++ [name]) ≠ some .directory) :
    Tree working (files.put (here ++ [name]) entry) := by
  have hk : KeepsDirectories files (files.put (here ++ [name]) entry) := keepsDirectories_put hn
  refine ⟨hk _ ht.entry?_working, fun path name' hp => hk _ ?_⟩
  rw [entry?_put] at hp
  split_ifs at hp with he
  · rwa [(List.append_inj' he rfl).1]
  · exact ht.entry?_around path name' hp

theorem makeDirectory {disk : Disk} (ht : Tree working files)
    (h : files.makeDirectory working pathname disk = .ok made) : Tree working made := by
  obtain ⟨here, name, ha, -, he, -, rfl⟩ := makeDirectory_eq_ok.1 h
  exact ht.put (ht.entry?_approach ha) (by rw [he]; exact nofun)

/-- A tree in which directories are made stays a tree. -/
theorem of_made (ht : Tree working files) (h : Made working files made) : Tree working made := by
  induction h with
  | none => exact ht
  | one _ hm ih => exact ih.makeDirectory hm

/-- A tree in which a file is written stays a tree. -/
theorem put_filePath (ht : Tree working files) (h : files.filePath working pathname = .ok path) :
    Tree working (files.put path entry) := by
  obtain ⟨-, here, name, ha, -, he, rfl⟩ := filePath_cases h
  exact ht.put (ht.entry?_approach ha) he

end Tree

/-! ### What a pathname leads to after directories have been made -/

/-- A pathname leads to what it led to before. -/
theorem Made.find_eq_of_eq_ok (h : Made working files made)
    (hf : files.find working pathname = .ok entry) : made.find working pathname = .ok entry := by
  have hk := h.keepsDirectories
  cases entry with
  | file content =>
    obtain ⟨hl, here, name, there, ha, hs⟩ := find_eq_file.1 hf
    refine find_eq_file.2 ⟨hl, here, name, there, approach_mono hk ha, ?_⟩
    exact step_congr hs h.entry?_eq_file.2
  | directory =>
    obtain ⟨here, name, there, ha, hs⟩ := find_eq_directory.1 hf
    exact find_eq_directory.2 ⟨here, name, there, approach_mono hk ha, step_congr hs (hk _)⟩

/-- Names that never go back lead further and further in. -/
theorem walk_inward (hd : Pathname.dots ∉ names) (h : files.walk here names = .ok there) :
    here <+: there := by
  induction names generalizing here with
  | nil =>
    cases h
    exact List.prefix_rfl
  | cons name names ih =>
    obtain ⟨next, hs, hw⟩ := walk_cons.1 h
    have hp : next <+: there := ih (fun hm => hd (List.mem_cons_of_mem _ hm)) hw
    rcases step_cases hs with ⟨-, rfl, -⟩ | ⟨rfl, -, -⟩ | ⟨-, rfl, -⟩
    · exact hp
    · exact absurd List.mem_cons_self hd
    · exact (List.prefix_append _ _).trans hp

/-- Names that never go back, and lead to a directory of the tree in what was made, led
    there before. -/
theorem Tree.walk_of_walk (ht : Tree working files) (hd : Pathname.dots ∉ names)
    (he : files.entry? there = some .directory) (h : made.walk here names = .ok there) :
    files.walk here names = .ok there := by
  induction names generalizing here with
  | nil => exact h
  | cons name names ih =>
    obtain ⟨next, hs, hw⟩ := walk_cons.1 h
    have hd' : Pathname.dots ∉ names := fun hm => hd (List.mem_cons_of_mem _ hm)
    rcases step_cases hs with ⟨rfl, rfl, -⟩ | ⟨rfl, -, -⟩ | ⟨hl, rfl, -⟩
    · exact walk_cons.2 ⟨next, rfl, ih hd' hw⟩
    · exact absurd List.mem_cons_self hd
    · -- What lies here is around the end of the walk, and so was a directory before.
      refine walk_cons.2 ⟨here ++ [name], ?_, ih hd' hw⟩
      rw [hl.step_eq, ht.entry?_outward (walk_inward hd' hw) he]

/-- A pathname that never goes back leads to the files that it led to before, and to no
    other. -/
theorem Made.find_eq_file_iff (h : Made working files made) (ht : Tree working files)
    (hd : Pathname.dots ∉ Pathname.names pathname) :
    made.find working pathname = .ok (.file content) ↔
      files.find working pathname = .ok (.file content) := by
  refine ⟨fun hf => ?_, h.find_eq_of_eq_ok⟩
  obtain ⟨hl, here, name, there, ha, hs⟩ := find_eq_file.1 hf
  rcases step_cases hs with ⟨-, -, he⟩ | ⟨-, -, he⟩ | ⟨hn, rfl, he⟩
  · cases he
  · cases he
  -- The file was there before, and so were the directories around it.
  have he' : files.entry? (here ++ [name]) = some (.file content) := h.entry?_eq_file.1 he.symm
  have hh : files.entry? here = some .directory :=
    ht.entry?_around here name (by rw [he']; exact nofun)
  obtain ⟨hp, hw, hl'⟩ := approach_eq_ok.1 ha
  refine find_eq_file.2 ⟨hl, here, name, here ++ [name], approach_eq_ok.2 ⟨hp, ?_, hl'⟩, ?_⟩
  · exact ht.walk_of_walk (fun hm => hd ((List.dropLast_prefix _).subset hm)) hh hw
  · rw [hn.step_eq, he']

end Backoffice.Files
