import Backoffice.Files.Store
import Mathlib.Tactic.SplitIfs

/-!
# Reading what was written

A pathname is followed through directories only, so what it leads to does not change as
long as the directories stay where they are. Writing puts a file where no directory is,
and the pathname it was written to then leads to it, even if the disk gave up.

* `entry?_put`: what the paths of a store lead to after one of them has been put;
* `step_cases`: all that one name can lead to;
* `walk_mono`: names lead through any store that has the directories;
* `write_cases`: all that can come of writing, on any disk;
* `read_put_filePath`: what was written is read.
-/

namespace Backoffice

/-- Without the entries of one key, those of another are looked up as before. -/
theorem findSome?_filter_ne {κ α : Type} [DecidableEq κ] {entries : List (κ × α)} {j k : κ}
    (h : j ≠ k) :
    ((entries.filter fun e => e.1 ≠ k).findSome? fun e => if e.1 = j then some e.2 else none) =
      entries.findSome? fun e => if e.1 = j then some e.2 else none := by
  induction entries with
  | nil => rfl
  | cons e entries ih =>
    rw [List.filter_cons]
    by_cases he : e.1 = k
    · simp [he, ← ih, Ne.symm h]
    · simp only [ne_eq, he, not_false_eq_true, decide_true, if_true, List.findSome?_cons]
      rw [ih]

namespace Files

variable {files made : Files} {path here there working : Path} {name pathname : Text}
  {names : List Text} {entry : Entry} {e : Option Entry} {content : ByteArray}

/-! ### Entries -/

@[simp]
theorem entry?_nil : files.entry? [] = some .directory :=
  rfl

/-- A path that is put leads to what was put, and every other path where it led before. -/
theorem entry?_put (here : Path) (name : Text) (q : Path) :
    Files.entry? (files.put (here ++ [name]) entry) q =
      if q = here ++ [name] then some entry else files.entry? q := by
  unfold entry? put
  split_ifs with hn hq hq
  · -- The root is not put.
    rw [List.isEmpty_iff.1 hn] at hq
    exact absurd hq.symm (List.append_ne_nil_of_right_ne_nil _ (List.cons_ne_nil _ _))
  · rfl
  · rw [hq]
    simp
  · rw [List.findSome?_cons, if_neg (Ne.symm hq)]
    exact findSome?_filter_ne hq

/-! ### Following names -/

/-- A name that leads on: it is not made of dots, and not too long. -/
structure LeadsOn (name : Text) : Prop where
  ne_dot : name ≠ Pathname.dot
  ne_dots : name ≠ Pathname.dots
  octets_le : Text.octets name ≤ greatestName

theorem LeadsOn.step_eq (h : LeadsOn name) (files : Files) (here : Path) :
    files.step here name = .ok (here ++ [name], files.entry? (here ++ [name])) := by
  rw [step]
  rw [if_neg h.ne_dot, if_neg h.ne_dots, if_neg (Nat.not_lt_of_le h.octets_le)]

/-- A name stays, goes back, or leads on to what is there. -/
theorem step_cases (h : files.step here name = .ok (there, e)) :
    (name = Pathname.dot ∧ there = here ∧ e = some .directory) ∨
      (name = Pathname.dots ∧ there = here.dropLast ∧ e = some .directory) ∨
      (LeadsOn name ∧ there = here ++ [name] ∧ e = files.entry? there) := by
  rw [step] at h
  split_ifs at h with h1 h2 h3
  · cases h
    exact .inl ⟨h1, rfl, rfl⟩
  · cases h
    exact .inr (.inl ⟨h2, rfl, rfl⟩)
  · cases h
    exact .inr (.inr ⟨⟨h1, h2, Nat.le_of_not_lt h3⟩, rfl, rfl⟩)

/-- A name leads to the same in a store that has the same there. -/
theorem step_congr (h : files.step here name = .ok (there, e))
    (he : files.entry? (here ++ [name]) = e → made.entry? (here ++ [name]) = e) :
    made.step here name = .ok (there, e) := by
  rcases step_cases h with ⟨rfl, rfl, rfl⟩ | ⟨rfl, rfl, rfl⟩ | ⟨hl, rfl, hq⟩
  · rfl
  · rfl
  · rw [hl.step_eq, he hq.symm]

theorem walk_cons : files.walk here (name :: names) = .ok there ↔
    ∃ next, files.step here name = .ok (next, some .directory) ∧
      files.walk next names = .ok there := by
  rw [walk]
  cases hs : files.step here name with
  | error fault => simp
  | ok p =>
    obtain ⟨next, _ | content | _⟩ := p
    · simp
    · simp
    · simp

/-- Every directory of `files` is one of `made`. -/
def KeepsDirectories (files made : Files) : Prop :=
  ∀ path, files.entry? path = some .directory → made.entry? path = some .directory

theorem walk_mono (hk : KeepsDirectories files made) (h : files.walk here names = .ok there) :
    made.walk here names = .ok there := by
  induction names generalizing here with
  | nil => exact h
  | cons name names ih =>
    obtain ⟨next, hs, hw⟩ := walk_cons.1 h
    exact walk_cons.2 ⟨next, step_congr hs (hk _), ih hw⟩

/-- A pathname that the files can be asked for at all: not empty, not too long and without
    a NUL. -/
def Nameable (pathname : Text) : Prop :=
  '\x00' ∉ pathname ∧ Text.octets pathname ≤ greatestPathname ∧ pathname ≠ []

theorem approach_eq_ok : files.approach working pathname = .ok (here, name) ↔
    Nameable pathname ∧
      files.walk (Pathname.start working pathname) (Pathname.names pathname).dropLast = .ok here ∧
      name = (Pathname.names pathname).getLast?.getD Pathname.dot := by
  rw [approach]
  split_ifs with h1 h2 h3
  · exact ⟨nofun, fun h => absurd (List.contains_iff_mem.1 h1) h.1.1⟩
  · exact ⟨nofun, fun h => absurd h.1.2.1 (Nat.not_le_of_lt h2)⟩
  · exact ⟨nofun, fun h => absurd (List.isEmpty_iff.1 h3) h.1.2.2⟩
  · have hn : Nameable pathname :=
      ⟨fun h => h1 (List.contains_iff_mem.2 h), Nat.le_of_not_lt h2, fun h => h3 (by rw [h]; rfl)⟩
    simp only [hn, true_and]
    cases files.walk (Pathname.start working pathname) (Pathname.names pathname).dropLast with
    | error fault => simp [Except.map]
    | ok next => simp [Except.map, eq_comm]

theorem approach_mono (hk : KeepsDirectories files made)
    (h : files.approach working pathname = .ok (here, name)) :
    made.approach working pathname = .ok (here, name) := by
  obtain ⟨hn, hw, hl⟩ := approach_eq_ok.1 h
  exact approach_eq_ok.2 ⟨hn, walk_mono hk hw, hl⟩

/-! ### Files by their pathnames -/

/-- A pathname leads to a file if its last name does, and no slash follows. -/
theorem find_eq_file : files.find working pathname = .ok (.file content) ↔
    Pathname.endsInSlash pathname = false ∧
      ∃ here name there, files.approach working pathname = .ok (here, name) ∧
        files.step here name = .ok (there, some (.file content)) := by
  constructor
  · intro h
    rw [find] at h
    split at h
    · cases h
    · next here name ha =>
      split at h
      · cases h
      · cases h
      · cases h
      · next there content' hs =>
        split_ifs at h with hl
        cases h
        exact ⟨Bool.eq_false_iff.2 hl, here, name, there, ha, hs⟩
  · rintro ⟨hl, here, name, there, ha, hs⟩
    simp [find, ha, hs, hl]

/-- A file is written where its last name leads, unless that is a directory. -/
theorem filePath_eq_ok : files.filePath working pathname = .ok path ↔
    Pathname.endsInSlash pathname = false ∧
      ∃ here name e, files.approach working pathname = .ok (here, name) ∧
        files.step here name = .ok (path, e) ∧ e ≠ some .directory := by
  constructor
  · intro h
    rw [filePath] at h
    split at h
    · cases h
    · next here name ha =>
      split_ifs at h with hl
      split at h
      · cases h
      · cases h
      · next there e hd hs =>
        cases h
        exact ⟨Bool.eq_false_iff.2 hl, here, name, e, ha, hs, fun he => hd he⟩
  · rintro ⟨hl, here, name, e, ha, hs, he⟩
    rw [filePath]
    simp only [ha, hl, hs]
    cases e with
    | none => rfl
    | some entry =>
      cases entry with
      | file content => rfl
      | directory => exact absurd rfl he

/-- The file of a pathname lies where a name leads on, in a directory that is there. -/
theorem filePath_cases (h : files.filePath working pathname = .ok path) :
    Pathname.endsInSlash pathname = false ∧
      ∃ here name, files.approach working pathname = .ok (here, name) ∧ LeadsOn name ∧
        files.entry? (here ++ [name]) ≠ some .directory ∧ path = here ++ [name] := by
  obtain ⟨hl, here, name, e, ha, hs, he⟩ := filePath_eq_ok.1 h
  rcases step_cases hs with ⟨-, -, hd⟩ | ⟨-, -, hd⟩ | ⟨hn, rfl, rfl⟩
  · exact absurd hd he
  · exact absurd hd he
  · exact ⟨hl, here, name, ha, hn, he, rfl⟩

/-- Putting something where no directory is leaves the directories where they are. -/
theorem keepsDirectories_put (h : files.entry? (here ++ [name]) ≠ some .directory) :
    KeepsDirectories files (files.put (here ++ [name]) entry) := by
  intro q hq
  have hne : q ≠ here ++ [name] := fun he => h (he ▸ hq)
  rw [entry?_put, if_neg hne]
  exact hq

/-- Whatever is put where the file of a pathname lies, the directories stay. -/
theorem keepsDirectories_put_filePath (h : files.filePath working pathname = .ok path) :
    KeepsDirectories files (files.put path entry) := by
  obtain ⟨-, here, name, -, -, he, rfl⟩ := filePath_cases h
  exact keepsDirectories_put he

/-- A pathname leads to the file that was put where its file lies. -/
theorem find_put_filePath (h : files.filePath working pathname = .ok path) :
    (files.put path (.file content)).find working pathname = .ok (.file content) := by
  have hk : KeepsDirectories files (files.put path (.file content)) :=
    keepsDirectories_put_filePath h
  obtain ⟨hl, here, name, ha, hn, -, rfl⟩ := filePath_cases h
  refine find_eq_file.2 ⟨hl, here, name, here ++ [name], approach_mono hk ha, ?_⟩
  rw [hn.step_eq, entry?_put, if_pos rfl]

/-! ### Writing -/

/-- A disk that gives up at a path before it has taken all of the octets. -/
def GivesUp (disk : Disk) (path : Path) (octets : ByteArray) (room : Nat) (cause : Text) : Prop :=
  disk.room? path = some (room, cause) ∧ room < octets.size

/-- Nothing happens if a file cannot be opened. Else the text is put where the pathname leads, or
    a beginning of it if the disk gives up. -/
theorem write_cases (files : Files) (working : Path) (pathname t : Text) (disk : Disk) :
    (∃ fault, files.write working pathname t disk = (.error fault, files)) ∨
      ∃ path, files.filePath working pathname = .ok path ∧
        (files.write working pathname t disk =
            (.ok (), files.put path (.file (Text.toOctets t))) ∨
          ∃ room cause, GivesUp disk path (Text.toOctets t) room cause ∧
            files.write working pathname t disk =
              (.error (.disk cause), files.put path (.file ((Text.toOctets t).extract 0 room)))) := by
  rw [write]
  cases files.filePath working pathname with
  | error fault => exact .inl ⟨fault, rfl⟩
  | ok path =>
    cases hn : disk.noFile? path with
    | some cause => exact .inl ⟨.disk cause, by simp only [hn]⟩
    | none =>
      refine .inr ⟨path, rfl, ?_⟩
      simp only [hn, fill]
      cases hr : disk.room? path with
      | none => exact .inl rfl
      | some r =>
        obtain ⟨room, cause⟩ := r
        by_cases hs : room < (Text.toOctets t).size
        · exact .inr ⟨room, cause, ⟨hr, hs⟩, by simp only [hs, if_true]⟩
        · exact .inl (by simp only [hs, if_false])

/-- A sound disk takes every text. -/
theorem write_sound (h : files.filePath working pathname = .ok path) (t : Text) :
    files.write working pathname t = (.ok (), files.put path (.file (Text.toOctets t))) := by
  rw [write, h]
  rfl

/-- Where a file leads to, another can be written. -/
theorem exists_filePath_of_find (h : files.find working pathname = .ok (.file content)) :
    ∃ path, files.filePath working pathname = .ok path := by
  obtain ⟨hl, here, name, there, ha, hs⟩ := find_eq_file.1 h
  exact ⟨there, filePath_eq_ok.2 ⟨hl, here, name, _, ha, hs, nofun⟩⟩

/-- The text of a file that was put where the pathname leads is read. -/
theorem read_put_filePath (h : files.filePath working pathname = .ok path) (t : Text) :
    (files.put path (.file (Text.toOctets t))).read working pathname = .ok (some t) := by
  rw [read]
  rw [find_put_filePath h]
  simp only [Text.ofOctets?_toOctets]

end Files

end Backoffice
