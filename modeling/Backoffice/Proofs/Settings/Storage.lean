import Backoffice.Proofs.Files.Tree
import Backoffice.Proofs.Settings.Changes
import Backoffice.Settings.Storage

/-!
# Settings kept in a file

Saving first makes directories and then writes, and writing is what may be refused for
the settings themselves: no document holds a size of `2 ^ 63` or more. Everything else
that a key accepts can be saved wherever a file can be written.

* `save_cases`: all that can come of saving, on any disk;
* `load_save`: what was saved is loaded;
* `save_eq_ok_iff`: which settings are saved, and where;
* `save_set_eq_ok_iff`: which changes are saved, of settings that were saved before.
-/

namespace Backoffice.Settings

open Files

variable {s changed : Settings} {files later : Files} {working : Path} {pathname key value : Text}
  {disk disk' : Disk}

/-! ### The directories of the file -/

/-- Nothing but directories is made for a file. -/
theorem made_prepare : Made working files (prepare files working pathname disk).2 := by
  rw [prepare]
  split
  · exact .none
  · exact made_makeBack

/-- Directories that have been made for a file need not be made again. -/
theorem prepare_again (h : (prepare files working pathname disk).1 = .ok ())
    (hk : KeepsDirectories (prepare files working pathname disk).2 later) :
    prepare later working pathname disk' = (.ok (), later) := by
  rw [prepare] at h hk ⊢
  cases ht : (Pathname.trail pathname).parent? with
  | none => rfl
  | some trail =>
    simp only [ht] at h hk ⊢
    have hb : (files.makeDirectories working trail disk).1 = .ok () := by
      cases hm : (files.makeDirectories working trail disk).1 with
      | ok => rfl
      | error fault =>
        rw [hm] at h
        cases h
    have ha : later.makeDirectories working trail disk' = (.ok (), later) := makeBack_again hb hk
    rw [ha]
    rfl

/-- Nothing about the files stands in the way of saving to a pathname on a sound disk: its
    directories can be made, and it does not lead to a directory then. -/
def Placeable (files : Files) (working : Path) (pathname : Text) : Prop :=
  (prepare files working pathname).1 = .ok () ∧
    ∃ path, (prepare files working pathname).2.filePath working pathname = .ok path

/-! ### Saving -/

/-- Settings are saved by writing them, once the directories have been made. Where they are not
    saved, no more has happened than that, unless the disk gave up: then the file has a beginning
    of what is written of them. -/
theorem save_cases (s : Settings) (files : Files) (working : Path) (pathname : Text) (disk : Disk) :
    let made := (prepare files working pathname disk).2
    (∃ e, s.save files working pathname disk = (.error e, made)) ∨
      ∃ t path, (prepare files working pathname disk).1 = .ok () ∧ s.write = some t ∧
        made.filePath working pathname = .ok path ∧
          (s.save files working pathname disk =
              (.ok (), made.put path (.file (Text.toOctets t))) ∨
            ∃ room cause, GivesUp disk path (Text.toOctets t) room cause ∧
              s.save files working pathname disk = (.error (.fileAccess pathname cause),
                made.put path (.file ((Text.toOctets t).extract 0 room)))) := by
  rw [save]
  cases hp : prepare files working pathname disk with
  | mk result made =>
    cases result with
    | error e => exact .inl ⟨e, rfl⟩
    | ok =>
      cases hs : s.write with
      | none => exact .inl ⟨_, rfl⟩
      | some t =>
        dsimp only
        rcases write_cases made working pathname t disk
          with ⟨fault, hw⟩ | ⟨path, hf, hw | ⟨room, cause, hg, hw⟩⟩
        · rw [hw]
          exact .inl ⟨.fileAccess pathname fault.message, rfl⟩
        · rw [hw]
          exact .inr ⟨t, path, rfl, rfl, hf, .inl rfl⟩
        · rw [hw]
          exact .inr ⟨t, path, rfl, rfl, hf, .inr ⟨room, cause, hg, rfl⟩⟩

/-- Settings that are saved have been written where the pathname leads. -/
theorem of_save_eq_ok (h : (s.save files working pathname disk).1 = .ok ()) :
    let made := (prepare files working pathname disk).2
    ∃ t path, (prepare files working pathname disk).1 = .ok () ∧ s.write = some t ∧
      made.filePath working pathname = .ok path ∧
        s.save files working pathname disk = (.ok (), made.put path (.file (Text.toOctets t))) := by
  rcases save_cases s files working pathname disk
    with ⟨e, he⟩ | ⟨t, path, hp, hs, hf, hv | ⟨room, cause, -, he⟩⟩
  · rw [he] at h
    cases h
  · exact ⟨t, path, hp, hs, hf, hv⟩
  · rw [he] at h
    cases h

/-- Settings are saved unless the files are in the way, or their size is too large. -/
theorem save_eq_ok_iff : (s.save files working pathname).1 = .ok () ↔
    Placeable files working pathname ∧ s.Writable := by
  constructor
  · intro h
    obtain ⟨t, path, hp, hs, hf, -⟩ := of_save_eq_ok h
    exact ⟨⟨hp, path, hf⟩, write_isSome_iff.1 (by rw [hs]; rfl)⟩
  · rintro ⟨⟨hp, path, hf⟩, hs⟩
    -- The directories can be made, a text can be written of the settings, and a file put.
    have hp' : prepare files working pathname = (.ok (), (prepare files working pathname).2) :=
      Prod.ext hp rfl
    rw [save, hp']
    simp only [write_eq_some hs, write_sound hf]
    rfl

/-- Saved settings are loaded from the pathname they were saved to. -/
theorem load_of_put {t : Text} {path : Path} (hs : s.write = some t)
    (hf : files.filePath working pathname = .ok path) :
    load (files.put path (.file (Text.toOctets t))) working pathname = .ok s := by
  rw [load, read_put_filePath hf]
  simp only [read_of_write hs]

/-- What was saved is loaded, whatever the settings and wherever they are kept. -/
theorem load_save (h : (s.save files working pathname disk).1 = .ok ()) :
    load (s.save files working pathname disk).2 working pathname = .ok s := by
  obtain ⟨t, path, -, hs, hf, hv⟩ := of_save_eq_ok h
  rw [hv]
  exact load_of_put hs hf

/-- Quotes of both kinds in threes, control characters and line breaks are loaded, as are
    the greatest size and a type that is empty. -/
theorem load_save_quotes :
    let s : Settings :=
      ⟨some "'''\"\"\"\\\r\n\t\u0000", some 9223372036854775807, some [[], "\n'"]⟩
    (s.save .empty [] "new/config.toml").1 = .ok () ∧
      load (s.save .empty [] "new/config.toml").2 [] "new/config.toml" = .ok s :=
  ⟨rfl, load_save rfl⟩

/-! ### Saving what was changed -/

/-- A size that the key accepts, though no document holds it. -/
def TooLarge (key value : Text) : Prop :=
  key = Key.maxUploadBytes.name ∧ ∃ n, Numeral.size? value = .ok n ∧ greatestWritten < n.toNat

/-- A change keeps settings such that they can be written, unless it is that of the size to
    one that is too large. -/
theorem writable_set_iff (h : s.set key value = .ok changed) (hs : s.Writable) :
    changed.Writable ↔ ¬ TooLarge key value := by
  obtain ⟨k, v, rfl, hv, rfl⟩ := set_eq_ok_iff.1 h
  by_cases hk : k = .maxUploadBytes
  · subst hk
    have hn : Numeral.size? value = .ok v := by
      cases hn : Numeral.size? value with
      | error fault => simp [Key.value?, hn, Except.toOption] at hv
      | ok n => simpa [Key.value?, hn, Except.toOption] using hv
    constructor
    · rintro hw ⟨-, m, hm, hlt⟩
      rw [hn] at hm
      cases hm
      exact Nat.not_le_of_lt hlt (hw v rfl)
    · rintro ht m hm
      cases hm
      exact Nat.le_of_not_lt fun hlt => ht ⟨rfl, v, hn, hlt⟩
  · -- Another key leaves the size as it is, which could be written before.
    have hs' : (s.put k v).chosenMaxBytes = s.chosenMaxBytes := get_put_of_ne (Ne.symm hk) v
    refine iff_of_true (fun n hn => hs n (hs' ▸ hn)) fun ht => hk (Key.name_inj.1 ht.1)

/-- Where settings were saved, others can be saved. -/
theorem placeable_of_save (h : (s.save files working pathname disk).1 = .ok ()) :
    Placeable (s.save files working pathname disk).2 working pathname := by
  obtain ⟨t, path, hp, -, hf, hv⟩ := of_save_eq_ok h
  -- The directories are there now, and where a file leads to another can be written.
  have ha : prepare (s.save files working pathname disk).2 working pathname =
      (.ok (), (s.save files working pathname disk).2) := by
    rw [hv]
    exact prepare_again hp (keepsDirectories_put_filePath hf)
  rw [Placeable, ha, hv]
  exact ⟨rfl, exists_filePath_of_find (find_put_filePath hf)⟩

/-- Of settings that were saved, every change that is accepted can be saved where they were
    and wherever else nothing about the files stands in the way, unless it is that of the
    size to one that is too large. -/
theorem save_set_eq_ok_iff (hs : (s.save files working pathname).1 = .ok ())
    (hc : s.set key value = .ok changed) :
    ((changed.save (s.save files working pathname).2 working pathname).1 = .ok () ↔
        ¬ TooLarge key value) ∧
      ∀ others around elsewhere, Placeable others around elsewhere →
        ((changed.save others around elsewhere).1 = .ok () ↔ ¬ TooLarge key value) := by
  have hw := writable_set_iff hc (save_eq_ok_iff.1 hs).2
  refine ⟨?_, fun others around elsewhere hp => ?_⟩
  · rw [save_eq_ok_iff, hw]
    exact and_iff_right (placeable_of_save hs)
  · rw [save_eq_ok_iff, hw]
    exact and_iff_right hp

/-- The greatest size that a document holds is saved. -/
theorem save_set_greatest :
    let changed : Settings := ⟨none, some 9223372036854775807, none⟩
    (blank.save .empty [] "config.toml").1 = .ok () ∧
      blank.set Key.maxUploadBytes.name "9223372036854775807" = .ok changed ∧
        (changed.save (blank.save .empty [] "config.toml").2 [] "config.toml").1 = .ok () := by
  have hc : blank.set Key.maxUploadBytes.name "9223372036854775807" =
    .ok ⟨none, some 9223372036854775807, none⟩ := rfl
  refine ⟨rfl, hc, (save_set_eq_ok_iff rfl hc).1.2 ?_⟩
  rintro ⟨-, n, hn, hlt⟩
  cases hn
  exact absurd hlt (by decide)

/-- One more is accepted, but not saved, although the files are no hindrance. -/
theorem save_set_too_large :
    let changed : Settings := ⟨none, some 9223372036854775808, none⟩
    let saved := (blank.save .empty [] "config.toml").2
    (blank.save .empty [] "config.toml").1 = .ok () ∧
      blank.set Key.maxUploadBytes.name "9223372036854775808" = .ok changed ∧
        Placeable saved [] "config.toml" ∧
          (changed.save saved [] "config.toml").1 =
            .error (.unreadable
              "Failed to serialize config: out-of-range value for u64 type") :=
  ⟨rfl, rfl, ⟨rfl, ["config.toml"], rfl⟩, rfl⟩

end Backoffice.Settings
