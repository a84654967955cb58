import Backoffice.Proofs.Desk.Session
import Backoffice.Proofs.Files.Content

/-!
# Commands that fail

A command that fails has printed nothing and changed nothing, with two exceptions. A setting that
was accepted but could not be saved is at hand all the same, and some directories on the way to
the file may have been made. And if the disk gave up while the file was written, it has a
beginning of what was to be written. No other file has come, gone or changed.

* `printed_of_failed`: what was printed;
* `made_or_cutOff`: what has become of the files;
* `carryOut_failed`: what has become of the desk, in the course of any session.
-/

namespace Backoffice.Desk

open Files

variable {around : Surroundings} {desk first : Desk} {command : Command} {e : Failure}
  {commands : List Command} {files : Files} {pathname : Text} {disk : Disk} {disks : List Disk}

/-! ### What was printed -/

/-- The disk gave up on the file of the settings. The file has as much of what was to be written as
    there was room for, and every other file is as it was. -/
def CutOff (around : Surroundings) (desk : Desk) (command : Command) (disk : Disk) (e : Failure)
    (after : Files) : Prop :=
  ∃ made t path room cause, Reaches around desk command made t path ∧
    GivesUp disk path (Text.toOctets t) room cause ∧
      e = .storage (.fileAccess desk.pathname cause) ∧
        after.filePath around.working desk.pathname = .ok path ∧
          after.content? path = some ((Text.toOctets t).extract 0 room) ∧
            ∀ other, other ≠ path → after.content? other = desk.files.content? other

/-- Where a command fails, no more than directories has been made, unless the disk gave up. -/
theorem made_or_cutOff (h : (desk.carryOut around command disk).value.ending = .error e) :
    let after := (desk.carryOut around command disk).value.desk.files
    Made around.working desk.files after ∨ CutOff around desk command disk e after := by
  intro after
  rcases files_carryOut_cases around desk command disk
    with hm | ⟨made, t, path, hr, ⟨he, -⟩ | ⟨room, cause, hg, he, hf⟩⟩
  · exact .inl hm
  · rw [he] at h
    cases h
  · rw [he] at h
    obtain ⟨hp, -, hothers⟩ :=
      content?_put_filePath hr.filePath ((Text.toOctets t).extract 0 room)
    refine .inr ⟨made, t, path, room, cause, hr, hg, (Except.error.inj h).symm, ?_, ?_, ?_⟩
    · rw [show after = _ from hf]
      exact hp
    · rw [show after = _ from hf]
      exact content?_put_self hr.filePath
    · intro other ho
      rw [show after = _ from hf, hothers other ho, hr.directories.content?_eq]

/-- The files at a desk stay a tree. -/
theorem tree_carryOut (desk : Desk) (command : Command) (disk : Disk)
    (h : Tree around.working desk.files) :
    Tree around.working (desk.carryOut around command disk).value.desk.files := by
  rcases files_carryOut_cases around desk command disk
    with hm | ⟨made, t, path, hr, ⟨-, hf⟩ | ⟨room, cause, -, -, hf⟩⟩
  · exact h.of_made hm
  all_goals
    rw [hf]
    exact (h.of_made hr.directories).put_filePath hr.filePath

/-! ### In the course of a session -/

/-- A command that fails in the course of a session leaves the settings at hand as they are,
    unless it changes one that is accepted and not saved: then that is at hand. Every path that
    led to a file leads to it, and no other path leads to a file. The pathname of the
    settings leads to what it led to, if to anything; and to no file that it did not lead to,
    if the files were a tree in the beginning and the pathname never goes back. Only if the disk
    gives up is there one file that has been cut off. -/
theorem carryOut_failed (ho : opened around.working files pathname = .ok first)
    (hr : (run around first commands disks).2 = desk)
    (he : (desk.carryOut around command disk).value.ending = .error e) :
    let after := (desk.carryOut around command disk).value.desk
    (after = desk ∨ ∃ key value changed fault, command = .setSetting key value ∧
      desk.settings.set key value = .ok changed ∧
        (changed.save desk.files around.working pathname disk).1 = .error fault ∧
          e = .storage fault ∧ after.settings = changed) ∧
    (CutOff around desk command disk e after.files ∨
      (∀ path content, after.files.entry? path = some (.file content) ↔
        desk.files.entry? path = some (.file content)) ∧
      (∀ entry, desk.files.find around.working pathname = .ok entry →
        after.files.find around.working pathname = .ok entry) ∧
      (Tree around.working files → Pathname.dots ∉ Pathname.names pathname →
        ∀ content, after.files.find around.working pathname = .ok (.file content) ↔
          desk.files.find around.working pathname = .ok (.file content))) := by
  intro after
  obtain ⟨-, hfiles, hpathname⟩ := opened_eq_ok.1 ho
  have hp : desk.pathname = pathname := by
    rw [← hr]
    exact run_induction (motive := fun desk => desk.pathname = pathname)
      (fun desk command disk h => pathname_carryOut.trans h) hpathname
  refine ⟨?_, ?_⟩
  · cases ha : desk.accepted? command with
    | none => exact .inl (desk_carryOut_of_none ha)
    | some changed =>
      obtain ⟨key, value, hc, hs⟩ := accepted?_eq_some.1 ha
      rw [ending_carryOut_of_some ha, hp] at he
      have hafter : after.settings = changed := by
        rw [show after = _ from desk_carryOut_of_some ha]
      cases hv : (changed.save desk.files around.working pathname disk).1 with
      | ok =>
        rw [hv] at he
        cases he
      | error fault =>
        rw [hv] at he
        exact .inr ⟨key, value, changed, fault, hc, hs, hv, (Except.error.inj he).symm, hafter⟩
  · rcases made_or_cutOff he with hm | hcut
    · refine .inr ⟨fun path content => hm.entry?_eq_file, fun entry => hm.find_eq_of_eq_ok,
        fun ht hd content => hm.find_eq_file_iff ?_ hd⟩
      rw [← hr]
      exact run_induction tree_carryOut (hfiles ▸ ht)
    · exact .inl hcut

/-- A size that is too large for the file is not saved, and the file is as it was. -/
theorem carryOut_failed_too_large :
    let around : Surroundings := ⟨.empty, []⟩
    let first : Desk := ⟨.blank, "config.toml", .empty⟩
    let desk := (run around first [.setSetting "placeholder" ":n"]).2
    let command : Command := .setSetting "max_upload_bytes" "9223372036854775808"
    let outcome := (desk.carryOut around command).value
    opened [] .empty "config.toml" = .ok first ∧
      outcome.ending = .error (.storage (.unreadable
        "Failed to serialize config: out-of-range value for u64 type")) ∧
      ∀ content, outcome.desk.files.find [] "config.toml" = .ok (.file content) ↔
        desk.files.find [] "config.toml" = .ok (.file content) := by
  intro around first desk command outcome
  have ho : opened around.working .empty "config.toml" = .ok first := rfl
  have he : outcome.ending = .error (.storage (.unreadable
    "Failed to serialize config: out-of-range value for u64 type")) := rfl
  have ht : Tree [] .empty := by
    refine ⟨rfl, fun path name h => absurd ?_ h⟩
    cases path <;> rfl
  rcases (carryOut_failed ho rfl he).2 with ⟨_, _, _, _, _, -, ⟨hroom, -⟩, -⟩ | ⟨-, -, hkept⟩
  · cases hroom
  · exact ⟨ho, he, hkept ht (by decide)⟩

/-- But it is at hand; where the pathname of the file goes back from a directory that was missing,
    it now leads to a file that it did not lead to; and a disk that gives up leaves of the file what
    there was room for. -/
theorem carryOut_failed_not_undone :
    let around : Surroundings := ⟨.empty, []⟩
    let command : Command := .setSetting "max_upload_bytes" "9223372036854775808"
    let plain : Desk := ⟨.blank, "config.toml", .empty⟩
    let text : Text := "placeholder = \":n\"\n"
    let files : Files := ⟨[(["config.toml"], .file (Text.toOctets text))]⟩
    let back : Desk := ⟨.blank, "new/../config.toml", files⟩
    let e : Failure :=
      .storage (.unreadable "Failed to serialize config: out-of-range value for u64 type")
    let kept : Desk := ⟨⟨some ":n", none, none⟩, "config.toml", files⟩
    let cause : Text := "No space left on device (os error 28)"
    let full : Disk := { Disk.sound with room? := fun _ => some (3, cause) }
    let cut := (kept.carryOut around (.setSetting "placeholder" ":x") full).value
    (opened [] plain.files plain.pathname = .ok plain ∧
      (plain.carryOut around command).value.ending = .error e ∧
      (plain.carryOut around command).value.desk.settings ≠ plain.settings) ∧
    (opened [] back.files back.pathname = .ok back ∧
      (back.carryOut around command).value.ending = .error e ∧
      back.files.read [] back.pathname = .ok none ∧
      (back.carryOut around command).value.desk.files.read [] back.pathname = .ok (some text)) ∧
    (opened [] kept.files kept.pathname = .ok kept ∧
      cut.ending = .error (.storage (.fileAccess "config.toml" cause)) ∧
      cut.desk.files.content? ["config.toml"] = some (Text.toOctets "pla")) := by
  intro around command plain text files back e kept cause full cut
  have hf : Files.empty.filePath [] "config.toml" = .ok ["config.toml"] := rfl
  have hkept : opened [] kept.files kept.pathname = .ok kept :=
    opened_eq_ok.2 ⟨Settings.load_of_put rfl hf, rfl, rfl⟩
  have hfound : (back.carryOut around command).value.desk.files.find [] back.pathname =
      .ok (.file (Text.toOctets text)) := rfl
  refine ⟨⟨rfl, rfl, ?_⟩, ⟨rfl, rfl, rfl, ?_⟩, hkept, rfl, ?_⟩
  · exact fun h => nomatch congrArg Settings.chosenMaxBytes h
  · rw [Files.read, hfound]
    simp only [Text.ofOctets?_toOctets]
  · rfl

end Backoffice.Desk
