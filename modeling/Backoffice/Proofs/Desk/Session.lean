import Backoffice.Desk
import Backoffice.Proofs.Settings.Storage

/-!
# Sessions at a desk

A *session* is a desk that carries out commands one after the other, each with the disk as it is
then. The settings at hand are those of the file when the desk is opened, and they stay those of
the file as long as whatever is accepted is saved as well. So a desk may be opened anew at any
time, even before every command, and nobody notices.

* `Desk.accepted?`: the settings that a command changes to, which is all that it can do;
* `Desk.files_carryOut_cases`: all that it can do to the files;
* `Desk.run`: a session;
* `Desk.Current`: the settings at hand are those of the file;
* `Desk.runReopening_eq_run`: a session in which the desk is opened anew here and there.
-/

namespace Backoffice.Desk

variable {around : Surroundings} {desk : Desk} {command : Command} {changed : Settings}
  {disk : Disk} {disks : List Disk}

/-! ### One command -/

/-- The settings that a command changes to, if it changes any and they are accepted. -/
def accepted? (desk : Desk) : Command → Option Settings
  | .setSetting key value => (desk.settings.set key value).toOption
  | _ => none

theorem accepted?_eq_some : desk.accepted? command = some changed ↔
    ∃ key value, command = .setSetting key value ∧ desk.settings.set key value = .ok changed := by
  cases command with
  | setSetting key value =>
    constructor
    · intro h
      refine ⟨key, value, rfl, ?_⟩
      cases hs : desk.settings.set key value <;> simp_all [accepted?, Except.toOption]
    · rintro ⟨key', value', hc, hs⟩
      cases hc
      simp [accepted?, hs, Except.toOption]
  | _ => simp [accepted?]

/-- Settings that are accepted are at hand and are saved. -/
theorem prepare_of_some (h : desk.accepted? command = some changed) :
    desk.prepare around.working command disk =
      (((changed.save desk.files around.working desk.pathname disk).1.mapError .storage),
        ⟨changed, desk.pathname, (changed.save desk.files around.working desk.pathname disk).2⟩) := by
  obtain ⟨key, value, rfl, hs⟩ := accepted?_eq_some.1 h
  rw [prepare, change, hs]

/-- A command that changes no settings changes nothing. -/
theorem desk_carryOut_of_none (h : desk.accepted? command = none) :
    (desk.carryOut around command disk).value.desk = desk := by
  cases command with
  | setSetting key value =>
    cases hs : desk.settings.set key value with
    | error e => simp [carryOut, prepare, change, hs]
    | ok changed => simp [accepted?, hs, Except.toOption] at h
  | _ => rfl

/-- Settings that are accepted are at hand, whether they could be saved or not. -/
theorem desk_carryOut_of_some (h : desk.accepted? command = some changed) :
    (desk.carryOut around command disk).value.desk =
      ⟨changed, desk.pathname, (changed.save desk.files around.working desk.pathname disk).2⟩ := by
  rw [carryOut, prepare_of_some h]

/-- A command that is accepted fails if the settings are not saved, and only then. -/
theorem ending_carryOut_of_some (h : desk.accepted? command = some changed) :
    (desk.carryOut around command disk).value.ending =
      (changed.save desk.files around.working desk.pathname disk).1.mapError .storage := by
  have hp : desk.prepare around.working command disk = _ := prepare_of_some h
  obtain ⟨key, value, rfl, -⟩ := accepted?_eq_some.1 h
  cases hv : (changed.save desk.files around.working desk.pathname disk).1 with
  | error fault =>
    rw [hv] at hp
    rw [carryOut_of_unprepared hp]
    rfl
  | ok =>
    rw [hv] at hp
    rw [carryOut_of_prepared hp]
    rfl

/-- A command that changes a setting has got as far as the file: the directories have been made,
    and there is a text to be put where the pathname of the settings leads. -/
structure Reaches (around : Surroundings) (desk : Desk) (command : Command) (made : Files)
    (t : Text) (path : Path) : Prop where
  changes : ∃ key value changed, command = .setSetting key value ∧
    desk.settings.set key value = .ok changed ∧ changed.write = some t
  directories : Files.Made around.working desk.files made
  filePath : made.filePath around.working desk.pathname = .ok path

/-- All that a command can do to the files: directories are made, and if it changes a setting, a
    text is put where its file lies, or a beginning of it if the disk gives up, and then the
    command fails. -/
theorem files_carryOut_cases (around : Surroundings) (desk : Desk) (command : Command)
    (disk : Disk) :
    let outcome := (desk.carryOut around command disk).value
    Files.Made around.working desk.files outcome.desk.files ∨
      ∃ made t path, Reaches around desk command made t path ∧
        ((outcome.ending = .ok () ∧
            outcome.desk.files = made.put path (.file (Text.toOctets t))) ∨
          ∃ room cause, Files.GivesUp disk path (Text.toOctets t) room cause ∧
            outcome.ending = .error (.storage (.fileAccess desk.pathname cause)) ∧
              outcome.desk.files = made.put path (.file ((Text.toOctets t).extract 0 room))) := by
  intro outcome
  cases ha : desk.accepted? command with
  | none =>
    refine .inl ?_
    rw [show outcome.desk = desk from desk_carryOut_of_none ha]
    exact .none
  | some changed =>
    obtain ⟨key, value, hc, hs⟩ := accepted?_eq_some.1 ha
    have hm : Files.Made around.working desk.files
        (Settings.prepare desk.files around.working desk.pathname disk).2 := Settings.made_prepare
    rw [show outcome.desk = _ from desk_carryOut_of_some ha,
      show outcome.ending = _ from ending_carryOut_of_some ha]
    rcases Settings.save_cases changed desk.files around.working desk.pathname disk
      with ⟨fault, hv⟩ | ⟨t, path, -, ht, hf, hv | ⟨room, cause, hg, hv⟩⟩
    · rw [hv]
      exact .inl hm
    · rw [hv]
      exact .inr ⟨_, t, path, ⟨⟨key, value, changed, hc, hs, ht⟩, hm, hf⟩, .inl ⟨rfl, rfl⟩⟩
    · rw [hv]
      exact .inr ⟨_, t, path, ⟨⟨key, value, changed, hc, hs, ht⟩, hm, hf⟩,
        .inr ⟨room, cause, hg, rfl, rfl⟩⟩

/-- A desk keeps its settings in the same file. -/
@[simp]
theorem pathname_carryOut :
    (desk.carryOut around command disk).value.desk.pathname = desk.pathname := by
  cases h : desk.accepted? command with
  | none => rw [desk_carryOut_of_none h]
  | some changed => rw [desk_carryOut_of_some h]

/-! ### Commands one after the other -/

/-- What came of a command: how it ended, what it printed, and what it reported. -/
abbrev Answer := Act Unit

/-- What came of a command, but for the desk. -/
def Answer.of (o : Logged Outcome) : Answer :=
  ⟨o.value.ending, o.value.printed, o.reports⟩

/-- Carries out commands one after the other, each with the next one of the disks, and with a sound
    one where there are no more. -/
def run (around : Surroundings) (desk : Desk) (commands : List Command) (disks : List Disk := []) :
    List Answer × Desk :=
  match commands with
  | [] => ([], desk)
  | command :: commands =>
    let outcome := desk.carryOut around command (disks.headD .sound)
    let (answers, last) := run around outcome.value.desk commands disks.tail
    (.of outcome :: answers, last)

/-- What every command keeps is kept by a session. -/
theorem run_induction {motive : Desk → Prop}
    (step : ∀ desk command disk, motive desk →
      motive (desk.carryOut around command disk).value.desk)
    {commands : List Command} (h : motive desk) : motive (run around desk commands disks).2 := by
  induction commands generalizing desk disks with
  | nil => exact h
  | cons command commands ih => exact ih (step desk command _ h)

/-- What is asked of someone at a desk: to carry out a command, or to open the desk anew. -/
inductive Request where
  | command (command : Command)
  | reopen

/-- The commands among what is asked. -/
def Request.command? : Request → Option Command
  | .command command => some command
  | .reopen => none

/-- Does what is asked, one after the other, unless a desk cannot be opened. -/
def runReopening (around : Surroundings) (desk : Desk) (requests : List Request)
    (disks : List Disk := []) : Except StorageError (List Answer × Desk) :=
  match requests with
  | [] => .ok ([], desk)
  | .command command :: requests =>
    let outcome := desk.carryOut around command (disks.headD .sound)
    (runReopening around outcome.value.desk requests disks.tail).map fun (answers, last) =>
      (.of outcome :: answers, last)
  | .reopen :: requests =>
    (desk.reopened around.working).bind fun desk => runReopening around desk requests disks

/-- Whatever commands change and is accepted can be saved as well. -/
def SavesAll (around : Surroundings) (desk : Desk) (commands : List Command)
    (disks : List Disk := []) : Prop :=
  match commands with
  | [] => True
  | command :: commands =>
    let disk := disks.headD .sound
    (∀ changed, desk.accepted? command = some changed →
      (changed.save desk.files around.working desk.pathname disk).1 = .ok ()) ∧
      SavesAll around (desk.carryOut around command disk).value.desk commands disks.tail

/-! ### Settings that are those of the file -/

/-- The settings at hand are those of the file. -/
def Current (working : Path) (desk : Desk) : Prop :=
  Settings.load desk.files working desk.pathname = .ok desk.settings

/-- A desk is opened with the settings of the file. -/
theorem opened_eq_ok {working : Path} {files : Files} {pathname : Text} :
    opened working files pathname = .ok desk ↔
      Current working desk ∧ desk.files = files ∧ desk.pathname = pathname := by
  rw [opened, Current]
  constructor
  · intro h
    cases hl : Settings.load files working pathname with
    | error e =>
      rw [hl] at h
      cases h
    | ok settings =>
      rw [hl] at h
      cases h
      exact ⟨hl, rfl, rfl⟩
  · rintro ⟨h, rfl, rfl⟩
    rw [h]
    rfl

/-- A desk is the same when it is opened anew if its settings are those of the file. -/
theorem reopened_eq_ok {working : Path} (h : Current working desk) :
    desk.reopened working = .ok desk :=
  opened_eq_ok.2 ⟨h, rfl, rfl⟩

/-- They stay those of the file if what is accepted is saved. -/
theorem Current.carryOut (h : Current around.working desk)
    (hs : ∀ changed, desk.accepted? command = some changed →
      (changed.save desk.files around.working desk.pathname disk).1 = .ok ()) :
    Current around.working (desk.carryOut around command disk).value.desk := by
  cases ha : desk.accepted? command with
  | none =>
    rw [desk_carryOut_of_none ha]
    exact h
  | some changed =>
    -- The settings at hand are those that were written, and so those that are read.
    rw [desk_carryOut_of_some ha]
    exact Settings.load_save (hs changed ha)

/-- Opening the desk anew makes no difference to one whose settings are those of the file. -/
theorem runReopening_eq_of_current {requests : List Request} (h : Current around.working desk)
    (hs : SavesAll around desk (requests.filterMap Request.command?) disks) :
    runReopening around desk requests disks =
      .ok (run around desk (requests.filterMap Request.command?) disks) := by
  -- Every request leaves a desk whose settings are those of the file, so the rest may
  -- begin with a desk that was just opened.
  induction requests generalizing desk disks with
  | nil => rfl
  | cons request requests ih =>
    cases request with
    | command command =>
      rw [runReopening, ih (h.carryOut hs.1) hs.2]
      rfl
    | reopen =>
      rw [runReopening, reopened_eq_ok h]
      exact ih h hs

/-- A session in which the desk is opened anew, however often and wherever, is the session
    without this, whatever the disks: the same answers, the same settings and the same files in the
    end. -/
theorem runReopening_eq_run {files : Files} {pathname : Text} {requests : List Request}
    (h : opened around.working files pathname = .ok desk)
    (hs : SavesAll around desk (requests.filterMap Request.command?) disks) :
    runReopening around desk requests disks =
      .ok (run around desk (requests.filterMap Request.command?) disks) :=
  runReopening_eq_of_current (opened_eq_ok.1 h).1 hs

/-- The desk is opened anew between two changes, one that is refused and a table of the
    settings. -/
theorem runReopening_eq_run_changes :
    let around : Surroundings := ⟨.empty, ["home"]⟩
    let files : Files := ⟨[(["home"], .directory)]⟩
    let desk : Desk := ⟨.blank, "config.toml", files⟩
    let requests : List Request :=
      [.command (.setSetting "placeholder" ":n"), .reopen,
        .command (.setSetting "placeholder" "a/b"), .reopen,
        .command (.setSetting "max_upload_bytes" "12"), .reopen, .command .showSettings]
    opened around.working files "config.toml" = .ok desk ∧
      SavesAll around desk (requests.filterMap Request.command?) ∧
        runReopening around desk requests =
          .ok (run around desk (requests.filterMap Request.command?)) := by
  intro around files desk requests
  have hs : SavesAll around desk (requests.filterMap Request.command?) := by
    refine ⟨fun _ hc => ?_, fun _ hc => ?_, fun _ hc => ?_, fun _ hc => ?_, trivial⟩
    · cases hc
      rfl
    · cases hc
    · cases hc
      rfl
    · cases hc
  have ho : opened around.working files "config.toml" = .ok desk := rfl
  exact ⟨ho, hs, runReopening_eq_run ho hs⟩

end Backoffice.Desk
