import Backoffice.Proofs.Desk.Session
import Backoffice.Proofs.Settings.Changes

/-!
# Settings in the course of a session

The settings at hand change with the commands that ask for it and are accepted, whether
they could be saved or not, and with nothing else: the disk has no say in it. So under each key there is the last
value that was accepted for it, or what was there when the session began.

* `settings_carryOut`: what one command does to the settings;
* `settings_run`: what a session does to them;
* `get_settings_run`: the last value that was accepted is at hand.
-/

namespace Backoffice

/-- The change that a command asks for, if it asks for one. -/
def Command.change? : Command → Option Settings.Change
  | .setSetting key value => some ⟨key, value⟩
  | _ => none

namespace Desk

open Settings

variable {around : Surroundings} {desk : Desk} {command : Command} {commands : List Command}

/-- A command applies the change that it asks for. -/
theorem settings_carryOut (around : Surroundings) (desk : Desk) (command : Command)
    (disk : Disk) : (desk.carryOut around command disk).value.desk.settings =
      desk.settings.applyAll command.change?.toList := by
  cases command with
  | setSetting key value =>
    show _ = desk.settings.apply ⟨key, value⟩
    cases hs : desk.settings.set key value with
    | error e =>
      have ha : desk.accepted? (.setSetting key value) = none := by
        rw [accepted?, hs]
        rfl
      rw [desk_carryOut_of_none ha, Settings.apply, hs]
    | ok changed =>
      have ha : desk.accepted? (.setSetting key value) = some changed :=
        accepted?_eq_some.2 ⟨key, value, rfl, hs⟩
      rw [desk_carryOut_of_some ha, Settings.apply, hs]
  | _ => rfl

/-- A session applies the changes that are asked for, one after the other. -/
theorem settings_run (around : Surroundings) (desk : Desk) (commands : List Command)
    (disks : List Disk) : (run around desk commands disks).2.settings =
      desk.settings.applyAll (commands.filterMap Command.change?) := by
  induction commands generalizing desk disks with
  | nil => rfl
  | cons command commands ih =>
    let disk := disks.headD .sound
    calc (run around desk (command :: commands) disks).2.settings
        = (run around (desk.carryOut around command disk).value.desk commands
            disks.tail).2.settings := rfl
      _ = (desk.settings.applyAll command.change?.toList).applyAll
            (commands.filterMap Command.change?) := by rw [ih, settings_carryOut]
      _ = desk.settings.applyAll ((command :: commands).filterMap Command.change?) := by
        rw [← applyAll_append]
        cases h : command.change? <;> simp [h]

/-- Two changes of different names, one right after the other, may change places in a session. -/
theorem settings_run_swap {key key' : Text} (h : key ≠ key') (value value' : Text)
    (before after : List Command) (disks disks' : List Disk) :
    (run around desk
        (before ++ .setSetting key value :: .setSetting key' value' :: after) disks).2.settings =
      (run around desk
        (before ++ .setSetting key' value' :: .setSetting key value :: after) disks').2.settings := by
  rw [settings_run, settings_run, List.filterMap_append, List.filterMap_append, applyAll_append,
    applyAll_append]
  exact congrArg (applyAll · (after.filterMap Command.change?))
    (apply_comm (c := ⟨key, value⟩) (d := ⟨key', value'⟩) h)

/-- After a session each key has the last value that it was given, or what it had before,
    whatever the disks. It is given a value by a change of its name that is accepted, whatever the
    settings, and by nothing else. A command that is not accepted for any key leaves all of them,
    and changes of different keys may change places. -/
theorem get_settings_run (around : Surroundings) (desk : Desk) (commands : List Command)
    (disks : List Disk) :
    (∀ k : Key, (run around desk commands disks).2.settings.get k =
      (k.last? (commands.filterMap Command.change?)).or (desk.settings.get k)) ∧
    (∀ (k : Key) (c : Change) (v : k.Value) (s : Settings), k.given? c = some v ↔
      c.name = k.name ∧ ∃ changed, s.set c.name c.value = .ok changed ∧ changed.get k = some v) ∧
    (∀ command disk, desk.accepted? command = none → ∀ k : Key,
      (desk.carryOut around command disk).value.desk.settings.get k = desk.settings.get k) ∧
    (∀ key value key' value' before after disks', key ≠ key' →
      (run around desk
          (before ++ .setSetting key value :: .setSetting key' value' :: after) disks).2.settings =
        (run around desk (before ++ .setSetting key' value' :: .setSetting key value :: after)
          disks').2.settings) := by
  refine ⟨fun k => ?_, fun k c v s => given?_eq_some_iff s, fun command disk h k => ?_,
    fun _ value _ value' before after disks' h =>
      settings_run_swap h value value' before after disks disks'⟩
  · rw [settings_run, get_applyAll]
  · rw [desk_carryOut_of_none h]

/-- A size that cannot be saved is at hand nevertheless; a placeholder with a slash and a key
    that does not exist change nothing; and two keys may change places. -/
theorem get_settings_run_seven :
    let around : Surroundings := ⟨.empty, []⟩
    let desk : Desk := ⟨⟨some ":x", none, none⟩, "config.toml", .empty⟩
    let before : List Command := [.setSetting "placeholder" ":n", .snake "staffId"]
    let after : List Command :=
      [.setSetting "placeholder" "a/b", .setSetting "colour" "blue", .showSettings]
    (run around desk (before ++ .setSetting "max_upload_bytes" "9223372036854775808" ::
        .setSetting "allowed_extensions" ".PDF, png" :: after)).2.settings =
      ⟨some ":n", some 9223372036854775808, some ["pdf", "png"]⟩ ∧
    (run around desk (before ++ .setSetting "max_upload_bytes" "9223372036854775808" ::
        .setSetting "allowed_extensions" ".PDF, png" :: after)).2.settings =
      (run around desk (before ++ .setSetting "allowed_extensions" ".PDF, png" ::
        .setSetting "max_upload_bytes" "9223372036854775808" :: after)).2.settings ∧
    ("max_upload_bytes" : Text) ≠ "allowed_extensions" := by
  intro around desk before after
  have hne : ("max_upload_bytes" : Text) ≠ "allowed_extensions" := by decide
  refine ⟨eq_of_get fun k => ((get_settings_run around desk _ []).1 k).trans ?_,
    (get_settings_run around desk [] []).2.2.2 _ _ _ _ before after [] hne, hne⟩
  cases k <;> rfl

end Desk

end Backoffice
