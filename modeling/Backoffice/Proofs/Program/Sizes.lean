import Backoffice.Proofs.CommandLine.Arguments
import Backoffice.Proofs.Desk.Session

/-!
# Sizes that are typed

A size is typed in two places: as the greatest size in the settings, and as the size of an upload
that is to be checked. In both it is an optional plus sign and digits that denote a number of 64
bits, with as many zeros before it as one likes. It is taken as this number, and everything else is
refused; nothing is cut down to 64 bits.

* `set_maxUploadBytes`, `read_checkUpload`: what becomes of a text in either place;
* `typed_size_iff`: both take the same texts for the same sizes.
-/

namespace Backoffice

open CommandLine

variable {t : Text}

/-- The greatest size is set to the size that is read, or refused. -/
theorem Settings.set_maxUploadBytes (s : Settings) (t : Text) :
    s.set "max_upload_bytes" t =
      match Numeral.size? t with
      | .ok size => .ok { s with chosenMaxBytes := some size }
      | .error fault => .error (.invalidValue "max_upload_bytes" t fault.message) := by
  have hkey : Settings.Key.ofName? "max_upload_bytes" = some .maxUploadBytes := rfl
  rw [set, hkey]
  rfl

/-- The size of an upload, behind two dashes and the name, is the size that is read, or refused. -/
theorem CommandLine.read_checkUpload (inherited : Option Text) (fileName t : Text) :
    read inherited ["upload", "check", "--", fileName, t] =
      match Numeral.size? t with
      | .ok size => .ok ⟨false, inherited, .checkUpload fileName size⟩
      | .error _ => .error .badOperand := by
  have hi : (inherited : Inherited) ≠ .noText := Inherited.ofText?_ne_noText inherited
  have hwords : Place.root.follow? ["upload", "check"] = some .uploadCheck := rfl
  have hscan : scan inherited .root .empty false ["upload", "check", "--", fileName, t] =
      Scan.finish inherited .uploadCheck ⟨[], [fileName], some (.operand t)⟩ :=
    calc scan inherited .root .empty false ["upload", "check", "--", fileName, t]
      _ = scan inherited .uploadCheck .empty false ["--", fileName, t] := scan_follow hi hwords
      _ = scan inherited .uploadCheck .empty true [fileName, t] := scan_separator rfl
      _ = scan inherited .uploadCheck ⟨[], [], some (.operand fileName)⟩ true [t] :=
        scan_operand Nat.two_pos
      _ = scan inherited .uploadCheck ⟨[], [fileName], none⟩ true [t] := scan_pending rfl
      _ = scan inherited .uploadCheck ⟨[], [fileName], some (.operand t)⟩ true [] :=
        scan_operand Nat.one_lt_two
  have haccepts : Place.uploadCheck.accepts 1 t = (Numeral.size? t).toBool := rfl
  rw [read, hscan, Scan.finish, complete_eq hi]
  cases h : Numeral.size? t with
  | error fault => simp [Scan.settle, haccepts, h, Except.toBool, Except.map]
  | ok size =>
    simp [Scan.settle, haccepts, h, Except.toBool, Scan.command?, Scan.has, Scan.value?,
      Place.isLeaf, Place.words, Except.map]

/-- What is refused leaves the desk as it was, and prints nothing. -/
theorem Desk.value_carryOut_of_refused {desk : Desk} {key value : Text} {e : SettingError}
    (around : Surroundings) (disk : Disk) (h : desk.settings.set key value = .error e) :
    (desk.carryOut around (.setSetting key value) disk).value =
      ⟨.error (.setting e), [], desk⟩ := by
  refine carryOut_of_unprepared ?_
  rw [prepare, change, h]

/-- The greatest size is accepted where the text is a count of no more than 64 bits, and is this
    count then; every other text is refused with the key and the text, and nothing at the desk is
    different. The size of an upload is the same count of the same texts. -/
theorem typed_size_iff (around : Surroundings) (desk : Desk) (disk : Disk)
    (inherited : Option Text) (fileName t : Text) :
    (∀ changed, desk.settings.set "max_upload_bytes" t = .ok changed ↔
      ∃ size : UInt64, Numeral.IsCount t size.toNat ∧
        changed = { desk.settings with chosenMaxBytes := some size }) ∧
    ((∃ reason, desk.settings.set "max_upload_bytes" t =
          .error (.invalidValue "max_upload_bytes" t reason) ∧
        (desk.carryOut around (.setSetting "max_upload_bytes" t) disk).value =
          ⟨.error (.setting (.invalidValue "max_upload_bytes" t reason)), [], desk⟩) ↔
      ¬ ∃ size : UInt64, Numeral.IsCount t size.toNat) ∧
    (∀ i, CommandLine.read inherited ["upload", "check", "--", fileName, t] = .ok i ↔
      ∃ size : UInt64, Numeral.IsCount t size.toNat ∧
        i = ⟨false, inherited, .checkUpload fileName size⟩) := by
  simp only [← Numeral.size?_eq_ok_iff]
  have hset := desk.settings.set_maxUploadBytes t
  rw [read_checkUpload]
  cases h : Numeral.size? t with
  | error fault =>
    rw [h] at hset
    have hout := Desk.value_carryOut_of_refused around disk hset
    rw [hset]
    refine ⟨fun changed => ?_, iff_of_true ⟨fault.message, rfl, hout⟩ ?_, fun i => ?_⟩ <;> simp
  | ok size =>
    rw [hset, h]
    refine ⟨fun changed => ?_, iff_of_false ?_ ?_, fun i => ?_⟩ <;> simp [eq_comm]

end Backoffice
