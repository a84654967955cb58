import Backoffice.Proofs.Text.Pieces
import Backoffice.Proofs.Text.Trimming
import Backoffice.Upload

/-!
# The verdict on an upload

Four things can be wrong with an upload, and whether one is can be said without the others: the
name, a file without content, the size, and the type. Each has an error of its own. A check looks
at them in a fixed order and reports the first that is wrong, so an upload is accepted exactly if
none is.

* `extension?_eq_some_iff`: the type of a name;
* `Wrong`: what each error says about an upload;
* `value_check`: the first error that applies decides;
* `value_check_eq_iff`: when an upload is accepted, and with which error it is refused.
-/

namespace Backoffice.UploadLimits

variable {limits : UploadLimits} {fileName name ext : Text} {size : UInt64} {e : UploadError}

/-! ### The type of a name -/

/-- A name with a type: something before the last dot, and the type behind it. -/
def HasType (name ext : Text) : Prop :=
  ∃ stem, name = stem ++ '.' :: ext ∧ stem ≠ [] ∧ ext ≠ [] ∧ '.' ∉ ext

theorem extension?_eq_some_iff : extension? name = some ext ↔ HasType name ext := by
  constructor
  · intro h
    rw [extension?] at h
    split at h
    · next stem last hlast =>
      obtain ⟨rfl, hdot⟩ := Text.afterLast_eq_some_iff.1 hlast
      split_ifs at h with hempty
      obtain rfl := Option.some.inj h
      simp only [Bool.or_eq_true, List.isEmpty_iff, not_or] at hempty
      exact ⟨stem, rfl, hempty.1, hempty.2, hdot⟩
    · cases h
  · rintro ⟨stem, rfl, hstem, hext, hdot⟩
    rw [extension?, Text.afterLast_append_cons hdot]
    exact if_neg (by simp [hstem, hext])

/-- A name with a type that is allowed, be it with other capitals. -/
def Supports (limits : UploadLimits) (name : Text) : Prop :=
  ∃ ext, HasType name ext ∧ ∃ a ∈ limits.allowedExtensions, Text.SameButCase a ext

theorem allows_eq_true_iff :
    limits.allows ext = true ↔ ∃ a ∈ limits.allowedExtensions, Text.SameButCase a ext := by
  simp only [allows, List.any_eq_true, decide_eq_true_eq, Text.lowered_eq_lowered_iff]

theorem supports_iff : limits.Supports name ↔ (extension? name).any limits.allows = true := by
  rw [Option.any_eq_true]
  simp only [Supports, extension?_eq_some_iff, allows_eq_true_iff]

instance : DecidablePred limits.Supports :=
  fun _ => decidable_of_iff _ supports_iff.symm

/-! ### What can be wrong -/

/-- What is wrong with an upload when an error applies to it. The name has been trimmed; the
    other errors are about files that are not there, or were not read or written. -/
def Wrong (limits : UploadLimits) (name : Text) (size : UInt64) : UploadError → Prop
  | .invalidFileName => name = [] ∨ name = ("..": Text) ∨ '/' ∈ name ∨ '\\' ∈ name
  | .emptyFile => size = 0
  | .fileTooLarge => limits.maxBytes < size
  | .unsupportedFileType => ¬ limits.Supports name
  | .fileMissing | .fileReadFailed | .fileSaveFailed => False

/-- The errors that a check looks for, in this order. -/
def lookedFor : List UploadError :=
  [.invalidFileName, .emptyFile, .fileTooLarge, .unsupportedFileType]

instance : DecidablePred (Wrong limits name size)
  | .invalidFileName => inferInstanceAs (Decidable (_ ∨ _))
  | .emptyFile => inferInstanceAs (Decidable (size = 0))
  | .fileTooLarge => inferInstanceAs (Decidable (limits.maxBytes < size))
  | .unsupportedFileType => inferInstanceAs (Decidable (¬ limits.Supports name))
  | .fileMissing | .fileReadFailed | .fileSaveFailed => inferInstanceAs (Decidable False)

theorem badName_eq_true_iff :
    badName name = true ↔ Wrong limits name size .invalidFileName := by
  simp only [badName, Wrong, Bool.or_eq_true, List.isEmpty_iff, List.contains_iff_mem,
    decide_eq_true_eq]
  tauto

/-! ### The first error that applies -/

/-- What is reported if some errors are looked for one after the other. -/
def verdict (limits : UploadLimits) (name : Text) (size : UInt64) (es : List UploadError) :
    Except UploadError Unit :=
  match es.find? fun e => decide (Wrong limits name size e) with
  | some e => .error e
  | none => .ok ()

theorem verdict_cons (es : List UploadError) : verdict limits name size (e :: es) =
    if Wrong limits name size e then .error e else verdict limits name size es := by
  rw [verdict, List.find?_cons]
  split_ifs with h
  · simp only [decide_eq_true h]
  · simp only [decide_eq_false h, verdict]

theorem verdict_eq_error_iff {es : List UploadError} : verdict limits name size es = .error e ↔
    ∃ earlier later, es = earlier ++ e :: later ∧ Wrong limits name size e ∧
      ∀ d ∈ earlier, ¬ Wrong limits name size d := by
  have h : verdict limits name size es = .error e ↔
      es.find? (fun e => decide (Wrong limits name size e)) = some e := by
    rw [verdict]
    cases es.find? fun e => decide (Wrong limits name size e) <;> simp
  rw [h, List.find?_eq_some_iff_append]
  simp only [decide_eq_true_eq, Bool.not_eq_true', decide_eq_false_iff_not]
  exact ⟨fun ⟨hw, earlier, later, hes, hd⟩ => ⟨earlier, later, hes, hw, hd⟩,
    fun ⟨earlier, later, hes, hw, hd⟩ => ⟨hw, earlier, later, hes, hd⟩⟩

theorem verdict_eq_ok_iff {es : List UploadError} :
    verdict limits name size es = .ok () ↔ ∀ e ∈ es, ¬ Wrong limits name size e := by
  have h : verdict limits name size es = .ok () ↔
      es.find? (fun e => decide (Wrong limits name size e)) = none := by
    rw [verdict]
    cases es.find? fun e => decide (Wrong limits name size e) <;> simp
  rw [h, List.find?_eq_none]
  simp only [decide_eq_true_eq]

/-- A check reports the first of the errors it looks for that applies. -/
theorem value_check (limits : UploadLimits) (fileName : Text) (size : UInt64) :
    (limits.check fileName size).value =
      verdict limits (Text.trim fileName) size lookedFor := by
  have hnil : verdict limits (Text.trim fileName) size [] = .ok () := rfl
  -- The search is written out as a chain of conditions, as the check is.
  simp only [lookedFor, verdict_cons, hnil, ← badName_eq_true_iff]
  simp only [Wrong, supports_iff, check]
  split_ifs with hname hempty hlarge htype
  · rfl
  · rfl
  · rfl
  · obtain ⟨ext, hext, hallows⟩ := (Option.any_eq_true _ _).1 htype
    simp only [hext, hallows, if_true]
    rfl
  · -- Either there is no type, or it is not allowed.
    cases hext : extension? (Text.trim fileName) with
    | none => rfl
    | some ext =>
      rw [hext, Option.any_some] at htype
      exact congrArg Logged.value (if_neg htype)

/-! ### What is accepted -/

/-- A name with a type is neither empty nor two dots. -/
theorem not_wrong_of_supports (h : limits.Supports name) (hslash : '/' ∉ name)
    (hback : '\\' ∉ name) : ¬ Wrong limits name size .invalidFileName := by
  obtain ⟨ext, htype, -⟩ := h
  have hext := extension?_eq_some_iff.2 htype
  rintro (rfl | rfl | hs | hs)
  · cases hext
  · cases hext
  · exact hslash hs
  · exact hback hs

/-- An upload is accepted exactly if its name, without the blanks around it, has a type that is
    allowed and neither a slash nor a backslash, and its size is not zero and within the limit;
    otherwise the error is the first that applies. -/
theorem value_check_eq_iff (limits : UploadLimits) (size : UInt64)
    (h : Text.Trims fileName name) :
    ((limits.check fileName size).value = .ok () ↔
        limits.Supports name ∧ '/' ∉ name ∧ '\\' ∉ name ∧ 0 < size ∧ size ≤ limits.maxBytes) ∧
      ∀ e, (limits.check fileName size).value = .error e ↔
        ∃ earlier later, lookedFor = earlier ++ e :: later ∧ Wrong limits name size e ∧
          ∀ d ∈ earlier, ¬ Wrong limits name size d := by
  rw [value_check, Text.trim_eq_iff.2 h]
  refine ⟨?_, fun e => verdict_eq_error_iff⟩
  rw [verdict_eq_ok_iff]
  constructor
  · intro hnone
    have hname : ¬ Wrong limits name size .invalidFileName := hnone _ (by decide)
    have hempty : ¬ size = 0 := hnone .emptyFile (by decide)
    have hlarge : ¬ limits.maxBytes < size := hnone .fileTooLarge (by decide)
    have htype : ¬¬ limits.Supports name := hnone .unsupportedFileType (by decide)
    exact ⟨not_not.1 htype, fun hs => hname (.inr (.inr (.inl hs))),
      fun hs => hname (.inr (.inr (.inr hs))), UInt64.pos_iff_ne_zero.2 hempty,
      UInt64.not_lt.1 hlarge⟩
  · rintro ⟨htype, hslash, hback, hpos, hle⟩ e -
    cases e with
    | invalidFileName => exact not_wrong_of_supports htype hslash hback
    | emptyFile => exact UInt64.pos_iff_ne_zero.1 hpos
    | fileTooLarge => exact UInt64.not_lt.2 hle
    | unsupportedFileType => exact not_not.2 htype
    | fileMissing | fileReadFailed | fileSaveFailed => exact not_false

/-- The type stands behind the last of several dots, capitals and blanks around a name do not
    matter, and of two things that are wrong the one looked at first is reported. -/
theorem value_check_eq_iff_report :
    Text.Trims "\u2003Report.2024.PDF \n" "Report.2024.PDF" ∧
      (standard.check "\u2003Report.2024.PDF \n" 1).value = .ok () ∧
      Text.Trims "\t..\t" ".." ∧
      (standard.check "\t..\t" 0).value = .error .invalidFileName ∧
      Text.Trims ".pdf" ".pdf" ∧
      (standard.check ".pdf" 1).value = .error .unsupportedFileType := by
  have hreport : Text.Trims "\u2003Report.2024.PDF \n" "Report.2024.PDF" :=
    Text.trim_eq_iff.1 (by decide)
  have hdots : Text.Trims "\t..\t" ".." := Text.trim_eq_iff.1 (by decide)
  have hpdf : Text.Trims ".pdf" ".pdf" := Text.trim_eq_iff.1 (by decide)
  refine ⟨hreport, (value_check_eq_iff standard 1 hreport).1.2 (by decide), hdots, ?_, hpdf, ?_⟩
  · exact ((value_check_eq_iff standard 0 hdots).2 _).2 ⟨[], _, rfl, by decide, by decide⟩
  · exact ((value_check_eq_iff standard 1 hpdf).2 _).2
      ⟨[.invalidFileName, .emptyFile, .fileTooLarge], [], rfl, by decide, by decide⟩

end Backoffice.UploadLimits
