import Backoffice.Proofs.Upload.Verdict
import Mathlib.Data.List.Perm.Basic

/-!
# Uploads that look otherwise, and laxer limits

Of a name the verdict depends on no more than its letters, whether they are capital or small, and
of the types that are allowed on no more than which they are. So an upload may be *restyled*: it
gets other blanks around its name and other capitals, and the types are listed in another order,
again, or with other capitals. No such change, nor any number of them, makes another verdict.
Limits that allow more make nothing wrong that was right before.

* `Wrong.of_laxer`: what is wrong with an upload under laxer limits was wrong before;
* `Restyled`: an upload that only looks otherwise;
* `Restyled.alike`: what all restyled uploads have in common;
* `value_check_restyled`: which changes leave a verdict, and which leave it if it is good.
-/

namespace Backoffice.UploadLimits

variable {limits limits' : UploadLimits} {fileName fileName' name name' : Text}
  {size size' : UInt64} {e : UploadError}

/-! ### Names and types in small letters -/

theorem badName_lowered (name : Text) : badName (Text.lowered name) = badName name := by
  have hmem (c : Char) (hc : ¬ c.isUpper = true) (hc' : ¬ c.isLower = true) :
      (Text.lowered name).contains c = name.contains c := by
    rw [Bool.eq_iff_iff, List.contains_iff_mem, List.contains_iff_mem, Text.mem_lowered_iff hc hc']
  have hempty : (Text.lowered name).isEmpty = name.isEmpty := List.isEmpty_map
  have hdots : Text.lowered name = ("..": Text) ↔ name = ("..": Text) := by
    refine Text.lowered_eq_iff fun c hc => ?_
    obtain rfl : c = '.' := by simpa using hc
    decide
  simp only [badName, hempty, hmem '/' (by decide) (by decide), hmem '\\' (by decide) (by decide),
    hdots]

theorem extension?_lowered (name : Text) :
    extension? (Text.lowered name) = (extension? name).map Text.lowered := by
  rw [extension?, Text.afterLast_lowered (by decide) (by decide), extension?]
  cases Text.afterLast '.' name with
  | none => rfl
  | some parts =>
    obtain ⟨stem, ext⟩ := parts
    have hempty (t : Text) : (Text.lowered t).isEmpty = t.isEmpty := List.isEmpty_map
    simp only [Option.map_some, Prod.map_apply, hempty]
    split_ifs <;> rfl

/-- Whether a type is allowed is seen from the small letters of the name and of the list. -/
theorem supports_iff_lowered : limits.Supports name ↔
    ∃ ext ∈ limits.allowedExtensions.map Text.lowered,
      extension? (Text.lowered name) = some ext := by
  simp only [Supports, ← extension?_eq_some_iff, ← Text.lowered_eq_lowered_iff,
    extension?_lowered, Option.map_eq_some_iff, List.mem_map]
  constructor
  · rintro ⟨ext, hext, a, ha, heq⟩
    exact ⟨_, ⟨a, ha, rfl⟩, ext, hext, heq.symm⟩
  · rintro ⟨_, ⟨a, ha, rfl⟩, ext, hext, heq⟩
    exact ⟨ext, hext, a, ha, heq.symm⟩

/-! ### Laxer limits -/

/-- What is wrong with an upload was wrong before the limits became laxer and the size smaller,
    but not zero. -/
theorem Wrong.of_laxer (h : Wrong limits' name' size' e)
    (hname : Text.lowered name = Text.lowered name') (hmax : limits.maxBytes ≤ limits'.maxBytes)
    (htypes : limits.allowedExtensions.map Text.lowered ⊆
      limits'.allowedExtensions.map Text.lowered)
    (hsize : size' ≤ size) (hempty : size' = 0 → size = 0) : Wrong limits name size e := by
  cases e with
  | invalidFileName =>
    rw [← badName_eq_true_iff] at h ⊢
    rwa [← badName_lowered, hname, badName_lowered]
  | emptyFile => exact hempty h
  | fileTooLarge => exact UInt64.lt_of_le_of_lt hmax (UInt64.lt_of_lt_of_le h hsize)
  | unsupportedFileType =>
    refine mt (fun hs => ?_) h
    obtain ⟨ext, hmem, hext⟩ := supports_iff_lowered.1 hs
    exact supports_iff_lowered.2 ⟨ext, htypes hmem, hname ▸ hext⟩
  | fileMissing | fileReadFailed | fileSaveFailed => exact h

/-! ### Uploads that look otherwise -/

/-- An upload, given by the name of the file and the limits, in another style: with more blanks
    around the name or other capitals in it, or with the allowed types in other capitals, in
    another order or one of them again; and so on from there and back. -/
inductive Restyled : Text → UploadLimits → Text → UploadLimits → Prop
  | blanks {n before after : Text} {l : UploadLimits} (hbefore : Text.AllBlank before)
      (hafter : Text.AllBlank after) : Restyled n l (before ++ n ++ after) l
  | name {n n' : Text} {l : UploadLimits} (h : Text.SameButCase n n') : Restyled n l n' l
  | types {n : Text} {l : UploadLimits} {exts : List Text}
      (h : List.Forall₂ Text.SameButCase l.allowedExtensions exts) :
      Restyled n l n { l with allowedExtensions := exts }
  | order {n : Text} {l : UploadLimits} {exts : List Text} (h : l.allowedExtensions.Perm exts) :
      Restyled n l n { l with allowedExtensions := exts }
  | again {n ext : Text} {l : UploadLimits} (h : ext ∈ l.allowedExtensions) :
      Restyled n l n { l with allowedExtensions := ext :: l.allowedExtensions }
  | back {n n' : Text} {l l' : UploadLimits} : Restyled n l n' l' → Restyled n' l' n l
  | trans {n n' n'' : Text} {l l' l'' : UploadLimits} :
      Restyled n l n' l' → Restyled n' l' n'' l'' → Restyled n l n'' l''

/-- Uploads with the same letters in their trimmed names, the same greatest size and the same
    types, be they capital or small. -/
structure Alike (fileName : Text) (limits : UploadLimits) (fileName' : Text)
    (limits' : UploadLimits) : Prop where
  name : Text.lowered (Text.trim fileName) = Text.lowered (Text.trim fileName')
  maxBytes : limits.maxBytes = limits'.maxBytes
  types : ∀ t, t ∈ limits.allowedExtensions.map Text.lowered ↔
    t ∈ limits'.allowedExtensions.map Text.lowered

theorem Restyled.alike (h : Restyled fileName limits fileName' limits') :
    Alike fileName limits fileName' limits' := by
  induction h with
  | blanks hbefore hafter => exact ⟨by rw [Text.trim_append hbefore hafter], rfl, fun _ => Iff.rfl⟩
  | name h =>
    refine ⟨?_, rfl, fun _ => Iff.rfl⟩
    rw [← Text.trim_lowered, Text.lowered_eq_lowered_iff.2 h, Text.trim_lowered]
  | @types _ l exts h =>
    -- In small letters the lists are the same.
    have heq : l.allowedExtensions.map Text.lowered = exts.map Text.lowered := by
      rw [← List.forall₂_eq_eq_eq, List.forall₂_map_left_iff, List.forall₂_map_right_iff]
      exact h.imp fun _ _ => Text.lowered_eq_lowered_iff.2
    exact ⟨rfl, rfl, fun t => by rw [heq]⟩
  | order h => exact ⟨rfl, rfl, fun _ => (h.map _).mem_iff⟩
  | again h =>
    refine ⟨rfl, rfl, fun t => ?_⟩
    rw [List.map_cons, List.mem_cons, or_iff_right_of_imp]
    rintro rfl
    exact List.mem_map_of_mem h
  | back _ ih => exact ⟨ih.name.symm, ih.maxBytes.symm, fun t => (ih.types t).symm⟩
  | trans _ _ ih ih' =>
    exact ⟨ih.name.trans ih'.name, ih.maxBytes.trans ih'.maxBytes,
      fun t => (ih.types t).trans (ih'.types t)⟩

theorem Alike.wrong_iff (h : Alike fileName limits fileName' limits') :
    Wrong limits (Text.trim fileName) size e ↔ Wrong limits' (Text.trim fileName') size e :=
  ⟨fun hw => hw.of_laxer h.name.symm (UInt64.le_of_eq h.maxBytes.symm)
      (fun t => (h.types t).2) (UInt64.le_refl size) id,
    fun hw => hw.of_laxer h.name (UInt64.le_of_eq h.maxBytes) (fun t => (h.types t).1)
      (UInt64.le_refl size) id⟩

/-! ### Verdicts that stay -/

/-- Restyling an upload leaves the verdict on it as it is. An upload that is accepted is accepted
    by limits with a greater size or more types as well, and with a smaller size, but for zero. -/
theorem value_check_restyled (limits : UploadLimits) (fileName : Text) (size : UInt64) :
    (∀ fileName' limits', Restyled fileName limits fileName' limits' →
        (limits'.check fileName' size).value = (limits.check fileName size).value) ∧
      ((limits.check fileName size).value = .ok () → ∀ (limits' : UploadLimits) (size' : UInt64),
        limits.maxBytes ≤ limits'.maxBytes →
          limits.allowedExtensions ⊆ limits'.allowedExtensions → 0 < size' → size' ≤ size →
            (limits'.check fileName size').value = .ok ()) := by
  refine ⟨fun fileName' limits' h => ?_, fun hok limits' size' hmax htypes hpos hle => ?_⟩
  · rw [value_check, value_check, verdict, verdict]
    simp only [h.alike.wrong_iff]
  · rw [value_check, verdict_eq_ok_iff] at hok ⊢
    intro e he hw
    exact hok e he (hw.of_laxer rfl hmax (List.map_subset _ htypes) hle
      fun hz => absurd hz (UInt64.pos_iff_ne_zero.1 hpos))

/-- Other blanks, other capitals and types in disorder, and limits that allow more. -/
theorem value_check_restyled_photo :
    Restyled "photo.jpg" ⟨100, ["jpg", "png"]⟩ "\u3000Photo.JPG\n" ⟨100, ["jpg", "PNG", "jpg"]⟩ ∧
      (check ⟨100, ["jpg", "PNG", "jpg"]⟩ "\u3000Photo.JPG\n" 100).value =
        (check ⟨100, ["jpg", "png"]⟩ "photo.jpg" 100).value ∧
      (check ⟨100, ["jpg", "png"]⟩ "photo.jpg" 100).value = .ok () ∧
      (check ⟨200, ["png", "gif", "jpg"]⟩ "photo.jpg" 1).value = .ok () := by
  have hname : Restyled "photo.jpg" ⟨100, ["jpg", "png"]⟩ "\u3000Photo.JPG\n"
      ⟨100, ["jpg", "png"]⟩ :=
    .trans (.name (by decide : Text.SameButCase _ "Photo.JPG"))
      (@Restyled.blanks "Photo.JPG" "\u3000" "\n" _ (by decide) (by decide))
  have horder : Restyled "\u3000Photo.JPG\n" ⟨100, ["jpg", "png"]⟩ "\u3000Photo.JPG\n"
      ⟨100, ["png", "jpg"]⟩ := .order (List.Perm.swap _ _ _)
  have htypes : Restyled "\u3000Photo.JPG\n" ⟨100, ["png", "jpg"]⟩ "\u3000Photo.JPG\n"
      ⟨100, ["jpg", "PNG", "jpg"]⟩ :=
    .trans (.types (by decide : List.Forall₂ Text.SameButCase _ ["PNG", "jpg"]))
      (.again (by decide))
  have h := hname.trans (horder.trans htypes)
  have hok : (check ⟨100, ["jpg", "png"]⟩ "photo.jpg" 100).value = .ok () := rfl
  refine ⟨h, (value_check_restyled _ _ _).1 _ _ h, hok, ?_⟩
  exact (value_check_restyled _ _ _).2 hok _ _ (by decide) (by decide) (by decide) (by decide)

end Backoffice.UploadLimits
