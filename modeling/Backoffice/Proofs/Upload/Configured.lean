import Backoffice.Proofs.Settings.Extensions
import Backoffice.Proofs.Upload.Verdict

/-!
# Uploads of the types that are set

Every type of a list may be uploaded if it is the type of the files that are named after it, and
that is what stands behind the last dot of their names. So a type with a dot in it is of no use,
unless what stands behind its last dot is listed as well, and one with a slash or a backslash
never is.

* `suffix_cons_of_not_mem`: the last dot of a name that ends in a type;
* `hasType_append_iff`: the type of such a name;
* `value_check_listed_iff`: which types that are set may be uploaded.
-/

namespace Backoffice.UploadLimits

open Settings (Listed)

variable {s changed : Settings} {limits : UploadLimits} {e ext stem t : Text} {es : List Text}
  {size : UInt64}

/-! ### The type of a name that ends in a type -/

/-- Of two ends of a name that begin with a dot, the one without another dot is the end of the
    other. -/
theorem suffix_cons_of_not_mem {name : Text} (hext : '.' :: ext <:+ name) (he : '.' :: e <:+ name)
    (hdot : '.' ∉ ext) : '.' :: ext <:+ '.' :: e := by
  rcases List.suffix_or_suffix_of_suffix hext he with h | h
  · exact h
  · rcases List.suffix_cons_iff.1 h with h | h
    · exact h ▸ List.suffix_rfl
    · exact absurd (h.mem List.mem_cons_self) hdot

/-- The type of a name that ends in `e` is what stands behind the last dot of `e`, or `e` if
    there is none. -/
theorem hasType_append_iff (hstem : stem ≠ []) :
    HasType (stem ++ '.' :: e) ext ↔ ext ≠ [] ∧ '.' ∉ ext ∧ '.' :: ext <:+ '.' :: e := by
  constructor
  · rintro ⟨before, heq, -, hne, hdot⟩
    exact ⟨hne, hdot, suffix_cons_of_not_mem ⟨before, heq.symm⟩ (List.suffix_append _ _) hdot⟩
  · rintro ⟨hne, hdot, before, heq⟩
    refine ⟨stem ++ before, by rw [List.append_assoc, heq], fun hnil => ?_, hne, hdot⟩
    exact hstem (List.append_eq_nil_iff.1 hnil).1

/-! ### The types of a list -/

/-- In a list of small letters a type is allowed if it is listed. -/
theorem supports_append_iff (hes : ∀ e ∈ limits.allowedExtensions, Listed e)
    (he : e ∈ limits.allowedExtensions) (hstem : stem ≠ []) :
    limits.Supports (stem ++ '.' :: e) ↔
      ∃ ext ∈ limits.allowedExtensions, '.' ∉ ext ∧ '.' :: ext <:+ '.' :: e := by
  constructor
  · rintro ⟨ext, htype, a, ha, hsame⟩
    obtain ⟨-, hdot, hsuffix⟩ := (hasType_append_iff hstem).1 htype
    -- Behind the last dot there are no capitals either.
    have hsmall : ∀ c ∈ ext, ¬ c.isUpper = true := by
      intro c hc
      rcases List.mem_cons.1 (hsuffix.mem (List.mem_cons_of_mem _ hc)) with rfl | hc
      · decide
      · exact (hes e he).no_capital c hc
    have heq : a = ext := by
      rw [← Text.lowered_eq_self (hes a ha).no_capital, ← Text.lowered_eq_self hsmall]
      exact Text.lowered_eq_lowered_iff.2 hsame
    exact ⟨ext, heq ▸ ha, hdot, hsuffix⟩
  · rintro ⟨ext, hext, hdot, hsuffix⟩
    exact ⟨ext, (hasType_append_iff hstem).2 ⟨(hes ext hext).ne_nil, hdot, hsuffix⟩, ext, hext,
      Text.lowered_eq_lowered_iff.1 rfl⟩

/-- A name that does not begin with a blank, and ends in a type, is trimmed already. -/
theorem trims_append (hblank : ∀ c ∈ stem.head?, Text.isBlank c = false) (hstem : stem ≠ [])
    (he : Listed e) : Text.Trims (stem ++ '.' :: e) (stem ++ '.' :: e) := by
  refine Text.trims_self ?_ ?_
  · rw [List.head?_append_of_ne_nil _ hstem]
    exact hblank
  · rw [List.getLast?_append_of_ne_nil _ (List.cons_ne_nil _ _),
      List.getLast?_cons_of_ne_nil he.ne_nil]
    exact he.ends

/-- Of the types that were set, those may be uploaded that have neither a slash nor a backslash
    and of which the part behind the last dot, or all if there is none, is listed. -/
theorem value_check_listed_iff (h : s.set Settings.Key.allowedExtensions.name t = .ok changed)
    (hes : changed.chosenExtensions = some es) (he : e ∈ es) (hstem : stem ≠ [])
    (hslash : '/' ∉ stem) (hback : '\\' ∉ stem) (hblank : ∀ c ∈ stem.head?, Text.isBlank c = false)
    (hpos : 0 < size) (hle : size ≤ changed.limits.maxBytes) :
    (changed.limits.check (stem ++ '.' :: e) size).value = .ok () ↔
      '/' ∉ e ∧ '\\' ∉ e ∧ ∃ ext ∈ es, '.' ∉ ext ∧ '.' :: ext <:+ '.' :: e := by
  obtain ⟨-, rfl⟩ := Settings.set_allowedExtensions_eq_ok_iff.1 h
  obtain rfl := Option.some.inj hes
  have hlisted : ∀ e ∈ Settings.extensions t, Listed e := fun e => Settings.listed_of_mem_extensions
  have hmem (c : Char) (hc : c ≠ '.') (hs : c ∉ stem) : c ∉ stem ++ '.' :: e ↔ c ∉ e := by
    simp [hc, hs]
  rw [(value_check_eq_iff _ size (trims_append hblank hstem (hlisted e he))).1,
    supports_append_iff hlisted he hstem, hmem '/' (by decide) hslash,
    hmem '\\' (by decide) hback]
  constructor
  · rintro ⟨hext, hs, hb, -⟩
    exact ⟨hs, hb, hext⟩
  · rintro ⟨hs, hb, hext⟩
    exact ⟨hext, hs, hb, hpos, hle⟩

/-- A type with a dot may be uploaded if the part behind the dot is listed too, and a blank that
    a type begins with does not matter. -/
theorem value_check_listed_iff_both :
    let types : List Text := ["tar.gz", "gz", " pdf"]
    let listed : Settings := ⟨none, none, some types⟩
    Settings.blank.set Settings.Key.allowedExtensions.name "Tar.GZ,gz,. pdf" = .ok listed ∧
      (listed.limits.check "backup.2024.tar.gz" 10485760).value = .ok () ∧
      (listed.limits.check "notes. pdf" 1).value = .ok () := by
  intro types listed
  have hset : Settings.blank.set Settings.Key.allowedExtensions.name "Tar.GZ,gz,. pdf" =
    .ok listed := rfl
  refine ⟨hset, ?_, ?_⟩
  · show (listed.limits.check (("backup.2024" : Text) ++ '.' :: ("tar.gz" : Text)) _).value = _
    exact (value_check_listed_iff hset rfl (by decide) (by decide) (by decide) (by decide)
      (fun c hc => by cases hc; rfl) (by decide) (by decide)).2
      ⟨by decide, by decide, "gz", by decide, by decide, ".tar", rfl⟩
  · show (listed.limits.check (("notes" : Text) ++ '.' :: (" pdf" : Text)) _).value = _
    exact (value_check_listed_iff hset rfl (by decide) (by decide) (by decide) (by decide)
      (fun c hc => by cases hc; rfl) (by decide) (by decide)).2
      ⟨by decide, by decide, " pdf", by decide, by decide, List.suffix_rfl⟩

/-- A type with a dot is accepted for the list, and one with a slash or a backslash, but no file
    with such a type. -/
theorem value_check_listed_refused :
    let listed : Settings := ⟨none, none, some ["tar.gz", "a/b", "c\\d"]⟩
    Settings.blank.set Settings.Key.allowedExtensions.name "tar.gz,a/b,c\\d" = .ok listed ∧
      (listed.limits.check "backup.tar.gz" 1).value = .error .unsupportedFileType ∧
      (listed.limits.check "backup.a/b" 1).value = .error .invalidFileName ∧
      (listed.limits.check "backup.c\\d" 1).value = .error .invalidFileName :=
  ⟨rfl, rfl, rfl, rfl⟩

end Backoffice.UploadLimits
