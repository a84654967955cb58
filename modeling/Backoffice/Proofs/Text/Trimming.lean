import Backoffice.Proofs.Text.Letters
import Backoffice.Text.Blank
import Mathlib.Data.List.DropRight
import Mathlib.Data.List.TakeWhile

/-!
# Trimming

What is left of a trimmed text neither begins nor ends with a blank, and nothing but blanks was
cut off. There is only one such middle, so blanks around a text make no difference, and as no
letter is blank, capitals may be made small before or after.

* `trim_eq_iff`: what trimming is;
* `trim_append`: blanks around a text;
* `trim_lowered`: trimming and capitals.
-/

namespace Backoffice.Text

variable {c : Char} {t u before after : Text}

/-- Nothing but blanks. -/
def AllBlank (t : Text) : Prop :=
  ∀ c ∈ t, isBlank c = true

instance : DecidablePred AllBlank :=
  fun t => List.decidableBAll (isBlank · = true) t

/-- `u` is what stands in `t` between the blanks at its ends. -/
structure Trims (t u : Text) : Prop where
  between : ∃ before after, AllBlank before ∧ AllBlank after ∧ t = before ++ u ++ after
  begins : ∀ c ∈ u.head?, isBlank c = false
  ends : ∀ c ∈ u.getLast?, isBlank c = false

/-! ### Blanks around a text -/

theorem trimStart_append (h : AllBlank before) : trimStart (before ++ t) = trimStart t :=
  List.dropWhile_append_of_pos h

theorem trimEnd_append (h : AllBlank after) : trimEnd (t ++ after) = trimEnd t := by
  have hr : AllBlank after.reverse := fun c hc => h c (List.mem_reverse.1 hc)
  rw [trimEnd, List.reverse_append, List.dropWhile_append_of_pos hr, trimEnd]

/-- What is not all blank is where trimming at the beginning stops. -/
theorem trimStart_append_of_not_allBlank (h : ¬ AllBlank t) :
    trimStart (t ++ u) = trimStart t ++ u := by
  have hne : t.dropWhile isBlank ≠ [] := mt List.dropWhile_eq_nil_iff.1 h
  rw [trimStart, List.dropWhile_append, if_neg (mt List.isEmpty_iff.1 hne), trimStart]

/-- What is not all blank is where trimming at the end stops. -/
theorem trimEnd_append_of_not_allBlank (h : ¬ AllBlank u) : trimEnd (t ++ u) = t ++ trimEnd u := by
  have hr : ¬ AllBlank u.reverse := fun hb => h fun c hc => hb c (List.mem_reverse.2 hc)
  have hs := trimStart_append_of_not_allBlank (u := t.reverse) hr
  rw [trimStart, trimStart] at hs
  rw [trimEnd, List.reverse_append, hs, List.reverse_append, List.reverse_reverse, trimEnd]

theorem trimStart_eq_nil (h : AllBlank t) : trimStart t = [] :=
  List.dropWhile_eq_nil_iff.2 h

/-- Blanks around a text are cut off with those of the text. -/
theorem trim_append (hb : AllBlank before) (ha : AllBlank after) :
    trim (before ++ t ++ after) = trim t := by
  rw [trim, List.append_assoc, trimStart_append hb, trim]
  by_cases ht : AllBlank t
  · -- Then there is nothing left on either side.
    rw [trimStart_eq_nil (List.forall_mem_append.2 ⟨ht, ha⟩), trimStart_eq_nil ht]
  · rw [trimStart_append_of_not_allBlank ht, trimEnd_append ha]

theorem trimStart_eq_self (h : ∀ c ∈ t.head?, isBlank c = false) : trimStart t = t := by
  cases t with
  | nil => rfl
  | cons c cs => exact List.dropWhile_cons_of_neg (by simp [h c rfl])

theorem trimEnd_eq_self (h : ∀ c ∈ t.getLast?, isBlank c = false) : trimEnd t = t :=
  List.rdropWhile_eq_self_iff.2 fun ht => by simp [h _ (List.getLast?_eq_some_getLast ht)]

/-! ### What trimming is -/

theorem isBlank_of_head?_trimStart (hc : c ∈ (trimStart t).head?) : isBlank c = false := by
  have h := List.head?_dropWhile_not isBlank t
  rw [trimStart] at hc
  rw [hc] at h
  simpa using h

theorem isBlank_of_getLast?_trimEnd (hc : c ∈ (trimEnd t).getLast?) : isBlank c = false := by
  rw [trimEnd, List.getLast?_reverse] at hc
  exact isBlank_of_head?_trimStart hc

/-- Trimming cuts off the blanks at both ends, all of them and nothing else. -/
theorem trims_trim (t : Text) : Trims t (trim t) where
  between := by
    refine ⟨t.takeWhile isBlank, (trimStart t).rtakeWhile isBlank,
      fun c hc => List.mem_takeWhile_imp hc, fun c hc => List.mem_rtakeWhile_imp hc, ?_⟩
    have hend : trim t ++ (trimStart t).rtakeWhile isBlank = trimStart t :=
      List.rdropWhile_append_rtakeWhile
    rw [List.append_assoc, hend, trimStart, List.takeWhile_append_dropWhile]
  begins := by
    -- What is left begins as it did before the end was cut off.
    intro c hc
    obtain ⟨rest, hrest⟩ : trim t <+: trimStart t := List.rdropWhile_prefix _ _
    refine isBlank_of_head?_trimStart (t := t) ?_
    rw [← hrest, List.head?_append, hc]
    rfl
  ends := fun c hc => isBlank_of_getLast?_trimEnd hc

/-- Nothing new stands in a trimmed text. -/
theorem mem_of_mem_trim (h : c ∈ trim t) : c ∈ t := by
  obtain ⟨before, after, -, -, ht⟩ := (trims_trim t).between
  rw [ht]
  exact List.mem_append_left _ (List.mem_append_right _ h)

/-- There is one middle without blanks at its ends, and trimming finds it. -/
theorem trim_eq_iff : trim t = u ↔ Trims t u := by
  constructor
  · rintro rfl
    exact trims_trim t
  · rintro ⟨⟨before, after, hb, ha, rfl⟩, hu, hu'⟩
    rw [trim_append hb ha, trim, trimStart_eq_self hu, trimEnd_eq_self hu']

/-- A text without blanks at its ends is all middle. -/
theorem trims_self (hbegins : ∀ c ∈ t.head?, isBlank c = false)
    (hends : ∀ c ∈ t.getLast?, isBlank c = false) : Trims t t :=
  trim_eq_iff.1 (by rw [trim, trimStart_eq_self hbegins, trimEnd_eq_self hends])

/-! ### Blanks and capitals -/

/-- No letter is blank. -/
theorem isBlank_toLower (c : Char) : isBlank c.toLower = isBlank c := by
  by_cases h : c.isUpper = true
  · have hc := isUpper_iff.1 h
    have hblank (d : Char) (hd : 65 ≤ d.toNat) (hd' : d.toNat ≤ 122) : isBlank d = false := by
      simp only [isBlank, blankRanges, List.any_cons, List.any_nil, Bool.or_eq_false_iff,
        Bool.and_eq_false_iff, decide_eq_false_iff_not, and_true]
      omega
    rw [hblank c hc.1 (by omega), hblank c.toLower (by rw [toNat_toLower h]; omega)
      (by rw [toNat_toLower h]; omega)]
  · rw [toLower_of_not_isUpper h]

theorem trimStart_lowered (t : Text) : trimStart (lowered t) = lowered (trimStart t) := by
  have h : isBlank ∘ Char.toLower = isBlank := funext isBlank_toLower
  rw [trimStart, lowered, List.dropWhile_map, h]
  rfl

theorem trimEnd_lowered (t : Text) : trimEnd (lowered t) = lowered (trimEnd t) := by
  have hr (s : Text) : (lowered s).reverse = lowered s.reverse := List.map_reverse.symm
  have h := trimStart_lowered t.reverse
  rw [trimStart, trimStart] at h
  rw [trimEnd, hr, h, hr, trimEnd]

/-- Capitals may be made small before a text is trimmed or after. -/
theorem trim_lowered (t : Text) : trim (lowered t) = lowered (trim t) := by
  rw [trim, trimStart_lowered, trimEnd_lowered, trim]

end Backoffice.Text
