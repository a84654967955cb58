import Backoffice.Text.Basic
import Mathlib.Data.Char
import Mathlib.Data.List.Forall2

/-!
# Capitals and small letters

Of the letters only those of ASCII are capital or small here, and a capital stands 32 places
before its small letter.

* `isUpper_iff`, `toNat_toLower`: which letters are made small, and how;
* `toUpper_toLower`: a capital is found again;
* `lowered_eq_lowered_iff`: which texts are the same once they are made small;
* `afterLast_lowered`: the cut at the last of a character that is no letter.
-/

namespace Backoffice.Text

variable {c d : Char} {t u : Text}

theorem isUpper_iff : c.isUpper = true ↔ 65 ≤ c.toNat ∧ c.toNat ≤ 90 :=
  decide_eq_true_iff

theorem isLower_iff : c.isLower = true ↔ 97 ≤ c.toNat ∧ c.toNat ≤ 122 :=
  Bool.and_eq_true_iff.trans (and_congr decide_eq_true_iff decide_eq_true_iff)

theorem toLower_of_not_isUpper (h : ¬ c.isUpper = true) : c.toLower = c :=
  dif_neg fun hc => h (isUpper_iff.2 hc)

theorem toNat_toLower (h : c.isUpper = true) : c.toLower.toNat = c.toNat + 32 := by
  have hn : c.toNat ≤ 90 := (isUpper_iff.1 h).2
  have hc : c.toLower = _ := dif_pos (isUpper_iff.1 h)
  rw [hc]
  show (c.toNat + 32) % 2 ^ 32 = c.toNat + 32
  omega

theorem toNat_toUpper (h : c.isLower = true) : c.toUpper.toNat + 32 = c.toNat := by
  have hn := isLower_iff.1 h
  have hc : c.toUpper = _ := dif_pos (isLower_iff.1 h)
  -- Going back 32 places is going on by the rest of 32 bits.
  have hd : ('A'.val - 'a'.val).toNat = 4294967264 := by decide
  rw [hc]
  show (c.val + ('A'.val - 'a'.val)).toNat + 32 = c.toNat
  rw [UInt32.toNat_add, hd]
  show (c.toNat + 4294967264) % 4294967296 + 32 = c.toNat
  omega

/-- What has been made small is no capital. -/
theorem not_isUpper_toLower (c : Char) : ¬ c.toLower.isUpper = true := by
  by_cases h : c.isUpper = true
  · have hn := isUpper_iff.1 h
    rw [isUpper_iff, toNat_toLower h]
    omega
  · rwa [toLower_of_not_isUpper h]

/-- A capital is found again from its small letter. -/
theorem toUpper_toLower (h : c.isUpper = true) : c.toLower.toUpper = c := by
  have hn := isUpper_iff.1 h
  have hl := toNat_toLower h
  have hu : c.toLower.toUpper.toNat + 32 = c.toLower.toNat :=
    toNat_toUpper (isLower_iff.2 (by omega))
  exact Char.toNat_inj.1 (by omega)

/-- Nothing but a capital changes when it is made small, and becomes a small letter then. -/
theorem toLower_eq_iff {d : Char} (hd : ¬ d.isUpper = true) (hd' : ¬ d.isLower = true) :
    c.toLower = d ↔ c = d := by
  by_cases h : c.isUpper = true
  · have hl : c.toLower.isLower = true := by
      have hn := isUpper_iff.1 h
      rw [isLower_iff, toNat_toLower h]
      omega
    exact iff_of_false (fun he => hd' (he ▸ hl)) fun he => hd (he ▸ h)
  · rw [toLower_of_not_isUpper h]

/-! ### Texts that are the same but for capitals -/

/-- One letter, capital or small: the same, or the one is the other made small. -/
def SameLetter (c d : Char) : Prop :=
  c = d ∨ c.isUpper = true ∧ c.toLower = d ∨ d.isUpper = true ∧ d.toLower = c

instance : DecidableRel SameLetter :=
  fun _ _ => inferInstanceAs (Decidable (_ ∨ _))

/-- The same letters in the same places, capital or small. -/
def SameButCase (t u : Text) : Prop :=
  List.Forall₂ SameLetter t u

instance : DecidableRel SameButCase :=
  fun _ _ => inferInstanceAs (Decidable (List.Forall₂ _ _ _))

theorem toLower_eq_toLower_iff : c.toLower = d.toLower ↔ SameLetter c d := by
  constructor
  · intro h
    by_cases hc : c.isUpper = true
    · by_cases hd : d.isUpper = true
      · left
        rw [← toUpper_toLower hc, h, toUpper_toLower hd]
      · exact .inr (.inl ⟨hc, by rw [h, toLower_of_not_isUpper hd]⟩)
    · rw [toLower_of_not_isUpper hc] at h
      by_cases hd : d.isUpper = true
      · exact .inr (.inr ⟨hd, h.symm⟩)
      · exact .inl (by rw [h, toLower_of_not_isUpper hd])
  · -- What was made small stays so.
    rintro (rfl | ⟨-, rfl⟩ | ⟨-, rfl⟩)
    · rfl
    · rw [toLower_of_not_isUpper (not_isUpper_toLower c)]
    · rw [toLower_of_not_isUpper (not_isUpper_toLower d)]

/-- Making two texts small leaves no difference if and only if there is none but of capitals. -/
theorem lowered_eq_lowered_iff : lowered t = lowered u ↔ SameButCase t u := by
  rw [lowered, lowered, ← List.forall₂_eq_eq_eq, List.forall₂_map_left_iff,
    List.forall₂_map_right_iff]
  simp only [toLower_eq_toLower_iff, SameButCase]

/-- Whether a character is there that is no letter is seen from the small text as well. -/
theorem mem_lowered_iff (hd : ¬ d.isUpper = true) (hd' : ¬ d.isLower = true) :
    d ∈ lowered t ↔ d ∈ t := by
  simp only [lowered, List.mem_map, toLower_eq_iff hd hd', exists_eq_right]

/-- A text without capitals stays as it is when it is made small. -/
theorem lowered_eq_self (h : ∀ c ∈ t, ¬ c.isUpper = true) : lowered t = t :=
  (List.map_congr_left fun c hc => toLower_of_not_isUpper (h c hc)).trans (List.map_id t)

theorem not_isUpper_of_mem_lowered (h : c ∈ lowered t) : ¬ c.isUpper = true := by
  obtain ⟨d, -, rfl⟩ := List.mem_map.1 h
  exact not_isUpper_toLower d

/-- A text without letters is none that was made small, unless it was there before. -/
theorem lowered_eq_iff (h : ∀ c ∈ u, ¬ c.isUpper = true ∧ ¬ c.isLower = true) :
    lowered t = u ↔ t = u := by
  induction u generalizing t with
  | nil => exact List.map_eq_nil_iff
  | cons d u ih =>
    obtain ⟨hd, hd'⟩ := h d List.mem_cons_self
    cases t with
    | nil => exact iff_of_false (List.cons_ne_nil _ _).symm (List.cons_ne_nil _ _).symm
    | cons c t =>
      rw [List.cons_eq_cons, ← toLower_eq_iff hd hd',
        ← ih fun e he => h e (List.mem_cons_of_mem _ he)]
      exact List.cons_eq_cons

/-- The cut at the last of a character that is no letter is where it was. -/
theorem afterLast_lowered (hd : ¬ d.isUpper = true) (hd' : ¬ d.isLower = true) (t : Text) :
    afterLast d (lowered t) = (afterLast d t).map (Prod.map lowered lowered) := by
  induction t with
  | nil => rfl
  | cons c t ih =>
    have hcons : lowered (c :: t) = c.toLower :: lowered t := rfl
    rw [hcons, afterLast, ih, afterLast]
    cases afterLast d t with
    | none =>
      simp only [Option.map_none, toLower_eq_iff hd hd']
      split_ifs <;> rfl
    | some parts => rfl

end Backoffice.Text
