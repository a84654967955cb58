import Backoffice.Calendar.Text
import Backoffice.Proofs.Text.Numeral
import Mathlib.Tactic.IntervalCases
import Mathlib.Tactic.SplitIfs

/-!
# Dates read and written

A date of the years 0 to 9999 is written in one way, and reading takes just what is so
written. The text of any other date begins with a sign, which does not go away when the text
is cut off after ten characters.

* `InCalendar`: the days there are, by the rule for the lengths of months;
* `Denotes`: the texts of the form `YYYY-MM-DD`, with their numbers;
* `ofText?_eq_some_iff`: which texts are read as which date;
* `denotes_dayText_iff`: which dates are written in this form.
-/

namespace Backoffice

/-! ### The calendar -/

/-- The days of the calendar: thirty in April, June, September and November, twenty-eight in
    February, and thirty-one in the other months; and a twenty-ninth of February in every
    fourth year, but not in a full century unless its number is a multiple of four. -/
structure InCalendar (year : Int) (month day : Nat) : Prop where
  month_mem : 1 ≤ month ∧ month ≤ 12
  day_mem : 1 ≤ day ∧ day ≤ 31
  le_thirty : month = 4 ∨ month = 6 ∨ month = 9 ∨ month = 11 → day ≤ 30
  le_twentyNine : month = 2 → day ≤ 29
  leap : month = 2 → day = 29 → 4 ∣ year ∧ (100 ∣ year → 400 ∣ year)

theorem isLeapYear_iff {year : Int} :
    isLeapYear year = true ↔ 4 ∣ year ∧ (100 ∣ year → 400 ∣ year) := by
  simp only [isLeapYear, Bool.and_eq_true, Bool.or_eq_true, decide_eq_true_eq]
  omega

theorem monthLength_eq {month : Nat} (year : Int) (hm : 1 ≤ month ∧ month ≤ 12) :
    monthLength year month =
      if month = 2 then if 4 ∣ year ∧ (100 ∣ year → 400 ∣ year) then 29 else 28
      else if month = 4 ∨ month = 6 ∨ month = 9 ∨ month = 11 then 30 else 31 := by
  obtain ⟨hlo, hhi⟩ := hm
  interval_cases month <;> simp [monthLength, isLeapYear_iff]

theorem monthLength_eq_zero {month : Nat} (year : Int) (hm : ¬ (1 ≤ month ∧ month ≤ 12)) :
    monthLength year month = 0 := by
  unfold monthLength
  split <;> omega

/-- The lengths of the months say which days there are. -/
theorem inCalendar_iff {year : Int} {month day : Nat} :
    InCalendar year month day ↔ 1 ≤ day ∧ day ≤ monthLength year month := by
  by_cases hm : 1 ≤ month ∧ month ≤ 12
  · rw [monthLength_eq year hm]
    constructor
    · rintro ⟨-, hday, hthirty, htwentyNine, hleap⟩
      split_ifs <;> omega
    · rintro ⟨hpos, hle⟩
      split_ifs at hle <;> constructor <;> omega
  · refine iff_of_false (fun h => hm h.month_mem) fun ⟨hpos, hle⟩ => ?_
    rw [monthLength_eq_zero year hm] at hle
    omega

theorem Date.inCalendar (d : Date) : InCalendar d.year d.month d.day :=
  inCalendar_iff.2 d.exists_day

/-! ### The form of a date -/

/-- The text is four digits, two and two, with dashes between them, and they denote the
    numbers. -/
def Denotes (t : Text) (year month day : Nat) : Prop :=
  ∃ y m d : Text, t = y ++ '-' :: m ++ '-' :: d ∧
    (y.length = 4 ∧ m.length = 2 ∧ d.length = 2) ∧
    (∀ c ∈ y ++ m ++ d, c.isDigit = true) ∧
    Numeral.value y = year ∧ Numeral.value m = month ∧ Numeral.value d = day

/-- The text with three numbers in the form of a date. -/
def dashed (year month day : Nat) : Text :=
  Numeral.padded 4 year ++ '-' :: Numeral.padded 2 month ++ '-' :: Numeral.padded 2 day

variable {t : Text} {year month day : Nat} {d : Date}

/-- Numbers that are not too large are denoted by one text. -/
theorem denotes_iff : Denotes t year month day ↔
    (year < 10 ^ 4 ∧ month < 10 ^ 2 ∧ day < 10 ^ 2) ∧ t = dashed year month day := by
  constructor
  · rintro ⟨y, m, d, rfl, ⟨hy, hm, hd⟩, hdigit, rfl, rfl, rfl⟩
    have hdy : ∀ c ∈ y, c.isDigit = true := fun c hc => hdigit c (by simp [hc])
    have hdm : ∀ c ∈ m, c.isDigit = true := fun c hc => hdigit c (by simp [hc])
    have hdd : ∀ c ∈ d, c.isDigit = true := fun c hc => hdigit c (by simp [hc])
    refine ⟨⟨hy ▸ Numeral.value_lt hdy, hm ▸ Numeral.value_lt hdm, hd ▸ Numeral.value_lt hdd⟩, ?_⟩
    have hne {u : Text} {k : Nat} (hl : u.length = k + 1) : u ≠ [] :=
      List.ne_nil_of_length_eq_add_one hl
    have hy' := Numeral.padded_value (hne hy) hdy
    have hm' := Numeral.padded_value (hne hm) hdm
    have hd' := Numeral.padded_value (hne hd) hdd
    rw [hy] at hy'
    rw [hm] at hm'
    rw [hd] at hd'
    rw [dashed, hy', hm', hd']
  · rintro ⟨⟨hy, hm, hd⟩, rfl⟩
    refine ⟨_, _, _, rfl, ⟨Numeral.length_padded (by decide) hy,
      Numeral.length_padded (by decide) hm, Numeral.length_padded (by decide) hd⟩, fun c hc => ?_,
      Numeral.value_padded _ _, Numeral.value_padded _ _, Numeral.value_padded _ _⟩
    simp only [List.mem_append] at hc
    rcases hc with (hc | hc) | hc <;> exact Numeral.isDigit_of_mem_padded hc

theorem Denotes.length_eq (h : Denotes t year month day) : t.length = 10 := by
  obtain ⟨y, m, d, rfl, ⟨hy, hm, hd⟩, -⟩ := h
  simp [hy, hm, hd]

/-- A text of this form begins with a digit, and with no sign. -/
theorem Denotes.isDigit_of_head? {c : Char} (h : Denotes t year month day)
    (hc : t.head? = some c) : c.isDigit = true := by
  obtain ⟨y, m, d, rfl, ⟨hy, -⟩, hdigit, -⟩ := h
  cases y with
  | nil => cases hy
  | cons e y =>
    rw [← Option.some.inj hc]
    exact hdigit e (by simp)

/-- The texts that are read as a date are those of its numbers in this form. -/
theorem ofText?_eq_some_iff : Date.ofText? t = some d ↔
    ∃ year : Nat, d.year = year ∧ Denotes t year d.month d.day := by
  constructor
  · intro h
    unfold Date.ofText? at h
    split at h
    · next y₁ y₂ y₃ y₄ s₁ m₁ m₂ s₂ d₁ d₂ =>
      split_ifs at h with hs
      obtain ⟨rfl, rfl, hdigit⟩ := hs
      rw [Date.of?] at h
      split_ifs at h with hday
      cases h
      exact ⟨_, rfl, [y₁, y₂, y₃, y₄], [m₁, m₂], [d₁, d₂], rfl, ⟨rfl, rfl, rfl⟩,
        by simpa using hdigit, rfl, rfl, rfl⟩
    · cases h
  · obtain ⟨year, month, day, hday⟩ := d
    rintro ⟨year, rfl, y, m, d, rfl, ⟨hy, hm, hd⟩, hdigit, rfl, rfl, rfl⟩
    -- Each part has as many characters as the form has places.
    match y, hy, m, hm, d, hd with
    | [y₁, y₂, y₃, y₄], _, [m₁, m₂], _, [d₁, d₂], _ =>
      have hall : [y₁, y₂, y₃, y₄, m₁, m₂, d₁, d₂].all Char.isDigit = true :=
        List.all_eq_true.2 hdigit
      show (if '-' = '-' ∧ '-' = '-' ∧ [y₁, y₂, y₃, y₄, m₁, m₂, d₁, d₂].all Char.isDigit then
        Date.of? _ _ _ else none) = _
      rw [if_pos ⟨rfl, rfl, hall⟩, Date.of?, dif_pos hday]

/-! ### Dates in this form -/

theorem toText_eq_dashed (h0 : 0 ≤ d.year) (h9999 : d.year ≤ 9999) :
    d.toText = dashed d.year.toNat d.month d.day := by
  rw [Date.toText, yearText, if_pos ⟨h0, h9999⟩, dashed]
  simp

theorem Date.denotes_toText (h0 : 0 ≤ d.year) (h9999 : d.year ≤ 9999) :
    Denotes d.toText d.year.toNat d.month d.day := by
  obtain ⟨⟨-, hm⟩, ⟨-, hd⟩, -⟩ := d.inCalendar
  refine denotes_iff.2 ⟨⟨?_, ?_, ?_⟩, toText_eq_dashed h0 h9999⟩ <;> omega

/-- Only dates of the years 0 to 9999 are read. -/
theorem year_of_ofText? (h : Date.ofText? t = some d) : 0 ≤ d.year ∧ d.year ≤ 9999 := by
  obtain ⟨year, hy, hd⟩ := ofText?_eq_some_iff.1 h
  obtain ⟨⟨hlt, -⟩, -⟩ := denotes_iff.1 hd
  omega

/-- A text that is read as a date is how the date is written. -/
theorem toText_of_ofText? (h : Date.ofText? t = some d) : d.toText = t := by
  obtain ⟨h0, h9999⟩ := year_of_ofText? h
  obtain ⟨year, hy, hd⟩ := ofText?_eq_some_iff.1 h
  rw [toText_eq_dashed h0 h9999, (denotes_iff.1 hd).2, hy, Int.toNat_natCast]

theorem ofText?_toText (h0 : 0 ≤ d.year) (h9999 : d.year ≤ 9999) :
    Date.ofText? d.toText = some d :=
  ofText?_eq_some_iff.2 ⟨d.year.toNat, (Int.toNat_of_nonneg h0).symm, d.denotes_toText h0 h9999⟩

theorem dayText_eq_toText {u : DateTime} (h0 : 0 ≤ u.date.year) (h9999 : u.date.year ≤ 9999) :
    u.dayText = u.date.toText := by
  rw [DateTime.dayText, List.take_of_length_le]
  exact Nat.le_of_eq (u.date.denotes_toText h0 h9999).length_eq

/-- The dates of other years begin with a sign, however much is cut off. -/
theorem head?_dayText {u : DateTime} (h : ¬ (0 ≤ u.date.year ∧ u.date.year ≤ 9999)) :
    u.dayText.head? = some (if u.date.year < 0 then '-' else '+') := by
  rw [DateTime.dayText, Date.toText, yearText, if_neg h]
  rfl

/-- The dates of the years 0 to 9999 are written in the form, and no others. -/
theorem denotes_dayText_iff {u : DateTime} :
    (∃ year month day, Denotes u.dayText year month day) ↔
      0 ≤ u.date.year ∧ u.date.year ≤ 9999 := by
  constructor
  · rintro ⟨year, month, day, hd⟩
    by_contra h
    have hdigit := hd.isDigit_of_head? (head?_dayText h)
    split_ifs at hdigit <;> exact absurd hdigit (by decide)
  · rintro ⟨h0, h9999⟩
    rw [dayText_eq_toText h0 h9999]
    exact ⟨_, _, _, u.date.denotes_toText h0 h9999⟩

end Backoffice
