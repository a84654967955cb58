import Backoffice.Proofs.Calendar.Text
import Backoffice.Proofs.Text.Order
import Mathlib.Data.Prod.Lex

/-!
# The order of dates

A date is before another if its year is, or the years are the same and its month is, or so are
the months and its day is; and instants of one date are in the order of their times. Written in
the form `YYYY-MM-DD`, with leading zeros, dates are in the order of their texts.

* `Date.lt_iff`: the order of dates;
* `DateTime.lt_iff`: the order of instants;
* `toText_lt_toText_iff`: dates of the years 0 to 9999 are in the order of their texts.
-/

namespace Backoffice

/-! ### Dates and instants -/

/-- The numbers of a date, the greatest part first. -/
def Date.key (d : Date) : ℤ ×ₗ ℕ ×ₗ ℕ :=
  toLex (d.year, toLex (d.month, d.day))

theorem Date.key_injective : Function.Injective Date.key := by
  rintro ⟨y, m, d, h⟩ ⟨y', m', d', h'⟩ heq
  simpa [key] using heq

instance : LinearOrder Date :=
  LinearOrder.lift' Date.key Date.key_injective

theorem Date.lt_iff {a b : Date} : a < b ↔
    a.year < b.year ∨ a.year = b.year ∧ (a.month < b.month ∨ a.month = b.month ∧ a.day < b.day) := by
  refine Prod.Lex.toLex_lt_toLex.trans (or_congr Iff.rfl (and_congr Iff.rfl ?_))
  exact Prod.Lex.toLex_lt_toLex

/-- The numbers of a time of day, the greatest part first. -/
def TimeOfDay.key (t : TimeOfDay) : ℕ ×ₗ ℕ ×ₗ ℕ ×ₗ ℕ :=
  toLex (t.hour, toLex (t.minute, toLex (t.second, t.nano)))

theorem TimeOfDay.key_injective : Function.Injective TimeOfDay.key := by
  rintro ⟨h, m, s, n, hi⟩ ⟨h', m', s', n', hi'⟩ heq
  simpa [key] using heq

instance : LinearOrder TimeOfDay :=
  LinearOrder.lift' TimeOfDay.key TimeOfDay.key_injective

/-- The date of an instant and the time on it. -/
def DateTime.key (t : DateTime) : Date ×ₗ TimeOfDay :=
  toLex (t.date, t.time)

theorem DateTime.key_injective : Function.Injective DateTime.key := by
  rintro ⟨d, t⟩ ⟨d', t'⟩ heq
  simpa [key] using heq

instance : LinearOrder DateTime :=
  LinearOrder.lift' DateTime.key DateTime.key_injective

theorem DateTime.lt_iff {a b : DateTime} :
    a < b ↔ a.date < b.date ∨ a.date = b.date ∧ a.time < b.time :=
  Prod.Lex.toLex_lt_toLex

/-- Days begin in the order of their dates. -/
theorem Date.atMidnight_lt_atMidnight_iff {a b : Date} : a.atMidnight < b.atMidnight ↔ a < b := by
  rw [DateTime.lt_iff]
  simp [atMidnight]

/-! ### Dates as text -/

variable {year month day year' month' day' : Nat} {a b : Date}

/-- Texts of the form of a date are in the order of their numbers. -/
theorem dashed_lt_dashed_iff (hy : year < 10 ^ 4) (hm : month < 10 ^ 2) (hd : day < 10 ^ 2)
    (hy' : year' < 10 ^ 4) (hm' : month' < 10 ^ 2) (hd' : day' < 10 ^ 2) :
    dashed year month day < dashed year' month' day' ↔
      year < year' ∨ year = year' ∧ (month < month' ∨ month = month' ∧ day < day') := by
  -- The dashes stand at the same places.
  rw [dashed, dashed, List.append_assoc, List.append_assoc, List.cons_append, List.cons_append,
    Text.append_lt_append_iff (Numeral.length_padded_eq (by decide) hy hy'), List.cons_lt_cons_self,
    Text.append_lt_append_iff (Numeral.length_padded_eq (by decide) hm hm'), List.cons_lt_cons_self,
    Numeral.padded_lt_padded_iff (by decide) hy hy', Numeral.padded_lt_padded_iff (by decide) hm hm',
    Numeral.padded_lt_padded_iff (by decide) hd hd', Numeral.padded_inj, Numeral.padded_inj]

/-- Dates of the years 0 to 9999 are in the order of their texts. -/
theorem toText_lt_toText_iff (ha : 0 ≤ a.year ∧ a.year ≤ 9999) (hb : 0 ≤ b.year ∧ b.year ≤ 9999) :
    a.toText < b.toText ↔ a < b := by
  obtain ⟨⟨-, ham⟩, ⟨-, had⟩, -⟩ := a.inCalendar
  obtain ⟨⟨-, hbm⟩, ⟨-, hbd⟩, -⟩ := b.inCalendar
  rw [toText_eq_dashed ha.1 ha.2, toText_eq_dashed hb.1 hb.2,
    dashed_lt_dashed_iff (by omega) (by omega) (by omega) (by omega) (by omega) (by omega),
    Date.lt_iff]
  refine or_congr ?_ (and_congr_left' ?_) <;> omega

/-- Different dates of these years have different texts. -/
theorem toText_inj (ha : 0 ≤ a.year ∧ a.year ≤ 9999) (hb : 0 ≤ b.year ∧ b.year ≤ 9999) :
    a.toText = b.toText ↔ a = b := by
  refine ⟨fun h => ?_, congrArg _⟩
  have hread := ofText?_toText ha.1 ha.2
  rw [h, ofText?_toText hb.1 hb.2] at hread
  exact (Option.some.inj hread).symm

end Backoffice
