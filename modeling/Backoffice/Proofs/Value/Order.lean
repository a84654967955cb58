import Backoffice.Proofs.Calendar.Order
import Backoffice.Proofs.Value.Day

/-!
# Dates that are sorted as texts

Whoever sorts the texts of dates sorts the dates: octet by octet, the text of an earlier date of
the years 0 to 9999 comes first, and the times of day do not show. Of two texts that are dates the
one that comes first is read as the earlier instant.

* `Value.Holds`: the values that are an instant;
* `toDay_sorted`: texts and dates are in the same order.
-/

namespace Backoffice

variable {v : Value} {u : DateTime}

/-- The value is an instant that is not absent. -/
inductive Value.Holds : Value → DateTime → Prop
  | dateTime (u : DateTime) : Holds (.dateTime u) u
  | optDateTime (u : DateTime) : Holds (.optDateTime (some u)) u

/-- The text of such a value is that of its date if the year is one of 0 to 9999. -/
theorem Value.Holds.value_toDay (h : v.Holds u) (hu : 0 ≤ u.date.year ∧ u.date.year ≤ 9999) :
    v.toDay.value = u.date.toText := by
  rw [← dayText_eq_toText hu.1 hu.2]
  cases h <;> rfl

/-- Texts that are dates are in the order of the dates that they are read as. -/
theorem lt_iff_of_ofText? {s t : Text} {a b : Date} (ha : Date.ofText? s = some a)
    (hb : Date.ofText? t = some b) : s < t ↔ a < b := by
  rw [← toText_of_ofText? ha, ← toText_of_ofText? hb]
  exact toText_lt_toText_iff (year_of_ofText? ha) (year_of_ofText? hb)

/-- Of instants in the years 0 to 9999, the texts are in the order of the dates, octet by octet,
    and the same if the dates are. Texts that are dates are in the order of the instants that
    they are read as. -/
theorem toDay_sorted :
    (∀ (v w : Value) (a b : DateTime), v.Holds a → w.Holds b →
      (0 ≤ a.date.year ∧ a.date.year ≤ 9999) → (0 ≤ b.date.year ∧ b.date.year ≤ 9999) →
      (Text.octetList v.toDay.value ≤ Text.octetList w.toDay.value ↔ a.date ≤ b.date) ∧
        (v.toDay.value = w.toDay.value ↔ a.date = b.date)) ∧
    ∀ s t : Text, IsDay s → IsDay t →
      (Text.octetList s < Text.octetList t ↔
        (DateTime.ofDay s).value < (DateTime.ofDay t).value) := by
  constructor
  · intro v w a b hv hw ha hb
    rw [hv.value_toDay ha, hw.value_toDay hb]
    refine ⟨?_, toText_inj ha hb⟩
    rw [← List.not_lt, ← not_lt, Text.octetList_lt_iff, toText_lt_toText_iff hb ha]
  · intro s t hs ht
    obtain ⟨a, ha⟩ := Option.isSome_iff_exists.1 (isDay_iff.1 hs)
    obtain ⟨b, hb⟩ := Option.isSome_iff_exists.1 (isDay_iff.1 ht)
    rw [value_ofDay_of_eq_some ha, value_ofDay_of_eq_some hb, Text.octetList_lt_iff,
      Date.atMidnight_lt_atMidnight_iff, lt_iff_of_ofText? ha hb]

/-- The leap second at the end of the year 999 comes before the year 1000, and the last day of
    February before March in the year 0. Another time of day makes no difference. -/
theorem toDay_sorted_new_year :
    let last : DateTime := ⟨⟨999, 12, 31, by decide⟩, ⟨23, 59, 59, 1500000000, by decide⟩⟩
    let noon : DateTime := ⟨⟨999, 12, 31, by decide⟩, ⟨12, 0, 0, 0, by decide⟩⟩
    let first : DateTime := ⟨⟨1000, 1, 1, by decide⟩, .midnight⟩
    Text.octetList (Value.toDay (.optDateTime (some last))).value ≤
        Text.octetList (Value.toDay (.dateTime first)).value ∧
      (Value.toDay (.optDateTime (some last))).value = (Value.toDay (.dateTime noon)).value ∧
      IsDay "0000-02-29" ∧ IsDay "0000-03-01" ∧
      Text.octetList "0000-02-29" < Text.octetList "0000-03-01" := by
  intro last noon first
  have hfeb : IsDay "0000-02-29" := by decide
  have hmarch : IsDay "0000-03-01" := by decide
  obtain ⟨hsorted, hread⟩ := toDay_sorted
  refine ⟨?_, ?_, hfeb, hmarch, (hread _ _ hfeb hmarch).2 (by decide)⟩
  · exact (hsorted _ _ last first (.optDateTime _) (.dateTime _) (by decide) (by decide)).1.2
      (by decide)
  · exact (hsorted _ _ last noon (.optDateTime _) (.dateTime _) (by decide) (by decide)).2.2
      (by decide)

end Backoffice
