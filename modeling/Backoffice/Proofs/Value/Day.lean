import Backoffice.Proofs.Calendar.Text
import Backoffice.Value.Day

/-!
# Dates that come and go

A text that is a date is read as the beginning of that day and written as it was; every other
text is read as the zero instant, and so is not told apart from the first day of year one. An
instant that is written and read again comes back as its own day or as the zero instant, and
never as another day.

* `IsDay`: the texts that are a date;
* `value_ofDay`: what a text is read as, and what is then written;
* `value_ofDay_toDay`: what an instant is written and read as.
-/

namespace Backoffice

variable {t : Text} {d : Date}

/-- The text is a date: it has the form of one, and the day exists. -/
def IsDay (t : Text) : Prop :=
  ∃ year month day : Nat, Denotes t year month day ∧ InCalendar year month day

theorem ofText?_of_denotes {year month day : Nat} (h : Denotes t year month day)
    (hc : InCalendar year month day) :
    Date.ofText? t = some ⟨year, month, day, inCalendar_iff.1 hc⟩ :=
  ofText?_eq_some_iff.2 ⟨year, rfl, h⟩

theorem isDay_of_ofText? (h : Date.ofText? t = some d) : IsDay t := by
  obtain ⟨year, hy, hd⟩ := ofText?_eq_some_iff.1 h
  exact ⟨year, d.month, d.day, hd, hy ▸ d.inCalendar⟩

theorem isDay_iff : IsDay t ↔ (Date.ofText? t).isSome = true := by
  rw [Option.isSome_iff_exists]
  refine ⟨fun ⟨_, _, _, hd, hc⟩ => ⟨_, ofText?_of_denotes hd hc⟩, fun ⟨d, h⟩ => isDay_of_ofText? h⟩

instance : Decidable (IsDay t) :=
  decidable_of_iff _ isDay_iff.symm

theorem value_ofDay_of_eq_some (h : Date.ofText? t = some d) :
    (DateTime.ofDay t).value = d.atMidnight := by
  rw [DateTime.ofDay, h]
  rfl

/-- A text that is a date is written as it was read. -/
theorem dayText_ofDay (h : Date.ofText? t = some d) : (DateTime.ofDay t).value.dayText = t := by
  obtain ⟨h0, h9999⟩ := year_of_ofText? h
  rw [value_ofDay_of_eq_some h, dayText_eq_toText (u := d.atMidnight) h0 h9999]
  exact toText_of_ofText? h

theorem value_ofDay_of_not_isDay (h : ¬ IsDay t) : (DateTime.ofDay t).value = .zero := by
  have hn : Date.ofText? t = none := by simpa [isDay_iff] using h
  rw [DateTime.ofDay, hn]
  rfl

/-- The zero instant is the beginning of one date, which is written in one way. -/
theorem eq_of_atMidnight_eq_zero (h : Date.ofText? t = some d) (hd : d.atMidnight = .zero) :
    t = "0001-01-01" := by
  rw [← toText_of_ofText? h, show d = DateTime.zero.date from congrArg DateTime.date hd]
  rfl

/-- A text of the form of a date, with the numbers of a day that exists, is read as the
    beginning of that day, and every other text as the zero instant. Written again, a date is
    the text that it was, and any other text is the first day of year one; and what is read is
    the zero instant if the text was no date, or that first day. -/
theorem value_ofDay (t : Text) :
    (∀ year month day : Nat, Denotes t year month day → InCalendar year month day →
      ∃ d : Date, (d.year = year ∧ d.month = month ∧ d.day = day) ∧
        (DateTime.ofDay t).value = d.atMidnight) ∧
    (¬ IsDay t → (DateTime.ofDay t).value = .zero) ∧
    (Value.toDay (.dateTime (Value.toDateTime (.text t)).value)).value =
      (if IsDay t then t else "0001-01-01") ∧
    ((DateTime.ofDay t).value.isZero = true ↔ ¬ IsDay t ∨ t = "0001-01-01") := by
  refine ⟨fun year month day hd hc => ?_, value_ofDay_of_not_isDay, ?_, ?_⟩
  · exact ⟨_, ⟨rfl, rfl, rfl⟩, value_ofDay_of_eq_some (ofText?_of_denotes hd hc)⟩
  · show (DateTime.ofDay t).value.dayText = _
    split_ifs with h
    · obtain ⟨d, hd⟩ := Option.isSome_iff_exists.1 (isDay_iff.1 h)
      exact dayText_ofDay hd
    · rw [value_ofDay_of_not_isDay h]
      rfl
  · rw [DateTime.isZero, decide_eq_true_iff]
    constructor
    · intro hz
      by_cases h : IsDay t
      · obtain ⟨d, hd⟩ := Option.isSome_iff_exists.1 (isDay_iff.1 h)
        exact .inr (eq_of_atMidnight_eq_zero hd (value_ofDay_of_eq_some hd ▸ hz))
      · exact .inl h
    · rintro (h | rfl)
      · exact value_ofDay_of_not_isDay h
      · rfl

/-- A twenty-ninth of February is a date in the years 0 and 2000 and not in 1900. Nine
    characters are no date, although they have ten octets and all but the dashes are digits. -/
theorem value_ofDay_february :
    (Denotes "0000-02-29" 0 2 29 ∧ InCalendar 0 2 29 ∧
      ∃ d : Date, (d.year = 0 ∧ d.month = 2 ∧ d.day = 29) ∧
        (DateTime.ofDay "0000-02-29").value = d.atMidnight) ∧
    (IsDay "2000-02-29" ∧
      (Value.toDay (.dateTime (Value.toDateTime (.text "2000-02-29")).value)).value =
        "2000-02-29") ∧
    (¬ IsDay "1900-02-29" ∧ (DateTime.ofDay "1900-02-29").value = .zero) ∧
    (¬ IsDay "202٤-3-05" ∧ (DateTime.ofDay "202٤-3-05").value.isZero = true) := by
  have hd : Denotes "0000-02-29" 0 2 29 := denotes_iff.2 ⟨by decide, rfl⟩
  have hc : InCalendar 0 2 29 := inCalendar_iff.2 (by decide)
  have h2000 : IsDay "2000-02-29" := by decide
  have h1900 : ¬ IsDay "1900-02-29" := by decide
  have hother : ¬ IsDay "202٤-3-05" := by decide
  refine ⟨⟨hd, hc, (value_ofDay _).1 0 2 29 hd hc⟩, ⟨h2000, ?_⟩,
    ⟨h1900, (value_ofDay _).2.1 h1900⟩, hother, (value_ofDay _).2.2.2.2 (.inl hother)⟩
  rw [(value_ofDay _).2.2.1, if_pos h2000]

/-! ### Written and read again -/

/-- An instant whose date is written and read again is the beginning of its day if the year is
    one of 0 to 9999. Otherwise it is the zero instant, since the ten characters that are
    written are then not of the form of a date. -/
theorem value_ofDay_toDay (u : DateTime) (v : Value)
    (hv : v = .dateTime u ∨ v = .optDateTime (some u)) :
    ((∃ year month day, Denotes (Value.toDay v).value year month day) ↔
      0 ≤ u.date.year ∧ u.date.year ≤ 9999) ∧
    (DateTime.ofDay (Value.toDay v).value).value =
      if 0 ≤ u.date.year ∧ u.date.year ≤ 9999 then u.date.atMidnight else .zero := by
  have hday : (Value.toDay v).value = u.dayText := by
    rcases hv with rfl | rfl <;> rfl
  rw [hday]
  refine ⟨denotes_dayText_iff, ?_⟩
  split_ifs with h
  · rw [dayText_eq_toText h.1 h.2]
    exact value_ofDay_of_eq_some (ofText?_toText h.1 h.2)
  · refine value_ofDay_of_not_isDay fun ⟨year, month, day, hd, _⟩ => ?_
    exact h (denotes_dayText_iff.1 ⟨year, month, day, hd⟩)

/-- A leap second in a year of five digits, of which ten characters are `+12345-06-`, is read
    as the zero instant, and the last second of the year 9999 as its day. -/
theorem value_ofDay_toDay_long :
    let leap : DateTime := ⟨⟨12345, 6, 30, by decide⟩, ⟨23, 59, 59, 1500000000, by decide⟩⟩
    let last : DateTime := ⟨⟨9999, 12, 31, by decide⟩, ⟨23, 59, 59, 0, by decide⟩⟩
    (DateTime.ofDay (Value.toDay (.dateTime leap)).value).value = .zero ∧
      (DateTime.ofDay (Value.toDay (.optDateTime (some last))).value).value =
        last.date.atMidnight := by
  intro leap last
  exact ⟨(value_ofDay_toDay leap _ (.inl rfl)).2, (value_ofDay_toDay last _ (.inr rfl)).2⟩

end Backoffice
