import Backoffice.Proofs.Calendar.Text
import Backoffice.Proofs.Text.Pieces

/-!
# Instants as text

The text of an instant is that of its date, a space, and that of its time of day; a date holds no
space. Months, days, hours, minutes and seconds have two digits each; only the year at the beginning
and the fraction of a second at the end have more or fewer, and either can be told from its own
text. So the text can be cut into its parts again, and each part says its number. No second is
written as 60 but a leap second.

* `yearText_inj`, `Date.toText_injective`: dates of any year have different texts;
* `TimeOfDay.toText_injective`: so have times of day, leap seconds included;
* `DateTime.toText_injective`, `take_toText`: instants have different texts, which begin with
  their days.
-/

namespace Backoffice

/-- Numbers of at most two digits are written in equally many. -/
theorem length_padded_two {m n : Nat} (hm : m < 10 ^ 2) (hn : n < 10 ^ 2) :
    (Numeral.padded 2 m).length = (Numeral.padded 2 n).length :=
  Numeral.length_padded_eq Nat.two_pos hm hn

/-! ### Dates -/

/-- The sign of a year that is written with one. -/
def yearSign (year : Int) : Char :=
  if year < 0 then '-' else '+'

theorem isDigit_yearSign (year : Int) : (yearSign year).isDigit = false := by
  rw [yearSign]
  split_ifs <;> rfl

theorem yearText_eq (year : Int) : yearText year =
    if 0 ≤ year ∧ year ≤ 9999 then Numeral.padded 4 year.toNat
    else yearSign year :: Numeral.padded 4 year.natAbs :=
  rfl

/-- Years that are written without a sign begin with a digit, and the others with their sign. -/
theorem yearText_inj {a b : Int} : yearText a = yearText b ↔ a = b := by
  refine ⟨fun h => ?_, congrArg _⟩
  rw [yearText_eq, yearText_eq] at h
  split_ifs at h with ha hb hb
  · have hnat := Numeral.padded_inj.1 h
    omega
  · exact absurd h (Numeral.padded_ne_cons (isDigit_yearSign b))
  · exact absurd h.symm (Numeral.padded_ne_cons (isDigit_yearSign a))
  · obtain ⟨hsign, ht⟩ := List.cons.inj h
    have hnat := Numeral.padded_inj.1 ht
    rw [yearSign, yearSign] at hsign
    split_ifs at hsign with hna hnb hnb
    · omega
    · exact absurd hsign (by decide)
    · exact absurd hsign (by decide)
    · omega

theorem four_le_length_yearText (year : Int) : 4 ≤ (yearText year).length := by
  rw [yearText_eq]
  split_ifs
  · exact Numeral.le_length_padded 4 _
  · exact Nat.le_succ_of_le (Numeral.le_length_padded 4 _)

/-- The year has what the month and the day leave of the text, and they have two digits each. -/
theorem Date.toText_injective : Function.Injective Date.toText := by
  intro a b h
  obtain ⟨⟨-, ham⟩, ⟨-, had⟩, -⟩ := a.inCalendar
  obtain ⟨⟨-, hbm⟩, ⟨-, hbd⟩, -⟩ := b.inCalendar
  rw [toText, toText] at h
  obtain ⟨h, hday⟩ := List.append_inj' h (length_padded_two (by omega) (by omega))
  obtain ⟨h, -⟩ := List.append_inj' h rfl
  obtain ⟨h, hmonth⟩ := List.append_inj' h (length_padded_two (by omega) (by omega))
  obtain ⟨hyear, -⟩ := List.append_inj' h rfl
  cases a
  cases b
  rw [Date.mk.injEq]
  exact ⟨yearText_inj.1 hyear, Numeral.padded_inj.1 hmonth, Numeral.padded_inj.1 hday⟩

theorem Date.ten_le_length_toText (d : Date) : 10 ≤ d.toText.length := by
  have hyear := four_le_length_yearText d.year
  have hmonth := Numeral.le_length_padded 2 d.month
  have hday := Numeral.le_length_padded 2 d.day
  simp only [toText, List.length_append]
  show 10 ≤ _ + 1 + _ + 1 + _
  omega

theorem Date.space_not_mem_toText (d : Date) : ' ' ∉ d.toText := by
  have hdigits (width n : Nat) : ' ' ∉ Numeral.padded width n :=
    fun h => absurd (Numeral.isDigit_of_mem_padded h) (by decide)
  have hyear : ' ' ∉ yearText d.year := by
    rw [yearText_eq]
    split_ifs
    · exact hdigits 4 _
    · rw [List.mem_cons, not_or]
      refine ⟨?_, hdigits 4 _⟩
      rw [yearSign]
      split_ifs <;> decide
  simp only [toText, List.mem_append, not_or]
  exact ⟨⟨⟨⟨hyear, by decide⟩, hdigits 2 _⟩, by decide⟩, hdigits 2 _⟩

/-! ### Times of day -/

/-- The nanoseconds that a fraction of a second says, of three digits, six or nine. -/
def fractionValue (t : Text) : Nat :=
  Numeral.value (t.drop 1) * 10 ^ (10 - t.length)

theorem fractionValue_fractionText {nano : Nat} (h : nano < 10 ^ 9) :
    fractionValue (fractionText nano) = nano := by
  have hplaces (places n : Nat) (hp : 0 < places) (hn : n < 10 ^ places) :
      fractionValue ('.' :: Numeral.padded places n) = n * 10 ^ (9 - places) := by
    rw [fractionValue, List.drop_one, List.tail_cons, Numeral.value_padded, List.length_cons,
      Numeral.length_padded hp hn, Nat.succ_sub_succ]
  rw [fractionText]
  split_ifs with hzero hmilli hmicro
  · rw [hzero]
    rfl
  · rw [hplaces 3 _ (by decide) (by omega)]
    omega
  · rw [hplaces 6 _ (by decide) (by omega)]
    omega
  · rw [hplaces 9 _ (by decide) h]
    omega

/-- Fractions of a second are told apart by their texts, whatever their lengths. -/
theorem fractionText_inj {m n : Nat} (hm : m < 10 ^ 9) (hn : n < 10 ^ 9) :
    fractionText m = fractionText n ↔ m = n :=
  ⟨fun h => by rw [← fractionValue_fractionText hm, h, fractionValue_fractionText hn], congrArg _⟩

namespace TimeOfDay

variable (t : TimeOfDay)

/-- The second that is written, one more than the last of a minute in a leap second. -/
def writtenSecond : Nat :=
  if 1000000000 ≤ t.nano then t.second + 1 else t.second

/-- The nanoseconds that are written behind it. -/
def writtenNano : Nat :=
  if 1000000000 ≤ t.nano then t.nano - 1000000000 else t.nano

theorem toText_eq : t.toText = Numeral.padded 2 t.hour ++ ':' :: (Numeral.padded 2 t.minute ++
    ':' :: (Numeral.padded 2 t.writtenSecond ++ fractionText t.writtenNano)) := by
  simp [toText, writtenSecond, writtenNano]

theorem writtenSecond_le : t.writtenSecond ≤ 60 := by
  obtain ⟨-, -, hs, -⟩ := t.in_day
  rw [writtenSecond]
  split_ifs <;> omega

theorem writtenNano_lt : t.writtenNano < 10 ^ 9 := by
  obtain ⟨-, -, -, hn⟩ := t.in_day
  rw [writtenNano]
  split_ifs <;> omega

/-- Only a leap second is written as 60, so what is written says what second it was. -/
theorem eq_of_written {a b : TimeOfDay} (hs : a.writtenSecond = b.writtenSecond)
    (hn : a.writtenNano = b.writtenNano) : a.second = b.second ∧ a.nano = b.nano := by
  obtain ⟨-, -, has, han⟩ := a.in_day
  obtain ⟨-, -, hbs, hbn⟩ := b.in_day
  rw [writtenSecond, writtenSecond] at hs
  rw [writtenNano, writtenNano] at hn
  split_ifs at hs hn <;> omega

/-- The fraction of a second has what two digits each for the other numbers leave of the text. -/
theorem toText_injective : Function.Injective TimeOfDay.toText := by
  intro a b h
  obtain ⟨hah, ham, -⟩ := a.in_day
  obtain ⟨hbh, hbm, -⟩ := b.in_day
  have has := a.writtenSecond_le
  have hbs := b.writtenSecond_le
  rw [toText_eq, toText_eq] at h
  obtain ⟨hhour, h⟩ := List.append_inj h (length_padded_two (by omega) (by omega))
  have h := (List.cons.inj h).2
  obtain ⟨hminute, h⟩ := List.append_inj h (length_padded_two (by omega) (by omega))
  have h := (List.cons.inj h).2
  obtain ⟨hsecond, hnano⟩ := List.append_inj h (length_padded_two (by omega) (by omega))
  have hwritten := eq_of_written (Numeral.padded_inj.1 hsecond)
    ((fractionText_inj a.writtenNano_lt b.writtenNano_lt).1 hnano)
  cases a
  cases b
  rw [TimeOfDay.mk.injEq]
  exact ⟨Numeral.padded_inj.1 hhour, Numeral.padded_inj.1 hminute, hwritten⟩

end TimeOfDay

/-! ### Instants -/

namespace DateTime

theorem pieces_toText (t : DateTime) :
    Text.pieces ' ' t.toText = t.date.toText :: Text.pieces ' ' t.time.toText := by
  rw [toText, toTextWith, Text.pieces_append_cons, Text.pieces_of_not_mem t.date.space_not_mem_toText,
    List.singleton_append]

/-- The date is known from what stands before the first space, and so is the time from the rest. -/
theorem toText_injective : Function.Injective DateTime.toText := by
  intro a b h
  have hdate : a.date.toText = b.date.toText := by
    have hpieces := congrArg (Text.pieces ' ') h
    rw [pieces_toText, pieces_toText] at hpieces
    exact (List.cons.inj hpieces).1
  have htime : a.time.toText = b.time.toText := by
    rw [toText, toText, toTextWith, toTextWith, hdate] at h
    exact (List.cons.inj (List.append_cancel_left h)).2
  cases a
  cases b
  rw [DateTime.mk.injEq]
  exact ⟨Date.toText_injective hdate, TimeOfDay.toText_injective htime⟩

/-- The text of an instant begins with the ten characters that stand for its day. -/
theorem take_toText (t : DateTime) : t.toText.take 10 = t.dayText :=
  List.take_append_of_le_length t.date.ten_le_length_toText

end DateTime

end Backoffice
