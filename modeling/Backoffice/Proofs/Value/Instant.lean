import Backoffice.Proofs.Calendar.Instant
import Backoffice.Proofs.Value.Order
import Backoffice.Value.Render

/-!
# Instants that are shown

The text of an instant says which one it is, to the nanosecond and in every year, and leap seconds
are told from the seconds before and after them. Its date alone is written as the same text is cut
off after ten characters, also where these do not hold the whole date.
-/

namespace Backoffice.Value

variable {v w : Value} {a b : DateTime}

theorem Holds.render_eq (h : v.Holds a) (fallback : Text) : v.render fallback = a.toText := by
  cases h <;> rfl

theorem Holds.toDay_eq (h : v.Holds a) : v.toDay.value = a.dayText := by
  cases h <;> rfl

/-- Two instants have the same text exactly if they are the same, and the day of an instant is
    written as the first ten characters of its text. -/
theorem render_eq_render_iff (hv : v.Holds a) (hw : w.Holds b) (f g : Text) :
    (v.render f = w.render g ↔ a = b) ∧ v.toDay.value = (v.render f).take 10 := by
  rw [hv.render_eq, hw.render_eq, hv.toDay_eq, DateTime.take_toText]
  exact ⟨DateTime.toText_injective.eq_iff, rfl⟩

/-- A leap second of a year with five digits has another text than the second before it, and the
    same ten characters for the day. -/
theorem render_eq_render_iff_leap :
    let last : DateTime := ⟨⟨12345, 6, 30, by decide⟩, ⟨23, 59, 59, 500000000, by decide⟩⟩
    let leap : DateTime := ⟨⟨12345, 6, 30, by decide⟩, ⟨23, 59, 59, 1500000000, by decide⟩⟩
    (dateTime last).render "" ≠ (optDateTime (some leap)).render "" ∧
      (dateTime last).render "" = "+12345-06-30 23:59:59.500" ∧
      (optDateTime (some leap)).render "" = "+12345-06-30 23:59:60.500" ∧
      (toDay (dateTime last)).value = ((dateTime last).render "").take 10 := by
  intro last leap
  have hlast : (dateTime last).Holds last := .dateTime last
  have hleap : (optDateTime (some leap)).Holds leap := .optDateTime leap
  obtain ⟨hsame, hday⟩ := render_eq_render_iff hlast hleap "" ""
  exact ⟨fun h => absurd (hsame.1 h) (by decide), by decide, by decide, hday⟩

end Backoffice.Value
