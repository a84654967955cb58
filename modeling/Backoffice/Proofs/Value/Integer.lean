import Backoffice.Proofs.Json.Tokens
import Backoffice.Value.Render

/-!
# Integers in JSON

An integer of 64 bits, with a sign or without, is shown by the decimal form that it was read from.
Up to the greatest one of 63 bits and a sign it is a value of its own; beyond it stays JSON, and no
digit is rounded away on either side of this limit.
-/

namespace Backoffice.Value

variable {n : Int} {digits t : Text}

theorem render_ofJson_integer (n : Int) (fallback : Text) :
    (ofJson (.number (.integer n))).render fallback = Numeral.whole n := by
  rw [ofJson]
  split_ifs <;> rfl

/-- The decimal form of an integer of 64 bits, blanks around it apart, is read as JSON, and the
    value of that is shown by the same decimal form, whatever the fallback. -/
theorem render_of_isDecimal (hn : -2 ^ 63 ≤ n ∧ n ≤ 2 ^ 64 - 1) (hd : Numeral.IsDecimal digits n)
    (ht : Json.Spaced [digits] t) :
    ∃ v, Json.read t = .ok v ∧
      ofJson v = (if n ≤ 2 ^ 63 - 1 then int n else other (.number (.integer n))) ∧
      ∀ fallback, (ofJson v).render fallback = digits := by
  have hfits : (Json.Number.integer n).Fits := ⟨hn.1, by omega⟩
  refine ⟨_, Json.read_of_isDecimal hfits hd ht, ?_, fun fallback => ?_⟩
  · have hlimit : n < Nat.pow 2 63 ↔ n ≤ 2 ^ 63 - 1 := by
      show n < 2 ^ 63 ↔ _
      omega
    rw [ofJson]
    simp only [hlimit]
  · rw [render_ofJson_integer, Numeral.isDecimal_iff.1 hd]

/-- The least integer with a sign, the first that is too large for one, and the greatest. -/
theorem render_of_isDecimal_limits :
    (∃ v, Json.read "-9223372036854775808\n" = .ok v ∧ ofJson v = int (-2 ^ 63) ∧
      ∀ fallback, (ofJson v).render fallback = "-9223372036854775808") ∧
    (∃ v, Json.read "\t9223372036854775808 " = .ok v ∧
      ofJson v = other (.number (.integer (2 ^ 63))) ∧
      ∀ fallback, (ofJson v).render fallback = "9223372036854775808") ∧
    ∃ v, Json.read "18446744073709551615" = .ok v ∧
      ofJson v = other (.number (.integer (2 ^ 64 - 1))) ∧
      ∀ fallback, (ofJson v).render fallback = "18446744073709551615" := by
  have hleast : Numeral.IsDecimal "-9223372036854775808" (-2 ^ 63) :=
    Numeral.isDecimal_iff.2 (by decide +kernel)
  have hpast : Numeral.IsDecimal "9223372036854775808" (2 ^ 63) :=
    Numeral.isDecimal_iff.2 (by decide +kernel)
  have hgreatest : Numeral.IsDecimal "18446744073709551615" (2 ^ 64 - 1) :=
    Numeral.isDecimal_iff.2 (by decide +kernel)
  have hnone : ∀ c ∈ ([] : Text), Json.isBlank c = true := List.forall_mem_nil _
  have htab : ∀ c ∈ ['\t'], Json.isBlank c = true := List.forall_mem_singleton.2 rfl
  have hline : ∀ c ∈ ['\n'], Json.isBlank c = true := List.forall_mem_singleton.2 rfl
  have hspace : ∀ c ∈ [' '], Json.isBlank c = true := List.forall_mem_singleton.2 rfl
  refine ⟨?_, ?_, ?_⟩
  · obtain ⟨v, hr, hv, hshown⟩ := render_of_isDecimal (by omega) hleast (.cons hnone (.nil hline))
    rw [if_pos (by omega)] at hv
    exact ⟨v, hr, hv, hshown⟩
  · obtain ⟨v, hr, hv, hshown⟩ := render_of_isDecimal (by omega) hpast (.cons htab (.nil hspace))
    rw [if_neg (by omega)] at hv
    exact ⟨v, hr, hv, hshown⟩
  · obtain ⟨v, hr, hv, hshown⟩ := render_of_isDecimal (by omega) hgreatest (.cons hnone (.nil hnone))
    rw [if_neg (by omega)] at hv
    exact ⟨v, hr, hv, hshown⟩

end Backoffice.Value
