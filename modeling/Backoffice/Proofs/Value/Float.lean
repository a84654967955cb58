import Backoffice.Proofs.Decimal.Fixed
import Backoffice.Value.Render

/-!
# Binary numbers that are shown

A finite binary number is shown to six decimal places, and no digit of it comes from anywhere but
its exact amount, however large or small this is: the amount is rounded once, a tie going to the
even digit. The sign bit alone decides about the minus sign, so that it stands before zeros too.
-/

namespace Backoffice.Value

variable {v : Value} {x : Binary64} {t : Text}

theorem floatText_of_isFinite (hx : x.IsFinite) : floatText x = Decimal.fixed places x := by
  obtain ⟨m, e, hparts, -⟩ := hx.exists_parts
  rw [floatText, hparts]

/-- A finite number is shown by its amount to six decimal places, after a minus sign exactly if its
    sign bit is set, and by nothing else. -/
theorem render_eq_iff_isFixed (hv : v = float x ∨ v = optFloat (some x)) (hx : x.IsFinite)
    (fallback : Text) :
    v.render fallback = t ↔ Decimal.IsFixed 6 (x.bits.toNat.testBit 63) x.amount t := by
  have hrender : v.render fallback = Decimal.fixed places x := by
    rcases hv with rfl | rfl
    · exact floatText_of_isFinite hx
    · exact floatText_of_isFinite hx
  rw [hrender, eq_comm, ← Binary64.isNegative_eq_testBit]
  exact (Decimal.isFixed_iff (by decide) hx).symm

/-- The power of two that lies midway between two numbers of six places goes down to the even one,
    three times as much goes up, and zero keeps its sign. -/
theorem render_eq_iff_isFixed_ties :
    Decimal.IsFixed 6 false (1 / 2 ^ 7) ((float ⟨0x3F80000000000000⟩).render "none") ∧
      (float ⟨0x3F80000000000000⟩).render "none" = "0.007812" ∧
      Decimal.IsFixed 6 true (3 / 2 ^ 7) ((optFloat (some ⟨0xBF98000000000000⟩)).render "none") ∧
      (optFloat (some ⟨0xBF98000000000000⟩)).render "none" = "-0.023438" ∧
      Decimal.IsFixed 6 true 0 ((float ⟨0x8000000000000000⟩).render "none") ∧
      (float ⟨0x8000000000000000⟩).render "none" = "-0.000000" := by
  have hdown : Binary64.amount ⟨0x3F80000000000000⟩ = 1 / 2 ^ 7 := by decide +kernel
  have hup : Binary64.amount ⟨0xBF98000000000000⟩ = 3 / 2 ^ 7 := by decide +kernel
  have hzero : Binary64.amount ⟨0x8000000000000000⟩ = 0 := by decide +kernel
  refine ⟨?_, by decide +kernel, ?_, by decide +kernel, ?_, by decide +kernel⟩
  · rw [← hdown]
    exact (render_eq_iff_isFixed (.inl rfl) (by decide) "none").1 rfl
  · rw [← hup]
    exact (render_eq_iff_isFixed (.inr rfl) (by decide) "none").1 rfl
  · rw [← hzero]
    exact (render_eq_iff_isFixed (.inl rfl) (by decide) "none").1 rfl

end Backoffice.Value
