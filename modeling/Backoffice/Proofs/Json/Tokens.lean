import Backoffice.Proofs.Json.Named
import Backoffice.Proofs.Json.Values

/-!
# Texts of one token

Null is read from one word, and from no other text; an integer of 64 bits is read from its decimal
form. Blanks may stand on either side of the token.

* `read_eq_null_iff`: the texts that are read as null;
* `read_of_isDecimal`: an integer is read from its decimal form.
-/

namespace Backoffice.Json

variable {c : Char} {t cs rest digits : Text} {depth : Nat} {n : Int}

/-! ### Null -/

theorem value_eq_null_iff :
    value depth cs = .ok (.null, rest) ↔ skipBlanks cs = "null" ++ rest := by
  constructor
  · intro h
    cases reads_of_value h with
    | null hs hw =>
      rw [hs, word_eq_ok_iff.1 hw]
      rfl
  · intro hs
    exact (Reads.null hs (word_eq_ok_iff.2 rfl)).value_eq

/-- The texts that are read as null are this word between blanks. -/
theorem read_eq_null_iff : read t = .ok .null ↔ Spaced ["null"] t := by
  have hspaced : Spaced ["null"] t ↔ ∃ rest, skipBlanks t = "null" ++ rest ∧ Spaced [] rest :=
    spaced_cons_iff rfl
  simp only [read, readAll_eq_ok_iff, value_eq_null_iff, hspaced, spaced_nil_iff]

/-! ### Integers -/

/-- Blanks do not go on a number. -/
theorem endsNumber_of_skipBlanks (h : skipBlanks rest = []) : EndsNumber rest := by
  intro c hc
  have hb : isBlank c = true := by
    rw [skipBlanks, List.dropWhile_eq_nil_iff] at h
    exact h c (List.mem_of_head? hc)
  simp only [isBlank, Bool.or_eq_true, decide_eq_true_eq] at hb
  rcases hb with ((rfl | rfl) | rfl) | rfl <;> decide

theorem exists_whole_eq (n : Int) : ∃ c ds, Numeral.whole n = c :: ds ∧ isBlank c = false := by
  cases n with
  | ofNat n =>
    obtain ⟨d, ds, hds, hd, -⟩ := Numeral.exists_natural_eq n
    exact ⟨d, ds, hds, isBlank_of_isDigit hd⟩
  | negSucc n => exact ⟨'-', _, rfl, rfl⟩

/-- An integer that fits in 64 bits is read from its decimal form between blanks. -/
theorem read_of_isDecimal (hn : (Number.integer n).Fits) (hd : Numeral.IsDecimal digits n)
    (ht : Spaced [digits] t) : read t = .ok (.number (.integer n)) := by
  obtain ⟨c, ds, hds, hc⟩ := exists_whole_eq n
  rw [Numeral.isDecimal_iff.1 hd, hds] at ht
  obtain ⟨rest, hs, hrest⟩ := (spaced_cons_iff hc).1 ht
  have hend := spaced_nil_iff.1 hrest
  rw [← hds] at hs
  refine readAll_eq_ok_iff.2 ⟨rest, ?_, hend⟩
  rw [← value_skipBlanks, hs]
  exact value_whole hn (endsNumber_of_skipBlanks hend)

end Backoffice.Json
