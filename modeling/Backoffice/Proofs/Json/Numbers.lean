import Backoffice.Json.Printer
import Backoffice.Json.Reader
import Backoffice.Proofs.Text.Numeral
import Mathlib.Tactic.SplitIfs

/-!
# JSON numbers read back

A number that is written as an integer is read as this integer if it fits in 64 bits, with or
without a sign, and if what follows it does not go on a number. Whatever text is read as a
number, the reader that does not keep it takes just as much of it.

* `numeral_natural`: the digits of an integer are read back;
* `numeral_eq_ok`: what is read as a number is skipped as one, and integers fit in 64 bits.
-/

namespace Backoffice.Json

variable {c : Char} {ds cs rest : Text} {n significand count dropped : Nat} {negative : Bool}
  {m : Number}

/-- The text does not go on a number that stands before it. -/
def EndsNumber (rest : Text) : Prop :=
  ∀ c, rest.head? = some c → c.isDigit = false ∧ c ≠ '.' ∧ c ≠ 'e' ∧ c ≠ 'E'

theorem endsNumber_nil : EndsNumber [] :=
  fun _ h => nomatch h

theorem endsNumber_cons (h : c.isDigit = false ∧ c ≠ '.' ∧ c ≠ 'e' ∧ c ≠ 'E') :
    EndsNumber (c :: rest) :=
  fun _ hd => Option.some.inj hd ▸ h

/-! ### Integers are read back -/

/-- Digits all go into the significand if what they denote stays below its limit. -/
theorem addDigits_append (hd : ∀ d ∈ ds, d.isDigit = true) (hr : EndsNumber rest)
    (hn : Nat.ofDigitChars 10 ds significand < significandLimit) :
    addDigits significand count (ds ++ rest) =
      (Nat.ofDigitChars 10 ds significand, count + ds.length, rest) := by
  induction ds generalizing significand count with
  | nil =>
    cases rest with
    | nil => rfl
    | cons c rest => simp [addDigits, (hr c rfl).1]
  | cons d ds ih =>
    have hstep : Nat.ofDigitChars 10 (d :: ds) significand =
        Nat.ofDigitChars 10 ds (significand * 10 + Numeral.digit d) := by
      rw [Nat.ofDigitChars_cons, Numeral.digit, Nat.mul_comm]
    rw [hstep] at hn ⊢
    have hlt := Nat.lt_of_le_of_lt (Numeral.le_ofDigitChars ds _) hn
    rw [List.cons_append, addDigits]
    simp only [hd d List.mem_cons_self, hlt, decide_true, Bool.and_self, if_true]
    rw [ih (fun e he => hd e (List.mem_cons_of_mem _ he)) hn, List.length_cons]
    simp [Nat.add_comm, Nat.add_left_comm]

theorem skipDigits_of_endsNumber (hr : EndsNumber rest) : skipDigits rest = rest := by
  cases rest with
  | nil => rfl
  | cons c rest => simp [skipDigits, (hr c rfl).1]

theorem numberTail_of_endsNumber (hr : EndsNumber rest) :
    numberTail negative significand 0 rest = .ok (ofSignificand negative significand, rest) := by
  cases rest with
  | nil => rfl
  | cons c rest =>
    obtain ⟨-, hp, he, hE⟩ := hr c rfl
    simp [numberTail, hp, he, hE]

/-- The digits of a number below the limit are read back, with the sign that was read. -/
theorem numeral_natural (hn : n < significandLimit) (hr : EndsNumber rest) :
    numeral negative (Numeral.natural n ++ rest) = .ok (ofSignificand negative n, rest) := by
  rcases Nat.eq_zero_or_pos n with rfl | hpos
  · -- Behind a zero there may be no further digit.
    show numeral negative ('0' :: rest) = _
    cases rest with
    | nil => rfl
    | cons c rest =>
      rw [numeral]
      simp only [if_true, (hr c rfl).1, Bool.false_eq_true, if_false]
      exact numberTail_of_endsNumber hr
  · have hv : Nat.ofDigitChars 10 (Numeral.natural n) 0 = n := Numeral.value_natural n
    have hd (d : Char) (h : d ∈ Numeral.natural n) : d.isDigit = true :=
      Numeral.isDigit_of_mem_natural h
    have ha : addDigits 0 0 (Numeral.natural n ++ rest) =
        (Nat.ofDigitChars 10 (Numeral.natural n) 0, 0 + (Numeral.natural n).length, rest) :=
      addDigits_append hd hr (by rwa [hv])
    rw [hv] at ha
    obtain ⟨d, ds, hds, hd, hz⟩ := Numeral.exists_natural_eq n
    rw [hds, List.cons_append] at ha ⊢
    unfold numeral
    simp only [hz hpos, if_false, hd, if_true, ha, skipDigits_of_endsNumber hr, Nat.sub_self]
    exact numberTail_of_endsNumber hr

/-! ### What is read as a number -/

/-- The number is an integer of 64 bits, with a sign or without, or a binary number. -/
def Number.Fits : Number → Prop
  | .integer n => -(2 ^ 63) ≤ n ∧ n < 2 ^ 64
  | .float _ => True

theorem fits_ofSignificand (h : significand < significandLimit) :
    (ofSignificand negative significand).Fits := by
  have hlimit : significandLimit = 2 ^ 64 := rfl
  rw [ofSignificand]
  split_ifs with hs hz
  · exact ⟨by omega, by omega⟩
  · trivial
  · have h63 : Nat.pow 2 63 = 2 ^ 63 := rfl
    exact ⟨by omega, by omega⟩

theorem addDigits_lt (h : significand < significandLimit) :
    (addDigits significand count cs).1 < significandLimit := by
  induction cs generalizing significand count with
  | nil => exact h
  | cons c cs ih =>
    rw [addDigits]
    split_ifs with hc
    · exact ih (of_decide_eq_true (Bool.and_eq_true_iff.1 hc).2)
    · exact h

/-- Digits that do not go into the significand are dropped with the others. -/
theorem skipDigits_addDigits (significand count : Nat) (cs : Text) :
    skipDigits (addDigits significand count cs).2.2 = skipDigits cs := by
  induction cs generalizing significand count with
  | nil => rfl
  | cons c cs ih =>
    rw [addDigits]
    split_ifs with hc
    · rw [ih, skipDigits, skipDigits, List.dropWhile_cons_of_pos (Bool.and_eq_true_iff.1 hc).1]
    · rfl

theorem assemble_eq_ok {exponent : Int} (h : assemble negative significand exponent cs =
    .ok (m, rest)) : rest = cs ∧ m.Fits := by
  rw [assemble] at h
  split at h
  · cases h
    exact ⟨rfl, trivial⟩
  · cases h

theorem exponentDigits_eq_ok {start : Int} {down : Bool} {e : Nat}
    (h : exponentDigits negative significand start down e cs = .ok (m, rest)) :
    rest = skipDigits cs ∧ m.Fits := by
  induction cs generalizing e with
  | nil => exact assemble_eq_ok h
  | cons c cs ih =>
    rw [exponentDigits] at h
    by_cases hc : c.isDigit = true
    · rw [skipDigits, List.dropWhile_cons_of_pos hc]
      rw [if_pos hc] at h
      by_cases he : e * 10 + Numeral.digit c < exponentLimit
      · rw [if_pos he] at h
        exact ih h
      · -- What is left of the digits is dropped, and there is no more to the number.
        rw [if_neg he] at h
        by_cases hs : significand ≠ 0 ∧ !down
        · rw [if_pos hs] at h
          cases h
        · rw [if_neg hs] at h
          cases h
          exact ⟨rfl, trivial⟩
    · rw [skipDigits, List.dropWhile_cons_of_neg hc]
      rw [if_neg hc] at h
      exact assemble_eq_ok h

/-- Once a sign has been left out, both readers read the same digits. -/
theorem firstDigit_eq_ok {start : Int} {down : Bool}
    (h : (if c.isDigit then exponentDigits negative significand start down (Numeral.digit c) cs
      else failPast .badNumber (c :: cs)) = .ok (m, rest)) :
    (if c.isDigit then .ok (skipDigits cs) else failPast .badNumber (c :: cs)) = .ok rest ∧
      m.Fits := by
  split_ifs at h ⊢
  · obtain ⟨rfl, hm⟩ := exponentDigits_eq_ok h
    exact ⟨rfl, hm⟩
  · cases h

theorem exponentPart_eq_ok {start : Int} (h : exponentPart negative significand start cs =
    .ok (m, rest)) : skipExponent cs = .ok rest ∧ m.Fits := by
  cases cs with
  | nil => cases h
  | cons c cs =>
    by_cases hsign : c = '+' ∨ c = '-'
    · cases cs with
      | nil => rcases hsign with rfl | rfl <;> cases h
      | cons d cs => rcases hsign with rfl | rfl <;> exact firstDigit_eq_ok h
    · obtain ⟨hplus, hminus⟩ := not_or.1 hsign
      have hpart : exponentPart negative significand start (c :: cs) =
          if c.isDigit then exponentDigits negative significand start false (Numeral.digit c) cs
          else failPast .badNumber (c :: cs) := by simp [exponentPart, hplus, hminus]
      have hskip : skipExponent (c :: cs) =
          if c.isDigit then .ok (skipDigits cs) else failPast .badNumber (c :: cs) := by
        simp [skipExponent, hplus, hminus]
      rw [hpart] at h
      rw [hskip]
      exact firstDigit_eq_ok h

/-- What is read after the digits of a fraction, and after those of an integer as well. -/
theorem exponentOrEnd_eq_ok {exponent : Int} (h : exponentOrEnd negative significand exponent cs =
    .ok (m, rest)) :
    (match cs with
      | e :: beyond => if e = 'e' ∨ e = 'E' then skipExponent beyond else .ok cs
      | [] => .ok []) = .ok rest ∧ m.Fits := by
  cases cs with
  | nil =>
    obtain ⟨rfl, hm⟩ := assemble_eq_ok h
    exact ⟨rfl, hm⟩
  | cons c cs =>
    rw [exponentOrEnd] at h
    simp only
    split_ifs at h ⊢ with hc
    · exact exponentPart_eq_ok h
    · obtain ⟨rfl, hm⟩ := assemble_eq_ok h
      exact ⟨rfl, hm⟩

theorem fractionPart_eq_ok {exponent : Int} (h : fractionPart negative significand exponent cs =
    .ok (m, rest)) : skipNumberTail ('.' :: cs) = .ok rest ∧ m.Fits := by
  cases cs with
  | nil => cases h
  | cons c cs =>
    rw [fractionPart] at h
    simp only at h
    split_ifs at h with hc
    · obtain ⟨hrest, hm⟩ := exponentOrEnd_eq_ok h
      rw [skipDigits_addDigits] at hrest
      refine ⟨?_, hm⟩
      have hlt : (skipDigits (c :: cs)).length ≠ (c :: cs).length := by
        rw [skipDigits, List.dropWhile_cons_of_pos hc]
        have := (List.dropWhile_sublist Char.isDigit (l := cs)).length_le
        rw [List.length_cons]
        omega
      rw [skipNumberTail]
      simp only [if_true, hlt, if_false]
      exact hrest
    · cases h

theorem numberTail_eq_ok (hs : significand < significandLimit)
    (h : numberTail negative significand dropped cs = .ok (m, rest)) :
    skipNumberTail cs = .ok rest ∧ m.Fits := by
  have hend {cs : Text} (h : (if dropped = 0 then .ok (ofSignificand negative significand, cs)
      else assemble negative significand dropped cs) = .ok (m, rest)) : rest = cs ∧ m.Fits := by
    split_ifs at h
    · cases h
      exact ⟨rfl, fits_ofSignificand hs⟩
    · exact assemble_eq_ok h
  cases cs with
  | nil =>
    obtain ⟨rfl, hm⟩ := hend h
    exact ⟨rfl, hm⟩
  | cons c cs =>
    rw [numberTail] at h
    by_cases hp : c = '.'
    · subst hp
      exact fractionPart_eq_ok h
    · rw [if_neg hp] at h
      rw [skipNumberTail, if_neg hp]
      by_cases he : c = 'e' ∨ c = 'E'
      · rw [if_pos he] at h ⊢
        exact exponentPart_eq_ok h
      · rw [if_neg he] at h ⊢
        obtain ⟨rfl, hm⟩ := hend h
        exact ⟨rfl, hm⟩

/-- What is read as a number is skipped as one, and if it is an integer it fits in 64 bits. -/
theorem numeral_eq_ok (h : numeral negative cs = .ok (m, rest)) :
    skipNumber cs = .ok rest ∧ m.Fits := by
  cases cs with
  | nil => cases h
  | cons c cs =>
    unfold numeral at h
    unfold skipNumber
    simp only at h ⊢
    by_cases hz : c = '0'
    · rw [if_pos hz] at h ⊢
      cases cs with
      | nil => exact numberTail_eq_ok (by decide) h
      | cons d cs =>
        simp only at h ⊢
        split_ifs at h ⊢ with hd
        · cases h
        · exact numberTail_eq_ok (by decide) h
    · rw [if_neg hz] at h ⊢
      by_cases hc : c.isDigit = true
      · rw [if_pos hc] at h ⊢
        obtain ⟨hrest, hm⟩ := numberTail_eq_ok (addDigits_lt (by decide)) h
        rw [skipDigits_addDigits, skipDigits, List.dropWhile_cons_of_pos hc] at hrest
        exact ⟨hrest, hm⟩
      · rw [if_neg hc] at h
        cases h

end Backoffice.Json
