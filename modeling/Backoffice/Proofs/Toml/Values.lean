import Backoffice.Proofs.Text.Numeral
import Backoffice.Proofs.Text.Pieces
import Backoffice.Proofs.Toml.Strings
import Backoffice.Toml.Reader

/-!
# Values read back

The values of a settings file are strings, lists of strings on one line, and sizes. A
size is the last that a reader thinks of: a text that begins with a digit could be a
moment or a binary number, and is neither because nothing but a line end follows its
digits.

* `value_quote`, `value_quoteAll`: strings and lists of strings;
* `value_natural`: numbers that fit in 63 bits, at the end of a line.
-/

namespace Backoffice.Toml

variable {c : Char} {ds rest : Text} {depth : Nat}

/-! ### Numbers -/

/-- Digits are read to the first character that is none, nor a mark between digits. -/
theorem digitsWith_append {isDigit : Char → Bool} (c : Char) (rest : Text)
    (hd : ∀ d ∈ ds, isDigit d = true) (hc : isDigit c = false) (hu : c ≠ '_') (digits : Text) :
    digitsWith isDigit digits (ds ++ c :: rest) = (digits.reverse ++ ds, c :: rest) := by
  induction ds generalizing digits with
  | nil => simp [digitsWith.eq_def, hc, hu]
  | cons d ds ih =>
    have hd' : ∀ e ∈ ds, isDigit e = true := fun e he => hd e (List.mem_cons_of_mem _ he)
    rw [List.cons_append, digitsWith.eq_def]
    simp only [hd d List.mem_cons_self, if_true]
    rw [ih hd']
    simp

/-- After some of the digits that end a line comes a digit or the line end, and so no
    mark of a moment. -/
theorem after?_of_digits? (mark : Char) {k v : Nat} {r : Text}
    (hd : ∀ d ∈ ds, d.isDigit = true) (hm : mark.isDigit = false) (hn : mark ≠ '\n')
    (h : digits? k (ds ++ '\n' :: rest) = some (v, r)) : after? mark r = none := by
  rw [digits?] at h
  split_ifs at h with hk
  obtain ⟨hl, ha⟩ := hk
  obtain ⟨-, rfl⟩ := Prod.mk.inj (Option.some.inj h)
  have hle : k ≤ ds.length := by
    refine Nat.le_of_not_lt fun hlt => ?_
    have hmem : '\n' ∈ (ds ++ '\n' :: rest).take k := by
      rw [List.take_append]
      obtain ⟨j, hj⟩ := Nat.exists_eq_succ_of_ne_zero (n := k - ds.length) (by omega)
      rw [hj]
      simp
    exact absurd (List.all_eq_true.1 ha _ hmem) (by decide)
  rw [List.drop_append_of_le_length hle]
  cases hr : ds.drop k with
  | nil => simp [after?, Ne.symm hn]
  | cons d r =>
    have hdd := hd d (List.mem_of_mem_drop (hr ▸ List.mem_cons_self))
    have hne : d ≠ mark := fun e => by rw [e, hm] at hdd; cases hdd
    simp [after?, hne]

theorem moment?_digits (hd : ∀ d ∈ ds, d.isDigit = true) (rest : Text) :
    moment? (ds ++ '\n' :: rest) = none := by
  have hdate : date? (ds ++ '\n' :: rest) = none := by
    rw [date?]
    cases h : digits? 4 (ds ++ '\n' :: rest) with
    | none => rfl
    | some p => simp [after?_of_digits? '-' hd (by decide) (by decide) h]
  have hminutes : minutes? (ds ++ '\n' :: rest) = none := by
    rw [minutes?]
    cases h : digits? 2 (ds ++ '\n' :: rest) with
    | none => rfl
    | some p => simp [after?_of_digits? ':' hd (by decide) (by decide) h]
  rw [moment?, time?]
  rw [hdate, hminutes]
  rfl

/-- A decimal integer at the end of a line is read to that end. -/
theorem integerDigits?_natural (n : Nat) (rest : Text) :
    integerDigits? (Numeral.natural n ++ '\n' :: rest) =
      some (Numeral.natural n, '\n' :: rest) := by
  rcases Nat.eq_zero_or_pos n with rfl | hn
  · rfl
  · have hd : ∀ d ∈ Numeral.natural n, d.isDigit = true := fun d => Numeral.isDigit_of_mem_natural
    have hw := digitsWith_append '\n' rest hd (by decide) (by decide) []
    obtain ⟨d, ds, hds, -, hz⟩ := Numeral.exists_natural_eq n
    rw [hds] at hw ⊢
    unfold integerDigits?
    split
    · -- A zero would have to be the only digit.
      next heq => exact absurd (List.cons.inj heq).1 (hz hn)
    · rw [hw]
      rfl

theorem sign_digit {cs : Text} (hc : c.isDigit = true) : sign (c :: cs) = (false, c :: cs) := by
  unfold sign
  split
  · next heq => exact absurd (List.cons.inj heq).1 (Numeral.ne_of_isDigit hc (by decide))
  · next heq => exact absurd (List.cons.inj heq).1 (Numeral.ne_of_isDigit hc (by decide))
  · rfl

/-- Digits alone are no binary number: there is neither a point nor an exponent. -/
theorem float?_natural (n : Nat) (rest : Text) :
    float? (Numeral.natural n ++ '\n' :: rest) = none := by
  have hi := integerDigits?_natural n rest
  obtain ⟨d, ds, hds, hd, -⟩ := Numeral.exists_natural_eq n
  rw [hds, List.cons_append] at hi ⊢
  rw [float?]
  rw [sign_digit hd]
  simp only
  split
  · next heq => exact absurd (List.cons.inj heq).1 (Numeral.ne_of_isDigit hd (by decide))
  · next heq => exact absurd (List.cons.inj heq).1 (Numeral.ne_of_isDigit hd (by decide))
  · rw [hi]
    rfl

theorem readInteger_natural {n : Nat} (hn : n < Nat.pow 2 63) (rest : Text) :
    readInteger (Numeral.natural n ++ '\n' :: rest) = .ok (.integer n, '\n' :: rest) := by
  -- Zero is apart: it is the only number that could begin like one in another base.
  rcases Nat.eq_zero_or_pos n with rfl | hpos
  · rw [show Numeral.natural 0 = ['0'] from rfl]
    simp [readInteger, sign, integerDigits?, Numeral.value, Nat.ofDigitChars]
  have hi := integerDigits?_natural n rest
  have hv := Numeral.value_natural n
  obtain ⟨d, ds, hds, hd, hz⟩ := Numeral.exists_natural_eq n
  rw [hds] at hi hv
  rw [hds, List.cons_append]
  rw [List.cons_append] at hi
  unfold readInteger
  split
  · next heq => exact absurd (List.cons.inj heq).1 (hz hpos)
  · next heq => exact absurd (List.cons.inj heq).1 (hz hpos)
  · next heq => exact absurd (List.cons.inj heq).1 (hz hpos)
  · rw [sign_digit hd]
    simp only [hi, hv, Bool.false_eq_true, if_false]
    exact if_pos (by omega)

theorem value_digit {cs : Text} (hc : c.isDigit = true) :
    value depth (c :: cs) = number (c :: cs) := by
  have hne {e : Char} (he : e.isDigit = false) : c ≠ e := Numeral.ne_of_isDigit hc he
  rw [value.eq_def]
  simp only
  rw [if_neg (not_or.2 ⟨hne rfl, hne rfl⟩), if_neg (hne rfl), if_neg (hne rfl), if_neg (hne rfl),
    if_neg (hne rfl)]

/-- A size is read to the end of its line. -/
theorem value_natural {n : Nat} (hn : n < Nat.pow 2 63) :
    value depth (Numeral.natural n ++ '\n' :: rest) = .ok (.integer n, '\n' :: rest) := by
  have hm := moment?_digits (fun d => Numeral.isDigit_of_mem_natural (n := n)) rest
  have hf := float?_natural n rest
  have hr := readInteger_natural hn rest
  obtain ⟨d, ds, hds, hd, -⟩ := Numeral.exists_natural_eq n
  rw [hds, List.cons_append] at hm hf hr ⊢
  rw [value_digit hd, number, hm]
  simp only [hf, hr]

/-! ### Strings and lists of strings -/

/-- The text of a string begins with a quote. -/
theorem exists_quote_eq (s : Text) : ∃ q t, (q = '"' ∨ q = '\'') ∧ quote s = q :: t := by
  rw [quote]
  split
  · exact ⟨_, _, .inl rfl, rfl⟩
  · exact ⟨_, _, .inr rfl, rfl⟩
  · exact ⟨_, _, .inl rfl, rfl⟩
  · exact ⟨_, _, .inr rfl, rfl⟩

theorem value_quote (s : Text) (h : rest.head? ≠ some '"') (h' : rest.head? ≠ some '\'') :
    value depth (quote s ++ rest) = .ok (.string s, rest) := by
  have hr := readString_quote (s := s) h h'
  obtain ⟨q, t, hq, ht⟩ := exists_quote_eq s
  rw [ht, List.cons_append] at hr ⊢
  rw [value.eq_def]
  simp only
  rw [if_pos hq, hr]
  rfl

/-- Nothing is left out before a character that is neither blank nor ends a line nor
    begins a comment. -/
theorem skipLines_cons {cs : Text} (hn : c ≠ '\n') (hr : c ≠ '\r') (hb : isBlank c = false)
    (hc : c ≠ '#') : skipLines false (c :: cs) = .ok (c :: cs) := by
  rw [skipLines.eq_def]
  simp [hn, hr, hb, hc]

theorem skipLines_blank {cs : Text} : skipLines false (' ' :: cs) = skipLines false cs := by
  rw [skipLines.eq_def]
  simp [isBlank]

theorem skipLines_quote (s rest : Text) :
    skipLines false (quote s ++ rest) = .ok (quote s ++ rest) := by
  obtain ⟨q, t, rfl | rfl, ht⟩ := exists_quote_eq s <;>
    · rw [ht]
      exact skipLines_cons (by decide) (by decide) (by decide) (by decide)

/-- One string of an array, and the comma or the bracket after it. -/
theorem arrayStep_quote (depth : Nat) (s rest : Text) (hc : c = ',' ∨ c = ']') :
    arrayStep (value depth) (quote s ++ c :: rest) =
      .ok (.item (.string s) (if c = ',' then rest else c :: rest)) := by
  have hv : value depth (quote s ++ c :: rest) = .ok (.string s, c :: rest) := by
    refine value_quote s ?_ ?_ <;>
      · obtain rfl | rfl := hc <;> simp
  have hs : skipLines false (c :: rest) = .ok (c :: rest) := by
    obtain rfl | rfl := hc <;> exact skipLines_cons (by decide) (by decide) (by decide) (by decide)
  have hq := skipLines_quote s (c :: rest)
  rw [arrayStep]
  rw [hq]
  obtain ⟨q, t, hq', ht⟩ := exists_quote_eq s
  rw [ht, List.cons_append] at hv ⊢
  simp only
  rw [if_neg (by obtain rfl | rfl := hq' <;> decide), hv]
  simp only
  rw [hs]
  obtain rfl | rfl := hc <;> simp

theorem arrayStep_close : arrayStep (value depth) (']' :: rest) = .ok (.done rest) := by
  rw [arrayStep]
  rw [skipLines_cons (by decide) (by decide) (by decide) (by decide)]
  rfl

theorem arrayStep_blank {cs : Text} :
    arrayStep (value depth) (' ' :: cs) = arrayStep (value depth) cs := by
  unfold arrayStep
  rw [skipLines_blank]

theorem loops_quoteAll (depth : Nat) (ss : List Text) (rest : Text) :
    Text.Loops (arrayStep (value depth)) (Text.joined ", " (ss.map quote) ++ ']' :: rest)
      (ss.map .string) rest := by
  induction ss with
  | nil => exact .done arrayStep_close
  | cons s ss ih =>
    -- What stands behind a string is a bracket behind the last one and a comma else, and
    -- the blank behind a comma is left out by the next step.
    cases ss with
    | nil => exact .item (arrayStep_quote depth s rest (.inr rfl)) (.done arrayStep_close)
    | cons s' ss =>
      have hi := arrayStep_quote depth s (c := ',')
        (' ' :: (Text.joined ", " ((s' :: ss).map quote) ++ ']' :: rest)) (.inl rfl)
      simpa [Text.joined] using Text.Loops.item hi (ih.of_step_eq arrayStep_blank)

/-- A list of strings is read back, whatever follows it. -/
theorem value_quoteAll (ss : List Text) :
    value (depth + 1) (quoteAll ss ++ rest) = .ok (.array (ss.map .string), rest) := by
  have hne : ∀ t ∈ ss.map quote, t ≠ [] := by
    intro t ht
    obtain ⟨s, -, rfl⟩ := List.mem_map.1 ht
    obtain ⟨q, t, -, hq⟩ := exists_quote_eq s
    exact hq ▸ List.cons_ne_nil _ _
  have hlen := Text.length_le_joined ", " hne
  have hl := (loops_quoteAll depth ss rest).collectAll Fault.malformed (by
    rw [List.length_map] at hlen ⊢
    rw [List.length_append]
    omega)
  have ht : quoteAll ss ++ rest = '[' :: (Text.joined ", " (ss.map quote) ++ ']' :: rest) := by
    simp [quoteAll]
  rw [ht, value.eq_def]
  simp only
  rw [if_neg (by decide), if_pos trivial, arrayBody, hl]
  rfl

end Backoffice.Toml
