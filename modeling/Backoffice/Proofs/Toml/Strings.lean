import Backoffice.Proofs.Text.Loop
import Backoffice.Toml.Lexeme
import Backoffice.Toml.Printer
import Mathlib.Tactic.SplitIfs

/-!
# Strings read back

A string is written in one of four forms, of which the string itself decides (`formOf`).
Each form is read back by a scanner of its own, character by character, so each has a
derivation that follows the string (`Text.Loops`). What makes the two wide forms harder
is that a quote in them is judged by how many stand in a row: the writer counts the
quotes behind it and the reader those before it, and three of them end the string. The
invariant between the two is `Fits`.

* `escape_of_escaped?`: an escape is read as the character it stands for;
* `Fits`: the quotes ahead belong to the string, or end it together with the last ones;
* `readString_quote`: every string is read back, whatever follows but another quote.
-/

namespace Backoffice.Toml

open Text (Step Loops)

variable {c q : Char} {s t cs rest : Text}

/-! ### Escapes -/

/-- Four hexadecimal digits with zeros before them are the number of a character. -/
theorem hexFrom?_padStart (h : c.toNat < 128) :
    (Text.padStart 4 '0' ((Nat.toDigits 16 c.toNat).map Char.toUpper)).length = 4 ∧
      Numeral.hexFrom? 0 (Text.padStart 4 '0' ((Nat.toDigits 16 c.toNat).map Char.toUpper)) =
        some c.toNat := by
  have hall : ∀ n < 128,
      (Text.padStart 4 '0' ((Nat.toDigits 16 n).map Char.toUpper)).length = 4 ∧
        Numeral.hexFrom? 0 (Text.padStart 4 '0' ((Nat.toDigits 16 n).map Char.toUpper)) =
          some n := by
    decide +kernel
  exact hall c.toNat h

theorem codePoint_append {ds : Text} (hl : ds.length = 4)
    (hn : Numeral.hexFrom? 0 ds = some c.toNat) (hc : c.toNat < 0xD800) :
    codePoint 4 (ds ++ rest) = .ok (c, rest) := by
  rw [codePoint, if_neg (by simp [hl]), ← hl, List.take_left, hn]
  simp only [hc, true_or, if_true, List.drop_left, Char.ofNat_toNat]

theorem toNat_lt_of_isControl (h : isControl c = true) : c.toNat < 128 := by
  simp only [isControl, Bool.or_eq_true, Bool.and_eq_true, decide_eq_true_eq] at h
  omega

/-- An escape begins with a backslash, and what follows it is no end of a line and reads
    as the character. -/
theorem escape_of_escaped? (h : escaped? c = some t) :
    ∃ d u, t = '\\' :: d :: u ∧ (isBlank d = false ∧ d ≠ '\n' ∧ d ≠ '\r') ∧
      ∀ rest, escape (d :: u ++ rest) = .ok (c, rest) := by
  rw [escaped?] at h
  split_ifs at h with hb ht hf hr hs hc <;> cases h
  -- Five characters have an escape of their own, the other controls one by their number.
  · exact ⟨'b', [], rfl, by decide, fun rest => by rw [hb]; rfl⟩
  · exact ⟨'t', [], rfl, by decide, fun rest => by rw [ht]; rfl⟩
  · exact ⟨'f', [], rfl, by decide, fun rest => by rw [hf]; rfl⟩
  · exact ⟨'r', [], rfl, by decide, fun rest => by rw [hr]; rfl⟩
  · exact ⟨'\\', [], rfl, by decide, fun rest => by rw [hs]; rfl⟩
  · have hc' : c.toNat < 128 := toNat_lt_of_isControl (Bool.and_eq_true_iff.1 hc).2
    obtain ⟨hl, hn⟩ := hexFrom?_padStart hc'
    refine ⟨'u', _, rfl, by decide, fun rest => ?_⟩
    exact codePoint_append hl hn (Nat.lt_trans hc' (by decide))

/-- The writer's controls and the reader's plain characters leave out line ends only. -/
theorem isPlain_of_isControl (h : isControl c = false) : c = '\n' ∨ isPlain c = true := by
  by_cases hn : c = '\n'
  · exact .inl hn
  by_cases ht : c = '\t'
  · exact .inr (by rw [ht]; rfl)
  · right
    simp only [isControl, hn, ht, ne_eq, not_false_eq_true, decide_true, Bool.and_true,
      Bool.or_eq_false_iff, decide_eq_false_iff_not] at h
    simp only [isPlain, ht, decide_false, Bool.false_or, Bool.and_eq_true, decide_eq_true_eq]
    omega

/-- A character without an escape is plain and no backslash, or a line end. -/
theorem isPlain_of_escaped? (h : escaped? c = none) :
    c = '\n' ∨ (isPlain c = true ∧ c ≠ '\\') := by
  rw [escaped?] at h
  split_ifs at h with hb ht hf hr hs hc
  by_cases hn : c = '\n'
  · exact .inl hn
  · refine (isPlain_of_isControl ?_).imp id fun hp => ⟨hp, hs⟩
    simpa [hn] using hc

theorem getD_escaped?_ne_nil : (escaped? c).getD [c] ≠ [] := by
  cases he : escaped? c with
  | none => exact List.cons_ne_nil _ _
  | some t =>
    obtain ⟨d, u, rfl, -, -⟩ := escape_of_escaped? he
    exact List.cons_ne_nil _ _

/-- What the writer does with a character that is no quote begins with no quote. -/
theorem head?_escaped? (hq : c ≠ '"') (cs : Text) :
    ((escaped? c).getD [c] ++ cs).head? ≠ some '"' := by
  cases he : escaped? c with
  | none => simpa using hq
  | some t =>
    obtain ⟨d, u, rfl, -, -⟩ := escape_of_escaped? he
    simp

/-! ### Strings on one line -/

theorem basicStep_basicChar (mid : Text) : basicStep (basicChar c ++ mid) = .ok (.item c mid) := by
  rw [basicChar]
  split_ifs with hq hn
  · rw [hq]; rfl
  · rw [hn]; rfl
  · cases he : escaped? c with
    | none =>
      rcases isPlain_of_escaped? he with hn' | ⟨hp, hs⟩
      · exact absurd hn' hn
      · simp [basicStep, hq, hs, hp]
    | some t =>
      obtain ⟨d, u, rfl, -, hr⟩ := escape_of_escaped? he
      have := hr mid
      simp only [Option.getD_some, List.cons_append] at this ⊢
      simp [basicStep, this, Except.map]

theorem basicChar_ne_nil : basicChar c ≠ [] := by
  rw [basicChar]
  split_ifs
  · exact List.cons_ne_nil _ _
  · exact List.cons_ne_nil _ _
  · exact getD_escaped?_ne_nil

theorem head?_basicChar (cs : Text) : (basicChar c ++ cs).head? ≠ some '"' := by
  rw [basicChar]
  split_ifs with hq hn
  · simp
  · simp
  · exact head?_escaped? hq cs

/-- A string whose characters are printed one by one is read one by one, to its quote. -/
theorem collectAll_chars {print : Char → Text} {step : Text → Except Fault (Step Char)}
    (hp : ∀ c ∈ s, print c ≠ []) (hi : ∀ c ∈ s, ∀ mid, step (print c ++ mid) = .ok (.item c mid))
    (hd : step (q :: rest) = .ok (.done rest)) :
    Text.collectAll .malformed step (s.flatMap print ++ q :: rest) = .ok (s, rest) := by
  simpa using Text.collectAll_flatMap Fault.malformed hp hi hd

theorem lineString_basic :
    lineString ('"' :: (s.flatMap basicChar ++ '"' :: rest)) = .ok (s, rest) :=
  collectAll_chars (fun _ _ => basicChar_ne_nil) (fun _ _ => basicStep_basicChar) rfl

theorem lineString_literal (hs : ∀ c ∈ s, isPlain c = true ∧ c ≠ '\'') :
    lineString ('\'' :: (s ++ '\'' :: rest)) = .ok (s, rest) := by
  have hi : ∀ c ∈ s, ∀ mid, literalStep ([c] ++ mid) = .ok (.item c mid) := by
    intro c hc mid
    obtain ⟨hp, hq⟩ := hs c hc
    simp [literalStep, hp, hq]
  have hl : Text.collectAll .malformed literalStep ((s.flatMap fun c => [c]) ++ '\'' :: rest) =
      .ok (s, rest) :=
    collectAll_chars (fun c _ => List.cons_ne_nil c []) hi rfl
  rwa [List.flatMap_singleton'] at hl

/-! ### Rows of quotes -/

/-- The quotes that `cs` begins with, after `before` of them, are few enough to belong to
    the string, or end it together with up to two that do. -/
def Fits (q : Char) (before : Nat) (cs : Text) : Prop :=
  run q cs + before ≤ 2 ∨ (3 ≤ run q cs ∧ run q cs + before ≤ 5)

theorem run_cons_self : run q (q :: cs) = run q cs + 1 := by
  simp [run]

theorem run_eq_zero (h : cs.head? ≠ some q) : run q cs = 0 := by
  cases cs with
  | nil => rfl
  | cons c cs => simp_all [run]

theorem Fits.of_head {before : Nat} (hb : before ≤ 2) (h : cs.head? ≠ some q) :
    Fits q before cs := by
  left
  rw [run_eq_zero h]
  omega

theorem Fits.close {before : Nat} (hb : before ≤ 2) (h : rest.head? ≠ some q) :
    Fits q before (q :: q :: q :: rest) := by
  right
  rw [run_cons_self, run_cons_self, run_cons_self, run_eq_zero h]
  omega

theorem Fits.cons {before : Nat} (h : Fits q (before + 1) cs) : Fits q before (q :: cs) := by
  rw [Fits] at h ⊢
  rw [run_cons_self]
  omega

/-- A quote that others fit behind belongs to the string. -/
theorem Fits.quoteStep_eq {before : Nat} (h : Fits q (before + 1) cs) :
    quoteStep q (q :: cs) = .ok (.item [q] cs) := by
  rw [Fits] at h
  rw [quoteStep]
  rw [run_cons_self]
  rw [if_neg (by omega), if_pos (by omega)]
  rfl

theorem quoteStep_close (h : rest.head? ≠ some q) :
    quoteStep q (q :: q :: q :: rest) = .ok (.done rest) := by
  rw [quoteStep]
  rw [run_cons_self, run_cons_self, run_cons_self, run_eq_zero h]
  rfl

/-! ### Strings over several lines -/

theorem wideBasicStep_escaped? (hq : c ≠ '"') (mid : Text) :
    wideBasicStep ((escaped? c).getD [c] ++ mid) = .ok (.item [c] mid) := by
  cases he : escaped? c with
  | none =>
    rcases isPlain_of_escaped? he with rfl | ⟨hp, hs⟩
    · rfl
    · simp [wideBasicStep, hq, hs, hp]
  | some t =>
    obtain ⟨d, u, rfl, ⟨hb, hn, hr⟩, he'⟩ := escape_of_escaped? he
    have hf : foldedLine? (d :: (u ++ mid)) = none := by
      simp [foldedLine?, skipBlanks, hb, lineEnd?, hn, hr]
    have he'' : escape (d :: (u ++ mid)) = .ok (c, mid) := he' mid
    simp [wideBasicStep, hf, he'', Except.map]

/-- The writer counts the quotes behind it, and so never writes too many in a row. -/
theorem fits_wideBasicChars (hr : rest.head? ≠ some '"') (s : Text) {quotes : Nat}
    (hn : quotes ≤ 2) :
    Fits '"' quotes (wideBasicChars quotes s ++ '"' :: '"' :: '"' :: rest) := by
  induction s generalizing quotes with
  | nil => exact Fits.close hn hr
  | cons c s ih =>
    rw [wideBasicChars]
    split_ifs with hq h2
    · -- The third quote in a row is escaped, so the row ends before it.
      exact Fits.of_head hn (by simp)
    · rw [hq]
      exact (ih (by omega)).cons
    · rw [List.append_assoc]
      exact Fits.of_head hn (head?_escaped? hq _)

theorem loops_wideBasicChars (hr : rest.head? ≠ some '"') (s : Text) {quotes : Nat}
    (hn : quotes ≤ 2) :
    Loops wideBasicStep (wideBasicChars quotes s ++ '"' :: '"' :: '"' :: rest)
      (s.map fun c => [c]) rest := by
  induction s generalizing quotes with
  | nil => exact .done (quoteStep_close hr)
  | cons c s ih =>
    rw [wideBasicChars, List.map_cons]
    split_ifs with hq h2
    · rw [hq]
      exact .item rfl (ih (Nat.zero_le _))
    · -- A quote as it is: the reader looks at those ahead, which fit.
      rw [hq]
      have hs : quotes + 1 ≤ 2 := by omega
      exact .item (fits_wideBasicChars hr s hs).quoteStep_eq (ih hs)
    · rw [List.append_assoc]
      exact .item (wideBasicStep_escaped? hq _) (ih (Nat.zero_le _))

theorem length_le_wideBasicChars (s : Text) (quotes : Nat) :
    s.length ≤ (wideBasicChars quotes s).length := by
  induction s generalizing quotes with
  | nil => exact Nat.zero_le _
  | cons c s ih =>
    rw [wideBasicChars]
    split_ifs with hq h2
    · exact Nat.succ_le_succ (Nat.le_succ_of_le (ih 0))
    · exact Nat.succ_le_succ (ih _)
    · have := ih 0
      have hp := List.length_pos_iff.2 (getD_escaped?_ne_nil (c := c))
      rw [List.length_append, List.length_cons]
      omega

theorem le_longestRun (q : Char) (here : Nat) (s : Text) : here ≤ longestRun q here s := by
  induction s generalizing here with
  | nil => exact Nat.le_refl _
  | cons c s ih =>
    rw [longestRun]
    split_ifs
    · have := ih (here + 1)
      omega
    · exact Nat.le_max_left _ _

/-- Where no row of quotes is longer than two, those ahead fit. -/
theorem fits_of_longestRun (hr : rest.head? ≠ some q) {here : Nat}
    (hs : longestRun q here s ≤ 2) : Fits q here (s ++ q :: q :: q :: rest) := by
  induction s generalizing here with
  | nil => exact Fits.close hs hr
  | cons c s ih =>
    have hn := Nat.le_trans (le_longestRun q here (c :: s)) hs
    rw [longestRun] at hs
    split_ifs at hs with hc
    · rw [hc]
      exact (ih hs).cons
    · exact Fits.of_head hn (by simpa using hc)

theorem loops_wideLiteral (hr : rest.head? ≠ some '\'') {here : Nat}
    (hp : ∀ c ∈ s, isControl c = false) (hs : longestRun '\'' here s ≤ 2) :
    Loops wideLiteralStep (s ++ '\'' :: '\'' :: '\'' :: rest) (s.map fun c => [c]) rest := by
  induction s generalizing here with
  | nil => exact .done (quoteStep_close hr)
  | cons c s ih =>
    have hp' : ∀ d ∈ s, isControl d = false := fun d hd => hp d (List.mem_cons_of_mem _ hd)
    rw [longestRun] at hs
    split_ifs at hs with hc
    · -- Quotes stand as they are, and it is the form that keeps their rows short.
      subst hc
      exact .item (fits_of_longestRun hr hs).quoteStep_eq (ih hp' hs)
    · refine .item ?_ (ih hp' (Nat.le_trans (Nat.le_max_right _ _) hs))
      rcases isPlain_of_isControl (hp c List.mem_cons_self) with rfl | hpl
      · rfl
      · simp [wideLiteralStep, hc, hpl]

/-! ### Every string -/

/-- The line end that is put before a wide string is the one that the reader takes away:
    without it the string does not begin with one. -/
theorem skipLineEnd_opening
    (h : '\n' ∉ s → cs.head? ≠ some '\n' ∧ cs.head? ≠ some '\r') :
    skipLineEnd (opening s ++ cs) = cs := by
  rw [opening]
  split_ifs with hn
  · rfl
  · obtain ⟨h1, h2⟩ := h (by simpa using hn)
    cases cs with
    | nil => rfl
    | cons c cs =>
      simp only [List.head?_cons, ne_eq, Option.some.injEq] at h1 h2
      simp [skipLineEnd, lineEnd?, h1, h2]

/-- What is written of a string that holds no line feed begins with no end of a line: a
    carriage return has an escape. -/
theorem head?_wideBasicChars (hn : '\n' ∉ s) :
    (wideBasicChars 0 s ++ '"' :: '"' :: '"' :: rest).head? ≠ some '\n' ∧
      (wideBasicChars 0 s ++ '"' :: '"' :: '"' :: rest).head? ≠ some '\r' := by
  cases s with
  | nil => exact ⟨by simp [wideBasicChars], by simp [wideBasicChars]⟩
  | cons c s =>
    rw [wideBasicChars]
    split_ifs with hq h2
    · exact absurd h2 (by decide)
    · rw [hq]
      exact ⟨by simp, by simp⟩
    · cases he : escaped? c with
      | none =>
        have hc : c ≠ '\n' := fun e => hn (e ▸ List.mem_cons_self)
        have hc' : c ≠ '\r' := fun e => by rw [e] at he; cases he
        exact ⟨by simpa using hc, by simpa using hc'⟩
      | some t =>
        obtain ⟨d, u, rfl, -, -⟩ := escape_of_escaped? he
        exact ⟨by simp, by simp⟩

theorem readString_wideBasic (hr : rest.head? ≠ some '"') :
    readString ('"' :: '"' :: '"' ::
      (opening s ++ (wideBasicChars 0 s ++ '"' :: '"' :: '"' :: rest))) = .ok (s, rest) := by
  have hl := (loops_wideBasicChars hr s (Nat.zero_le 2)).collectAll Fault.malformed (by
    rw [List.length_map, List.length_append]
    exact Nat.le_trans (length_le_wideBasicChars s 0) (Nat.le_add_right _ _))
  simp only [readString, skipLineEnd_opening head?_wideBasicChars, hl, Except.map,
    ← List.flatMap_def, List.flatMap_singleton']

/-- Characters that are no controls begin with no carriage return. -/
theorem head?_wideLiteral (hp : ∀ c ∈ s, isControl c = false) (hn : '\n' ∉ s) :
    (s ++ '\'' :: '\'' :: '\'' :: rest).head? ≠ some '\n' ∧
      (s ++ '\'' :: '\'' :: '\'' :: rest).head? ≠ some '\r' := by
  cases s with
  | nil => exact ⟨by simp, by simp⟩
  | cons c s =>
    have hc : c ≠ '\n' := fun e => hn (e ▸ List.mem_cons_self)
    have hc' : c ≠ '\r' := fun e => by
      have := hp c List.mem_cons_self
      rw [e] at this
      cases this
    exact ⟨by simpa using hc, by simpa using hc'⟩

theorem readString_wideLiteral (hr : rest.head? ≠ some '\'') (hp : ∀ c ∈ s, isControl c = false)
    (hs : longestRun '\'' 0 s ≤ 2) :
    readString ('\'' :: '\'' :: '\'' :: (opening s ++ (s ++ '\'' :: '\'' :: '\'' :: rest))) =
      .ok (s, rest) := by
  have hl := (loops_wideLiteral hr hp hs).collectAll Fault.malformed (by
    rw [List.length_map, List.length_append]
    exact Nat.le_add_right _ _)
  simp only [readString, skipLineEnd_opening (head?_wideLiteral hp), hl, Except.map,
    ← List.flatMap_def, List.flatMap_singleton']

/-- A quote alone opens a string on one line, if it is not the first of three. -/
theorem readString_eq_lineString (h : ∀ t, cs ≠ '"' :: '"' :: '"' :: t)
    (h' : ∀ t, cs ≠ '\'' :: '\'' :: '\'' :: t) : readString cs = lineString cs := by
  unfold readString
  split
  · exact absurd rfl (h _)
  · exact absurd rfl (h' _)
  · rfl

theorem readString_basic (hr : rest.head? ≠ some '"') :
    readString ('"' :: (s.flatMap basicChar ++ '"' :: rest)) = .ok (s, rest) := by
  rw [readString_eq_lineString ?_ (fun t h => by cases h), lineString_basic]
  -- Two quotes in a row are those of an empty string, and behind these there is no third.
  intro t h
  cases s with
  | nil => simp_all
  | cons c s =>
    rw [List.flatMap_cons, List.append_assoc] at h
    exact head?_basicChar (c := c) _ (congrArg List.head? (List.cons.inj h).2)

theorem readString_literal (hn : s ≠ []) (hs : ∀ c ∈ s, isPlain c = true ∧ c ≠ '\'') :
    readString ('\'' :: (s ++ '\'' :: rest)) = .ok (s, rest) := by
  rw [readString_eq_lineString (fun t h => by cases h) ?_, lineString_literal hs]
  intro t h
  cases s with
  | nil => exact hn rfl
  | cons c s => exact (hs c List.mem_cons_self).2 (List.cons.inj (List.cons.inj h).2).1

theorem of_formOf_literal (h : formOf s = .literal) :
    s ≠ [] ∧ ∀ c ∈ s, isPlain c = true ∧ c ≠ '\'' := by
  refine ⟨fun e => absurd (e ▸ h) (by decide), fun c hc => ?_⟩
  unfold formOf at h
  simp only at h
  split_ifs at h with hb hl
  simp only [Bool.and_eq_true, Bool.not_eq_true', List.any_eq_false, List.contains_eq_mem,
    decide_eq_false_iff_not] at hl
  obtain ⟨⟨hp, hn⟩, hq⟩ := hl
  rcases isPlain_of_isControl (Bool.eq_false_iff.2 (hp c hc)) with rfl | hpl
  · exact absurd hc hn
  · exact ⟨hpl, fun e => hq (e ▸ hc)⟩

theorem of_formOf_wideLiteral (h : formOf s = .wideLiteral) :
    (∀ c ∈ s, isControl c = false) ∧ longestRun '\'' 0 s ≤ 2 := by
  unfold formOf at h
  simp only at h
  split_ifs at h with hb hl hw hv
  simp only [Bool.and_eq_true, Bool.not_eq_true', List.any_eq_false, decide_eq_true_eq] at hv
  exact ⟨fun c hc => Bool.eq_false_iff.2 (hv.1 c hc), hv.2⟩

/-- A string is read back as it was, if no quote follows it. -/
theorem readString_quote (h : rest.head? ≠ some '"') (h' : rest.head? ≠ some '\'') :
    readString (quote s ++ rest) = .ok (s, rest) := by
  rw [quote]
  split
  · simpa using readString_basic h
  · next hf =>
    obtain ⟨hn, hs⟩ := of_formOf_literal hf
    simpa using readString_literal hn hs
  · simpa using readString_wideBasic h
  · next hf =>
    obtain ⟨hp, hs⟩ := of_formOf_wideLiteral hf
    simpa using readString_wideLiteral h' hp hs

end Backoffice.Toml
