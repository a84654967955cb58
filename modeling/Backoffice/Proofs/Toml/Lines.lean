import Backoffice.Proofs.Toml.Values

/-!
# Lines read back

A settings file is a list of lines, each a key without quotes and a value. Whatever the
values are, as long as each is read to the end of its line (`Printed.Readable`), the
lines are read as they were printed: no key of a first part is added to, and no key is
defined twice if none was printed twice.

* `lineStep_line`: a printed line is read as one;
* `read_lines`: printed lines are read as the entries that they say, in their order.
-/

namespace Backoffice.Toml

open Text (Step)

variable {rest : Text}

/-! ### One line -/

/-- A line to be printed: its key, the text of its value, and the value. -/
structure Printed where
  key : Text
  text : Text
  value : Toml

namespace Printed

/-- The line in print. -/
def line (p : Printed) : Text :=
  keyLine p.key p.text

/-- What the line says. -/
def pair (p : Printed) : Pair :=
  ⟨[], p.key, p.value⟩

/-- The line can be read: its key needs no quotes, and the text of its value does not
    begin with a blank and is read as the value, up to the end of the line. -/
structure Readable (p : Printed) : Prop where
  key_ne_nil : p.key ≠ []
  inBareKey : ∀ c ∈ p.key, inBareKey c = true
  skipBlanks_eq : ∀ rest, skipBlanks (p.text ++ rest) = p.text ++ rest
  value_eq : ∀ rest, Toml.value depthLimit (p.text ++ '\n' :: rest) = .ok (p.value, '\n' :: rest)

end Printed

theorem ne_of_inBareKey {c d : Char} (hc : inBareKey c = true) (hd : inBareKey d = false) :
    c ≠ d :=
  fun h => absurd (h ▸ hc) (by rw [hd]; decide)

theorem isBlank_of_inBareKey {c : Char} (hc : inBareKey c = true) : isBlank c = false := by
  have hs : c ≠ ' ' := ne_of_inBareKey hc rfl
  have ht : c ≠ '\t' := ne_of_inBareKey hc rfl
  simp [isBlank, hs, ht]

/-- A key without quotes is read to the mark after it. -/
theorem key_bare {k : Text} (hk : k ≠ []) (hb : ∀ c ∈ k, inBareKey c = true) :
    key (k ++ ' ' :: '=' :: rest) = .ok (([], k), '=' :: rest) := by
  cases k with
  | nil => exact absurd rfl hk
  | cons c k =>
    have hc := hb c List.mem_cons_self
    have hne {d : Char} (hd : inBareKey d = false) : c ≠ d := ne_of_inBareKey hc hd
    have hs : skipBlanks (c :: k ++ ' ' :: '=' :: rest) = c :: k ++ ' ' :: '=' :: rest := by
      simp [skipBlanks, isBlank_of_inBareKey hc]
    have ht : (c :: k ++ ' ' :: '=' :: rest).takeWhile inBareKey = c :: k := by
      rw [List.takeWhile_append_of_pos hb]
      simp [inBareKey]
    have hd : (c :: k ++ ' ' :: '=' :: rest).dropWhile inBareKey = ' ' :: '=' :: rest := by
      rw [List.dropWhile_append_of_pos hb]
      simp [inBareKey]
    have hp : keyPart (c :: k ++ ' ' :: '=' :: rest) = .ok (c :: k, '=' :: rest) := by
      rw [keyPart]
      rw [hs]
      simp only [List.cons_append] at ht hd ⊢
      rw [if_neg (not_or.2 ⟨hne rfl, hne rfl⟩), ht, hd]
      rfl
    rw [key]
    rw [hp]
    rfl

theorem pair_line {p : Printed} (h : p.Readable) (rest : Text) :
    Toml.pair (Toml.value depthLimit) (p.key ++ ' ' :: '=' :: ' ' :: (p.text ++ '\n' :: rest)) =
      .ok (p.pair, '\n' :: rest) := by
  rw [Toml.pair]
  rw [key_bare h.key_ne_nil h.inBareKey]
  have hs : skipBlanks (' ' :: (p.text ++ '\n' :: rest)) = p.text ++ '\n' :: rest :=
    h.skipBlanks_eq _
  simp only [hs, h.value_eq, Except.map]
  rfl

theorem endLine_cons (rest : Text) : endLine ('\n' :: rest) = .ok rest :=
  rfl

/-- A printed line is read to its end. -/
theorem lineStep_line {p : Printed} (h : p.Readable) (rest : Text) :
    lineStep (p.line ++ rest) = .ok (.item (.pair p.pair) rest) := by
  have ht : p.line ++ rest = p.key ++ ' ' :: '=' :: ' ' :: (p.text ++ '\n' :: rest) := by
    simp [Printed.line, keyLine]
  have hp := pair_line h rest
  rw [ht]
  cases hk : p.key with
  | nil => exact absurd hk h.key_ne_nil
  | cons c k =>
    have hc := h.inBareKey c (hk ▸ List.mem_cons_self)
    have hne {d : Char} (hd : inBareKey d = false) : c ≠ d := ne_of_inBareKey hc hd
    rw [hk, List.cons_append] at hp
    have hl : Toml.line (c :: (k ++ ' ' :: '=' :: ' ' :: (p.text ++ '\n' :: rest))) =
        .ok (.pair p.pair, '\n' :: rest) := by
      unfold Toml.line
      split
      · next heq => exact absurd (List.cons.inj heq).1 (hne rfl)
      · next heq => exact absurd (List.cons.inj heq).1 (hne rfl)
      · rw [hp]
        rfl
    rw [lineStep]
    rw [List.cons_append, skipLines_cons (hne rfl) (hne rfl) (isBlank_of_inBareKey hc)
      (hne rfl)]
    simp only [hl, endLine_cons, Except.map]

/-! ### What lines say -/

theorem find?_eq_none {k : Text} {entries : Entries} (h : k ∉ entries.map Prod.fst) :
    find? k entries = none := by
  induction entries with
  | nil => rfl
  | cons e entries ih =>
    rw [List.map_cons, List.mem_cons, not_or] at h
    rw [find?, if_neg (Ne.symm h.1), ih h.2]

theorem put_eq_append {k : Text} {v : Toml} {entries : Entries} (h : k ∉ entries.map Prod.fst) :
    put k v entries = entries ++ [(k, v)] := by
  induction entries with
  | nil => rfl
  | cons e entries ih =>
    rw [List.map_cons, List.mem_cons, not_or] at h
    rw [put, if_neg (Ne.symm h.1), ih h.2, List.cons_append]

/-- A key without dots that is not there yet is put at the end. -/
theorem add_pair {p : Printed} {entries : Entries} (h : p.key ∉ entries.map Prod.fst) :
    Draft.add ⟨entries, []⟩ (.pair p.pair) = .ok ⟨entries ++ [(p.key, p.value)], []⟩ := by
  have hi : insertAt [] p.key p.value .header entries = .ok (entries ++ [(p.key, p.value)]) := by
    rw [insertAt, descend]
    rw [find?_eq_none h, put_eq_append h]
    simp
  rw [Draft.add, descend]
  simp only [Printed.pair, hi, Except.map]

theorem foldlM_add {ps : List Printed} {entries : Entries}
    (h : (entries.map Prod.fst ++ ps.map Printed.key).Nodup) :
    (ps.map fun p => Line.pair p.pair).foldlM Draft.add ⟨entries, []⟩ =
      .ok ⟨entries ++ ps.map fun p => (p.key, p.value), []⟩ := by
  induction ps generalizing entries with
  | nil => simp [pure, Except.pure]
  | cons p ps ih =>
    have hp : p.key ∉ entries.map Prod.fst := fun hm =>
      (List.nodup_append.1 h).2.2 _ hm _ List.mem_cons_self rfl
    have ih' := @ih (entries ++ [(p.key, p.value)]) (by simpa using h)
    rw [List.map_cons, List.foldlM_cons, add_pair hp]
    simpa [bind, Except.bind] using ih'

/-- A line has at least its mark. -/
theorem line_ne_nil (p : Printed) : p.line ≠ [] := by
  simp [Printed.line, keyLine]

/-- Lines do not begin with the mark of an order of octets. -/
theorem head?_lines {ps : List Printed} (h : ∀ p ∈ ps, p.Readable) :
    (ps.flatMap Printed.line).head? ≠ some byteOrderMark := by
  cases ps with
  | nil => simp
  | cons p ps =>
    have hp := h p List.mem_cons_self
    rw [List.flatMap_cons, Printed.line, keyLine]
    cases hk : p.key with
    | nil => exact absurd hk hp.key_ne_nil
    | cons c k =>
      have hc := ne_of_inBareKey (hp.inBareKey c (hk ▸ List.mem_cons_self)) (d := byteOrderMark) rfl
      simpa using hc

/-- Lines that were printed for different keys are read as what they say. -/
theorem read_lines {ps : List Printed} (h : ∀ p ∈ ps, p.Readable)
    (hd : (ps.map Printed.key).Nodup) :
    read (ps.flatMap Printed.line) = .ok (ps.map fun p => (p.key, p.value)) := by
  have hl : Text.collectAll .malformed lineStep (ps.flatMap Printed.line) =
      .ok (ps.map fun p => Line.pair p.pair, []) := by
    have hs : lineStep [] = .ok (.done []) := rfl
    simpa using Text.collectAll_flatMap Fault.malformed (fun p _ => line_ne_nil p)
      (fun p hp => lineStep_line (h p hp)) hs
  have hf : (ps.map fun p => Line.pair p.pair).foldlM Draft.add ⟨[], []⟩ =
      .ok ⟨[] ++ ps.map fun p => (p.key, p.value), []⟩ :=
    foldlM_add (by simpa using hd)
  have hb := head?_lines h
  unfold read
  cases ht : ps.flatMap Printed.line with
  | nil =>
    rw [ht] at hl
    simp [hl, hf, Except.map]
  | cons c cs =>
    rw [ht] at hl hb
    have hc : c ≠ byteOrderMark := fun e => hb (congrArg some e)
    simp [hc, hl, hf, Except.map]

end Backoffice.Toml
