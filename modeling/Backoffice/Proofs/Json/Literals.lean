import Backoffice.Proofs.Json.Reading
import Backoffice.Proofs.Json.Strings

/-!
# String literals

Between the quotes of a literal stands one piece of text for each character of its content: the
character itself, a letter that stands for it behind a backslash, or its number in UTF-16 by four
hexadecimal digits, of which a character beyond 16 bits takes two. This is all that is read
as a string, so which literals have which content is said here without a reader.

* `Writes`, `IsLiteral`: the pieces, and the literals made of them;
* `stringStep_eq_item_iff`: one piece is read at a time;
* `stringBody_eq_ok_iff`: a literal is read up to its closing quote.
-/

namespace Backoffice.Json

open Text (Step Loops)

variable {c : Char} {s body cs mid rest ds es : Text} {n m : Nat}

/-! ### Hexadecimal digits -/

/-- Four hexadecimal digits, capital or small, of the number `n`. -/
def IsUnit (ds : Text) (n : Nat) : Prop :=
  ds.length = 4 ∧ Numeral.hexFrom? 0 ds = some n

theorem hexFour_eq_ok_iff : hexFour cs = .ok (n, rest) ↔ ∃ ds, IsUnit ds n ∧ cs = ds ++ rest := by
  constructor
  · intro h
    unfold hexFour at h
    split_ifs at h
    · cases h
    · simp only at h
      split at h
      · next a b c d r _ =>
        cases hn : Numeral.hexFrom? 0 [a, b, c, d] with
        | none => simp [hn] at h
        | some k =>
          simp only [hn, Except.ok.injEq, Prod.mk.injEq] at h
          obtain ⟨rfl, rfl⟩ := h
          exact ⟨[a, b, c, d], ⟨rfl, hn⟩, rfl⟩
      · cases h
  · rintro ⟨ds, ⟨hl, hn⟩, rfl⟩
    exact hexFour_append hl hn

theorem hexDigit?_lt {d : Nat} (h : Numeral.hexDigit? c = some d) : d < 16 := by
  rw [Numeral.hexDigit?] at h
  split_ifs at h with hd hs hc
  · have := Numeral.digit_lt hd
    cases h
    omega
  · have h1 : c.toNat ≤ 102 := hs.2
    cases h
    show c.toNat - 97 + 10 < 16
    omega
  · have h1 : c.toNat ≤ 70 := hc.2
    cases h
    show c.toNat - 65 + 10 < 16
    omega

/-- Each digit multiplies by 16 what was read before it. -/
theorem hexFrom?_lt (h : Numeral.hexFrom? m ds = some n) : n < (m + 1) * 16 ^ ds.length := by
  induction ds generalizing m with
  | nil =>
    cases h
    simp
  | cons c ds ih =>
    obtain ⟨d, hd, h⟩ := Option.bind_eq_some_iff.1 h
    have hlt := hexDigit?_lt hd
    calc n < (m * 16 + d + 1) * 16 ^ ds.length := ih h
      _ ≤ ((m + 1) * 16) * 16 ^ ds.length := Nat.mul_le_mul_right _ (by omega)
      _ = (m + 1) * 16 ^ (c :: ds).length := by rw [List.length_cons, Nat.pow_succ']; ring

theorem IsUnit.lt (h : IsUnit ds n) : n < 65536 := by
  have hlt := hexFrom?_lt h.2
  rw [h.1] at hlt
  exact hlt

/-! ### Characters -/

/-- The ways in which the number of a character is written in UTF-16, behind a `u`. -/
inductive Numbers : Text → Char → Prop
  /-- The number itself. -/
  | unit {ds : Text} {c : Char} : IsUnit ds c.toNat → Numbers ds c
  /-- The two halves of a number of more than 16 bits. -/
  | pair {ds es : Text} {high low : Nat} {c : Char} : IsUnit ds high → IsUnit es low →
      0xD800 ≤ high → high ≤ 0xDBFF → 0xDC00 ≤ low → low ≤ 0xDFFF →
      c.toNat = 0x10000 + (high - 0xD800) * 0x400 + (low - 0xDC00) →
      Numbers (ds ++ '\\' :: 'u' :: es) c

/-- The ways in which a character is written in a literal. -/
inductive Writes : Text → Char → Prop
  /-- The character itself, unless it is a quote, a backslash or a control character. -/
  | plain {c : Char} : c ≠ '"' → c ≠ '\\' → 0x20 ≤ c.toNat → Writes [c] c
  /-- A letter that stands for it. -/
  | short {d c : Char} : shortEscape? d = some c → Writes ['\\', d] c
  /-- Its number. -/
  | number {p : Text} {c : Char} : Numbers p c → Writes ('\\' :: 'u' :: p) c

theorem ofNat_eq_iff (h : n.isValidChar) : Char.ofNat n = c ↔ c.toNat = n := by
  have hn : (Char.ofNat n).toNat = n := by
    rw [Char.ofNat, dif_pos h]
    rfl
  rw [← Char.toNat_inj, hn, eq_comm]

/-- The other half of a pair. -/
theorem lowSurrogate_eq_ok_iff {high : Nat} (h1 : 0xD800 ≤ high) (h2 : high ≤ 0xDBFF) :
    lowSurrogate high cs = .ok (c, rest) ↔
      ∃ es low, IsUnit es low ∧ 0xDC00 ≤ low ∧ low ≤ 0xDFFF ∧
        c.toNat = 0x10000 + (high - 0xD800) * 0x400 + (low - 0xDC00) ∧
        cs = '\\' :: 'u' :: es ++ rest := by
  have hchar {low : Nat} (h3 : 0xDC00 ≤ low) (h4 : low ≤ 0xDFFF) :
      Char.ofNat ((high - 0xD800) * 0x400 + (low - 0xDC00) + 0x10000) = c ↔
        c.toNat = 0x10000 + (high - 0xD800) * 0x400 + (low - 0xDC00) := by
    rw [ofNat_eq_iff (by unfold Nat.isValidChar; omega)]
    omega
  constructor
  · intro h
    unfold lowSurrogate at h
    split at h
    · cases h
    next d r =>
      split_ifs at h with hd
      · cases h
      · split at h
        · cases h
        next u r =>
          split_ifs at h with hu
          · cases h
          · split at h
            · cases h
            next low r hr =>
              obtain ⟨es, hes, rfl⟩ := hexFour_eq_ok_iff.1 hr
              split_ifs at h with hlow
              · simp only [Except.ok.injEq, Prod.mk.injEq] at h
                obtain ⟨hc, rfl⟩ := h
                rw [not_not.1 hd, not_not.1 hu]
                exact ⟨es, low, hes, hlow.1, hlow.2, (hchar hlow.1 hlow.2).1 hc, rfl⟩
              · cases h
  · rintro ⟨es, low, hes, h3, h4, hc, rfl⟩
    have hr : hexFour (es ++ rest) = .ok (low, rest) := hexFour_eq_ok_iff.2 ⟨es, hes, rfl⟩
    simp only [lowSurrogate, List.cons_append, ne_eq, not_true, if_false, hr]
    rw [if_pos ⟨h3, h4⟩, (hchar h3 h4).2 hc]

/-- No character is half of a pair, so where a number alone stands for one it is its own. -/
theorem unicodeEscape_eq_ok_iff : unicodeEscape cs = .ok (c, rest) ↔
    ∃ p, Numbers p c ∧ cs = p ++ rest := by
  have hvalid := c.valid
  constructor
  · intro h
    unfold unicodeEscape at h
    split at h
    · cases h
    next n r hr =>
      obtain ⟨ds, hds, rfl⟩ := hexFour_eq_ok_iff.1 hr
      have hlt := hds.lt
      split_ifs at h with hlow hhigh
      · cases h
      · obtain ⟨es, low, hes, h3, h4, hc, rfl⟩ := (lowSurrogate_eq_ok_iff hhigh.1 hhigh.2).1 h
        exact ⟨_, .pair hds hes hhigh.1 hhigh.2 h3 h4 hc, by simp⟩
      · simp only [Except.ok.injEq, Prod.mk.injEq] at h
        obtain ⟨hc, rfl⟩ := h
        have hn : c.toNat = n := (ofNat_eq_iff (by unfold Nat.isValidChar; omega)).1 hc
        exact ⟨ds, .unit (hn ▸ hds), rfl⟩
  · rintro ⟨p, hp, rfl⟩
    cases hp with
    | unit hds =>
      have hr : hexFour (p ++ rest) = .ok (c.toNat, rest) := hexFour_eq_ok_iff.2 ⟨p, hds, rfl⟩
      change c.toNat < 0xD800 ∨ 0xDFFF < c.toNat ∧ c.toNat < 0x110000 at hvalid
      rw [unicodeEscape, hr]
      simp only
      rw [if_neg (by omega), if_neg (by omega), Char.ofNat_toNat]
    | @pair ds es high low _ hds hes h1 h2 h3 h4 hc =>
      have hr : hexFour (ds ++ '\\' :: 'u' :: es ++ rest) =
          .ok (high, '\\' :: 'u' :: es ++ rest) := hexFour_eq_ok_iff.2 ⟨ds, hds, by simp⟩
      rw [unicodeEscape, hr]
      simp only
      rw [if_neg (by omega), if_pos ⟨h1, h2⟩]
      exact (lowSurrogate_eq_ok_iff h1 h2).2 ⟨es, low, hes, h3, h4, hc, rfl⟩

theorem escape_eq_ok_iff : escape cs = .ok (c, rest) ↔
    (∃ d, shortEscape? d = some c ∧ cs = d :: rest) ∨
      ∃ p, Numbers p c ∧ cs = 'u' :: p ++ rest := by
  have hnone : shortEscape? 'u' = none := rfl
  cases cs with
  | nil => simp [escape, failAt]
  | cons d r =>
    rw [escape]
    cases hd : shortEscape? d with
    | some e =>
      have hu : d ≠ 'u' := fun hu => by simp [hu, hnone] at hd
      simp [hu, hd, eq_comm]
    | none =>
      by_cases hu : d = 'u'
      · subst hu
        simp [unicodeEscape_eq_ok_iff, hnone]
      · simp [failPast, hu, hd]

theorem stringStep_eq_done_iff : stringStep cs = .ok (.done rest) ↔ cs = '"' :: rest := by
  cases cs with
  | nil => simp [stringStep, failAt]
  | cons c r =>
    rw [stringStep]
    split_ifs with hq hs hc
    · simp [hq]
    · split <;> simp [hq]
    · simp [failAt, hq]
    · simp [hq]

/-- One character is read as one piece of text that writes it. -/
theorem stringStep_eq_item_iff : stringStep cs = .ok (.item c rest) ↔
    ∃ p, Writes p c ∧ cs = p ++ rest := by
  constructor
  · intro h
    unfold stringStep at h
    split at h
    · cases h
    next d r =>
      split_ifs at h with hq hs hc
      · cases h
      · subst hs
        split at h
        · cases h
        next e r' he =>
          cases h
          rcases escape_eq_ok_iff.1 he with ⟨d, hd, rfl⟩ | ⟨p, hp, rfl⟩
          · exact ⟨_, .short hd, rfl⟩
          · exact ⟨_, .number hp, rfl⟩
      · cases h
      · cases h
        exact ⟨_, .plain hq hs (by omega), rfl⟩
  · rintro ⟨p, hp, rfl⟩
    cases hp with
    | plain hq hs hc =>
      rw [List.singleton_append, stringStep, if_neg hq, if_neg hs, if_neg (by omega)]
    | @short d _ hd =>
      have he : escape (d :: rest) = .ok (c, rest) := escape_eq_ok_iff.2 (.inl ⟨d, hd, rfl⟩)
      simp [stringStep, he]
    | @number p _ hp =>
      have he : escape ('u' :: (p ++ rest)) = .ok (c, rest) :=
        escape_eq_ok_iff.2 (.inr ⟨p, hp, rfl⟩)
      simp [stringStep, he]

/-! ### Literals -/

/-- The text writes the characters of `s`, one after the other. -/
inductive Spells : Text → Text → Prop
  | nil : Spells [] []
  | cons {p body s : Text} {c : Char} : Writes p c → Spells body s → Spells (p ++ body) (c :: s)

/-- The text is a string literal of content `s`. -/
def IsLiteral (t s : Text) : Prop :=
  ∃ body, Spells body s ∧ t = '"' :: body ++ ['"']

theorem loops_stringStep_iff : Loops stringStep cs s rest ↔
    ∃ body, Spells body s ∧ cs = body ++ '"' :: rest := by
  constructor
  · intro h
    induction h with
    | done hd => exact ⟨[], .nil, stringStep_eq_done_iff.1 hd⟩
    | item hi _ ih =>
      obtain ⟨p, hp, rfl⟩ := stringStep_eq_item_iff.1 hi
      obtain ⟨body, hb, rfl⟩ := ih
      exact ⟨p ++ body, .cons hp hb, by simp⟩
  · rintro ⟨body, hb, rfl⟩
    induction hb with
    | nil => exact .done (stringStep_eq_done_iff.2 rfl)
    | cons hp _ ih => exact .item (stringStep_eq_item_iff.2 ⟨_, hp, by simp⟩) ih

theorem Writes.ne_nil {p : Text} (h : Writes p c) : p ≠ [] := by
  cases h <;> exact List.cons_ne_nil _ _

theorem Spells.length_le (h : Spells body s) : s.length ≤ body.length := by
  induction h with
  | nil => exact Nat.le_refl _
  | cons hp _ ih =>
    have hpos := List.length_pos_iff.2 hp.ne_nil
    rw [List.length_append, List.length_cons]
    omega

/-- A literal is read up to its closing quote, as its content. -/
theorem stringBody_eq_ok_iff : stringBody cs = .ok (s, rest) ↔
    ∃ body, Spells body s ∧ cs = body ++ '"' :: rest := by
  rw [← loops_stringStep_iff]
  refine ⟨.of_collect, fun h => h.collectAll _ ?_⟩
  obtain ⟨body, hb, rfl⟩ := loops_stringStep_iff.1 h
  have hle := hb.length_le
  rw [List.length_append]
  omega

end Backoffice.Json
