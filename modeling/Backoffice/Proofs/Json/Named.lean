import Backoffice.Json.Shape
import Backoffice.Proofs.Json.Literals
import Backoffice.Proofs.Json.Shape

/-!
# Names read from JSON

A name out of a closed set is read from a string, or from an object with the name for its only
key and null for its value; between the tokens of either there may be blanks, and nothing else
may be there.

* `Spaced`: tokens with blanks between them;
* `Names`: the texts that hold a name;
* `readAll_named_eq_ok_iff`: these are the texts that are read, if the name is known.
-/

namespace Backoffice.Json

variable {α : Type} {a : α} {c : Char} {s t token cs mid rest : Text} {tokens known : List Text}
  {lookup : Text → Option α}

/-! ### Tokens -/

/-- The text is the tokens one after the other, with blanks before, between and behind them. -/
inductive Spaced : List Text → Text → Prop
  | nil {blanks : Text} : (∀ c ∈ blanks, isBlank c = true) → Spaced [] blanks
  | cons {blanks token rest : Text} {tokens : List Text} : (∀ c ∈ blanks, isBlank c = true) →
      Spaced tokens rest → Spaced (token :: tokens) (blanks ++ token ++ rest)

theorem spaced_nil_iff : Spaced [] t ↔ skipBlanks t = [] := by
  rw [skipBlanks, List.dropWhile_eq_nil_iff]
  constructor
  · rintro ⟨h⟩
    exact h
  · exact .nil

/-- A token that does not begin with a blank stands where the first blanks end. -/
theorem spaced_cons_iff (h : isBlank c = false) : Spaced ((c :: token) :: tokens) t ↔
    ∃ rest, skipBlanks t = c :: token ++ rest ∧ Spaced tokens rest := by
  constructor
  · intro ht
    cases ht with
    | @cons blanks _ rest _ hb hr =>
      refine ⟨rest, ?_, hr⟩
      rw [List.append_assoc, skipBlanks, List.dropWhile_append_of_pos hb]
      exact skipBlanks_of_not_isBlank h
  · rintro ⟨rest, hs, hr⟩
    have ht : t = t.takeWhile isBlank ++ (c :: token) ++ rest := by
      rw [List.append_assoc, ← hs, skipBlanks, List.takeWhile_append_dropWhile]
    rw [ht]
    exact .cons (fun d hd => List.mem_takeWhile_imp hd) hr

/-- A literal before other tokens is read up to them. -/
theorem spaced_literal_iff : (∃ literal, IsLiteral literal s ∧ Spaced (literal :: tokens) t) ↔
    ∃ r rest, skipBlanks t = '"' :: r ∧ stringBody r = .ok (s, rest) ∧ Spaced tokens rest := by
  constructor
  · rintro ⟨_, ⟨body, hb, rfl⟩, ht⟩
    obtain ⟨rest, hs, hr⟩ := (spaced_cons_iff rfl).1 ht
    exact ⟨body ++ '"' :: rest, rest, by simpa using hs, stringBody_eq_ok_iff.2 ⟨body, hb, rfl⟩, hr⟩
  · rintro ⟨r, rest, hs, hb, hr⟩
    obtain ⟨body, hbody, rfl⟩ := stringBody_eq_ok_iff.1 hb
    exact ⟨_, ⟨body, hbody, rfl⟩, (spaced_cons_iff rfl).2 ⟨rest, by simpa using hs, hr⟩⟩

/-! ### Names -/

/-- The text is a string literal of content `s`, or an object with the one key `s` and the value
    null, blanks apart. -/
def Names (t s : Text) : Prop :=
  ∃ literal, IsLiteral literal s ∧
    (Spaced [literal] t ∨ Spaced [['{'], literal, [':'], "null", ['}']] t)

theorem nameFrom_eq_ok_iff : nameFrom known lookup cs = .ok (a, rest) ↔
    ∃ s, stringBody cs = .ok (s, rest) ∧ lookup s = some a := by
  rw [nameFrom]
  split
  · next hs => simp [hs]
  · next s r hs =>
    rw [hs]
    split
    · next b hb => simp [hb, and_comm]
    · next hn => simp [failAt, hn]

theorem nothing_eq_ok_iff : nothing cs = .ok ((), rest) ↔ skipBlanks cs = "null" ++ rest := by
  have hnull : ("null" : Text) ++ rest = 'n' :: ("ull" ++ rest) := rfl
  rw [nothing, hnull]
  split
  · next hs => simp [hs, failAt]
  · next c r hs =>
    rw [hs, List.cons.injEq]
    split_ifs with hc
    · rw [← word_eq_ok_iff]
      cases hw : word "ull" r <;> simp [Except.map, hc]
    · simp [wrongType_ne_ok, hc]

/-- A name is read from a string, or as the only key of an object. -/
theorem named_eq_ok_iff : named known lookup cs = .ok (a, rest) ↔
    (∃ r, skipBlanks cs = '"' :: r ∧ nameFrom known lookup r = .ok (a, rest)) ∨
      ∃ r₁ r₂ r₃ r₄ r₅, skipBlanks cs = '{' :: r₁ ∧ skipBlanks r₁ = '"' :: r₂ ∧
        nameFrom known lookup r₂ = .ok (a, r₃) ∧ colon r₃ = .ok r₄ ∧
        nothing r₄ = .ok ((), r₅) ∧ skipBlanks r₅ = '}' :: rest := by
  rw [named]
  split
  · next hs => simp [hs, failAt]
  · next c r₁ hs =>
    rw [hs]
    split_ifs with hq ho
    · simp [hq]
    · subst ho
      constructor
      · intro h
        split at h
        · cases h
        next q r₂ h₁ =>
          split_ifs at h with hq
          · subst hq
            split at h
            · cases h
            next b r₃ h₂ =>
              split at h
              · cases h
              next r₅ hnull =>
                obtain ⟨r₄, h₃, h₄⟩ := bind_eq_ok_iff.1 hnull
                split at h
                · cases h
                next d r₆ h₅ =>
                  split_ifs at h with hd
                  · cases h
                    exact .inr ⟨r₁, r₂, r₃, r₄, r₅, rfl, h₁, h₂, h₃, h₄, hd ▸ h₅⟩
                  · cases h
          · cases h
      · rintro (⟨_, h, -⟩ | ⟨_, r₂, r₃, r₄, r₅, h, h₁, h₂, h₃, h₄, h₅⟩)
        · cases h
        · cases h
          have hnull : (colon r₃).bind nothing = .ok ((), r₅) := bind_eq_ok_iff.2 ⟨r₄, h₃, h₄⟩
          simp [h₁, h₂, hnull, h₅]
    · simp [failPast, hq, ho]

/-- The texts that hold a name, as they are read from left to right. -/
theorem names_iff : Names t s ↔
    (∃ r rest, skipBlanks t = '"' :: r ∧ stringBody r = .ok (s, rest) ∧ skipBlanks rest = []) ∨
      ∃ r₁ r₂ r₃ r₄ r₅ rest, skipBlanks t = '{' :: r₁ ∧ skipBlanks r₁ = '"' :: r₂ ∧
        stringBody r₂ = .ok (s, r₃) ∧ skipBlanks r₃ = ':' :: r₄ ∧
        skipBlanks r₄ = "null" ++ r₅ ∧ skipBlanks r₅ = '}' :: rest ∧ skipBlanks rest = [] := by
  have hone {c : Char} (hc : isBlank c = false) {tokens : List Text} {cs : Text} :
      Spaced ([c] :: tokens) cs ↔ ∃ rest, skipBlanks cs = c :: rest ∧ Spaced tokens rest :=
    spaced_cons_iff hc
  have hnull {tokens : List Text} {cs : Text} : Spaced ("null" :: tokens) cs ↔
      ∃ rest, skipBlanks cs = "null" ++ rest ∧ Spaced tokens rest := spaced_cons_iff rfl
  constructor
  · rintro ⟨literal, hl, hs | ho⟩
    · obtain ⟨r, rest, h₁, h₂, hrest⟩ := spaced_literal_iff.1 ⟨literal, hl, hs⟩
      exact .inl ⟨r, rest, h₁, h₂, spaced_nil_iff.1 hrest⟩
    · obtain ⟨r₁, h₁, ho⟩ := (hone rfl).1 ho
      obtain ⟨r₂, r₃, h₂, h₃, ho⟩ := spaced_literal_iff.1 ⟨literal, hl, ho⟩
      obtain ⟨r₄, h₄, ho⟩ := (hone rfl).1 ho
      obtain ⟨r₅, h₅, ho⟩ := hnull.1 ho
      obtain ⟨rest, h₆, hrest⟩ := (hone rfl).1 ho
      exact .inr ⟨r₁, r₂, r₃, r₄, r₅, rest, h₁, h₂, h₃, h₄, h₅, h₆, spaced_nil_iff.1 hrest⟩
  · rintro (⟨r, rest, h₁, h₂, hrest⟩ |
      ⟨r₁, r₂, r₃, r₄, r₅, rest, h₁, h₂, h₃, h₄, h₅, h₆, hrest⟩)
    · obtain ⟨literal, hl, hs⟩ :=
        spaced_literal_iff.2 ⟨r, rest, h₁, h₂, spaced_nil_iff.2 hrest⟩
      exact ⟨literal, hl, .inl hs⟩
    · have hclose : Spaced [['}']] r₅ := (hone rfl).2 ⟨rest, h₆, spaced_nil_iff.2 hrest⟩
      have hcolon : Spaced [[':'], "null", ['}']] r₃ :=
        (hone rfl).2 ⟨r₄, h₄, hnull.2 ⟨r₅, h₅, hclose⟩⟩
      obtain ⟨literal, hl, ho⟩ := spaced_literal_iff.2 ⟨r₂, r₃, h₂, h₃, hcolon⟩
      exact ⟨literal, hl, .inr ((hone rfl).2 ⟨r₁, h₁, ho⟩)⟩

/-- What is written of a string holds that string as a name, and no other. -/
theorem names_quote_iff {u : Text} : Names (quote s) u ↔ u = s := by
  have hq : skipBlanks (quote s) = '"' :: (s.flatMap escapedChar ++ ['"']) :=
    skipBlanks_of_not_isBlank rfl
  have hb : stringBody (s.flatMap escapedChar ++ ['"']) = .ok (s, []) := stringBody_flatMap s []
  rw [names_iff]
  constructor
  · rintro (⟨r, rest, h₁, h₂, -⟩ | ⟨r₁, _, _, _, _, _, h₁, -⟩)
    · cases hq.symm.trans h₁
      cases hb.symm.trans h₂
      rfl
    · cases hq.symm.trans h₁
  · rintro rfl
    exact .inl ⟨_, _, hq, hb, rfl⟩

/-- The texts that are read as a name out of a set are those that hold one that is known. -/
theorem readAll_named_eq_ok_iff : readAll (named known lookup) t = .ok a ↔
    ∃ s, Names t s ∧ lookup s = some a := by
  simp only [readAll_eq_ok_iff, named_eq_ok_iff, nameFrom_eq_ok_iff, colon_eq_ok_iff,
    nothing_eq_ok_iff, names_iff]
  constructor
  · rintro ⟨rest, ⟨r, h₁, s, h₂, hs⟩ |
      ⟨r₁, r₂, r₃, r₄, r₅, h₁, h₂, ⟨s, h₃, hs⟩, h₄, h₅, h₆⟩, hrest⟩
    · exact ⟨s, .inl ⟨r, rest, h₁, h₂, hrest⟩, hs⟩
    · exact ⟨s, .inr ⟨r₁, r₂, r₃, r₄, r₅, rest, h₁, h₂, h₃, h₄, h₅, h₆, hrest⟩, hs⟩
  · rintro ⟨s, ⟨r, rest, h₁, h₂, hrest⟩ |
      ⟨r₁, r₂, r₃, r₄, r₅, rest, h₁, h₂, h₃, h₄, h₅, h₆, hrest⟩, hs⟩
    · exact ⟨rest, .inl ⟨r, h₁, s, h₂, hs⟩, hrest⟩
    · exact ⟨rest, .inr ⟨r₁, r₂, r₃, r₄, r₅, h₁, h₂, ⟨s, h₃, hs⟩, h₄, h₅, h₆⟩, hrest⟩

end Backoffice.Json
