import Backoffice.Json.Shape
import Backoffice.Proofs.Json.Skip
import Backoffice.Proofs.Json.Values

/-!
# One kind of value

A reader for one kind of value goes as far as the reader for all values, and takes a value if it
is of its kind. So what such readers make of a text can be said of the values in it.

* `text_takes`, `optionalText_takes`: which values the readers take;
* `IsObject`: the fields of an object as they are written, a repeated key each time.
-/

namespace Backoffice.Json

open Text (Step Loops)

variable {α : Type} {reader : Reader α} {g : α → Json} {a : α} {s t cs mid rest : Text}
  {depth : Nat} {v : Json} {vs : List Json}

/-- The reader takes the values of the form `g a`, as `a`. -/
def Takes (reader : Reader α) (g : α → Json) : Prop :=
  ∀ {depth cs v mid}, value depth cs = .ok (v, mid) →
    ∀ {a rest}, reader cs = .ok (a, rest) ↔ v = g a ∧ rest = mid

theorem wrongType_ne_ok {wanted : Text} {p : α × Text} : wrongType wanted cs ≠ .ok p := by
  -- The value of the wrong kind is read only to say in the fault what it is.
  have hseen {β : Type} {x : Except Fault β} {cause : β → Fault} :
      (x.bind fun b => .error (cause b)) ≠ .ok p := by
    cases x <;> exact nofun
  unfold wrongType
  cases cs with
  | nil => exact nofun
  | cons c cs =>
    simp only
    split_ifs
    iterate 6 exact hseen
    all_goals exact nofun

/-- A text is read from strings. -/
theorem text_takes : Takes text .string := by
  intro depth cs v mid h s rest
  cases reads_of_value h with
  | string hs hb => simp [text, hs, hb, eq_comm]
  | @number _ _ _ _ c _ hs hd =>
    have hne : c ≠ '"' := Numeral.ne_of_isDigit hd rfl
    simp [text, hs, hne, wrongType_ne_ok]
  | null hs | boolTrue hs | boolFalse hs | negative hs | array hs | object hs =>
    simp [text, hs, wrongType_ne_ok]

/-- A text that may be missing, as a value. -/
def ofText? : Option Text → Json
  | some s => .string s
  | none => .null

theorem optionalText_of_ne {c : Char} {r : Text} (hs : skipBlanks cs = c :: r) (hc : c ≠ 'n') :
    optionalText cs = (text cs).map fun (s, rest) => (some s, rest) := by
  have ht : text (c :: r) = text cs := by rw [← hs, text, text, skipBlanks_skipBlanks]
  rw [optionalText, hs]
  simp only [hc, if_false, ht]

/-- A text that may be missing is read from strings, and from null. -/
theorem optionalText_takes : Takes optionalText ofText? := by
  intro depth cs v mid h o rest
  -- Whatever does not begin like null is left to the reader of texts.
  have hmap {c : Char} {r : Text} (hs : skipBlanks cs = c :: r) (hc : c ≠ 'n') (hv : v ≠ .null) :
      optionalText cs = .ok (o, rest) ↔ v = ofText? o ∧ rest = mid := by
    rw [optionalText_of_ne hs hc]
    constructor
    · intro ho
      obtain ⟨⟨s, rest'⟩, ht, ⟨⟩⟩ := exists_of_map_eq_ok ho
      exact (text_takes h).1 ht
    · rintro ⟨rfl, rfl⟩
      cases o with
      | none => exact absurd rfl hv
      | some s => rw [(text_takes h).2 ⟨rfl, rfl⟩]; rfl
  cases reads_of_value h with
  | null hs hw =>
    have hn : optionalText cs = .ok (none, mid) := by
      rw [optionalText, hs]
      simp only [if_true, hw, Except.map]
    cases o <;> simp [hn, ofText?, eq_comm]
  | number hs hd => exact hmap hs (Numeral.ne_of_isDigit hd rfl) nofun
  | string hs | boolTrue hs | boolFalse hs | negative hs | array hs | object hs =>
    exact hmap hs (by decide) nofun

/-! ### Items -/

/-- An item is of the kind that is read, if it is read. -/
theorem exists_of_nextItem (hr : Takes reader g) (h : Loops (nextItem (value depth)) cs vs rest)
    (hi : nextItem reader cs = .ok (.item a mid)) :
    ∃ ws, vs = g a :: ws ∧ Loops (nextItem (value depth)) mid ws rest := by
  obtain ⟨r, d, r', hc, hd, -, hi⟩ := nextItem_eq_item_iff.1 hi
  cases h with
  | done hs => simp [nextItem_eq_done_iff.1 hs] at hc
  | @item _ _ _ v ws hs hl =>
    obtain ⟨r₁, d₁, r₁', hc₁, hd₁, -, hv⟩ := nextItem_eq_item_iff.1 hs
    cases hc.symm.trans hc₁
    cases hd.symm.trans hd₁
    obtain ⟨rfl, rfl⟩ := (hr hv).1 hi
    exact ⟨ws, rfl, hl⟩

theorem nextItem_of_takes (hr : Takes reader g)
    (h : Loops (nextItem (value depth)) cs (g a :: vs) rest) :
    ∃ mid, nextItem reader cs = .ok (.item a mid) ∧ Loops (nextItem (value depth)) mid vs rest := by
  cases h with
  | @item _ mid _ _ _ hs hl =>
    obtain ⟨r, d, r', hc, hd, hne, hv⟩ := nextItem_eq_item_iff.1 hs
    exact ⟨mid, nextItem_eq_item_iff.2 ⟨r, d, r', hc, hd, hne, (hr hv).2 ⟨rfl, rfl⟩⟩, hl⟩

/-! ### Objects -/

/-- The text stands for an object with these fields, in this order. -/
def IsObject (t : Text) (fields : List (Text × Json)) : Prop :=
  ∃ cs rest, skipBlanks t = '{' :: cs ∧
    objectBody (value (depthLimit - 1)) cs = .ok (fields, rest) ∧ skipBlanks rest = []

/-- Of the fields with the same key, the last one counts in the value that a text stands for. -/
theorem read_eq_object_iff {fields : List (Text × Json)} : read t = .ok (.object fields) ↔
    ∃ written, IsObject t written ∧ fields = sortFields written := by
  constructor
  · intro h
    obtain ⟨rest, hv, hrest⟩ := readAll_eq_ok_iff.1 h
    cases reads_of_value hv with
    | object hs hb => exact ⟨_, ⟨_, _, hs, hb, hrest⟩, rfl⟩
  · rintro ⟨written, ⟨cs, rest, hs, hb, hrest⟩, rfl⟩
    exact readAll_eq_ok_iff.2 ⟨rest, (Reads.object hs hb).value_eq, hrest⟩

theorem read_eq_array_iff {items : List Json} :
    read t = .ok (.array items) ↔ ∃ cs rest, skipBlanks t = '[' :: cs ∧
      arrayBody (value (depthLimit - 1)) cs = .ok (items, rest) ∧ skipBlanks rest = [] := by
  constructor
  · intro h
    obtain ⟨rest, hv, hrest⟩ := readAll_eq_ok_iff.1 h
    cases reads_of_value hv with
    | array hs hb => exact ⟨_, _, hs, hb, hrest⟩
  · rintro ⟨cs, rest, hs, hb, hrest⟩
    exact readAll_eq_ok_iff.2 ⟨rest, (Reads.array hs hb).value_eq, hrest⟩

end Backoffice.Json
