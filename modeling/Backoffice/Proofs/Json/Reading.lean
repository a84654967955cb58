import Backoffice.Json.Reader
import Backoffice.Proofs.Text.Loop
import Backoffice.Proofs.Text.Numeral
import Mathlib.Data.List.DropRight
import Mathlib.Tactic.SplitIfs

/-!
# How JSON is read

A reader succeeds in few ways, each of which says how the text goes on. Whatever is proved of
all that was read goes by these ways, and through arrays and objects by the derivation of their
loops (`Text.Loops`).

* `nextItem_eq_item_iff`, `Items`: the items of an array;
* `nextKey_eq_item_iff`, `field_eq_ok_iff`, `Fields`: the fields of an object;
* `Reads`, `reads_of_value`: the ways in which a value is read.
-/

namespace Backoffice

theorem exists_of_map_eq_ok {ε α β : Type} {x : Except ε α} {f : α → β} {b : β}
    (h : x.map f = .ok b) : ∃ a, x = .ok a ∧ f a = b := by
  cases x with
  | error e => cases h
  | ok a => exact ⟨a, rfl, Except.ok.inj h⟩

theorem bind_eq_ok_iff {ε α β : Type} {x : Except ε α} {f : α → Except ε β} {b : β} :
    x >>= f = .ok b ↔ ∃ a, x = .ok a ∧ f a = .ok b := by
  cases x with
  | error e => exact ⟨nofun, nofun⟩
  | ok a => exact ⟨fun h => ⟨a, rfl, h⟩, fun ⟨_, ha, h⟩ => Except.ok.inj ha ▸ h⟩

namespace Json

open Text (Step Loops)

variable {α : Type} {item : Reader α} {a : α} {as : List α} {c : Char} {k cs mid rest : Text}
  {f : Text × α} {fs : List (Text × α)} {depth : Nat} {v : Json}

/-! ### Blanks -/

theorem skipBlanks_of_not_isBlank (h : isBlank c = false) : skipBlanks (c :: cs) = c :: cs := by
  simp [skipBlanks, h]

theorem skipBlanks_skipBlanks (cs : Text) : skipBlanks (skipBlanks cs) = skipBlanks cs :=
  List.dropWhile_idempotent _ cs

/-! ### Arrays -/

theorem nextItem_eq_done_iff : nextItem item cs = .ok (.done rest) ↔
    skipBlanks cs = ']' :: rest := by
  rw [nextItem]
  split
  · next hs => simp [hs, failAt]
  · next c r hs =>
    rw [hs]
    split_ifs with hclose hcomma
    · simp [hclose]
    · split
      · simp [failAt, hclose]
      · split_ifs
        · simp [failPast, hclose]
        · split <;> simp [hclose]
    · simp [failPast, hclose]

/-- A further item of an array stands behind a comma, and does not begin like the end. -/
theorem nextItem_eq_item_iff : nextItem item cs = .ok (.item a rest) ↔
    ∃ r d r', skipBlanks cs = ',' :: r ∧ skipBlanks r = d :: r' ∧ d ≠ ']' ∧
      item (d :: r') = .ok (a, rest) := by
  rw [nextItem]
  split
  · next hs => simp [hs, failAt]
  · next c r hs =>
    rw [hs]
    split_ifs with hclose hcomma
    · simp [hclose]
    · subst hcomma
      split
      · next hr => simp [failAt, hr]
      · next d r' hr =>
        split_ifs with hd
        · simp [failPast, hr, hd]
        · split <;> simp_all
    · simp [failPast, hcomma]

/-- The ways in which the items of an array are read. -/
inductive Items (item : Reader α) : Text → List α → Text → Prop
  | nil {cs rest : Text} : skipBlanks cs = ']' :: rest → Items item cs [] rest
  | cons {cs r mid rest : Text} {c : Char} {a : α} {as : List α} : skipBlanks cs = c :: r →
      c ≠ ']' → item (c :: r) = .ok (a, mid) → Loops (nextItem item) mid as rest →
      Items item cs (a :: as) rest

theorem items_of_arrayBody (h : arrayBody item cs = .ok (as, rest)) : Items item cs as rest := by
  rw [arrayBody] at h
  split at h
  · cases h
  · next c r hs =>
    split_ifs at h with hc
    · cases h
      exact .nil (hc ▸ hs)
    · split at h
      · cases h
      · next a mid ha =>
        split at h
        · cases h
        · next as rest' hl =>
          cases h
          exact .cons hs hc ha (.of_collect hl)

/-- Items that a loop yields were each read. -/
theorem exists_of_loops_nextItem (h : Loops (nextItem item) cs as rest) (ha : a ∈ as) :
    ∃ cs rest, item cs = .ok (a, rest) := by
  induction h with
  | done => cases ha
  | item hs _ ih =>
    rcases List.mem_cons.1 ha with rfl | ha
    · obtain ⟨r, d, r', -, -, -, hi⟩ := nextItem_eq_item_iff.1 hs
      exact ⟨_, _, hi⟩
    · exact ih ha

theorem Items.exists_of_mem (h : Items item cs as rest) (ha : a ∈ as) :
    ∃ cs rest, item cs = .ok (a, rest) := by
  cases h with
  | nil => cases ha
  | cons _ _ hi hl =>
    rcases List.mem_cons.1 ha with rfl | ha
    · exact ⟨_, _, hi⟩
    · exact exists_of_loops_nextItem hl ha

/-! ### Objects -/

theorem colon_eq_ok_iff : colon cs = .ok rest ↔ skipBlanks cs = ':' :: rest := by
  rw [colon]
  split
  · next hs => simp [hs, failAt]
  · next c r hs =>
    rw [hs]
    split_ifs with hc
    · simp [hc]
    · simp [failPast, hc]

theorem field_eq_ok_iff : field item cs = .ok ((k, a), rest) ↔
    ∃ r r', stringBody cs = .ok (k, r) ∧ colon r = .ok r' ∧ item r' = .ok (a, rest) := by
  rw [field]
  split
  · next hs => simp [hs]
  · next k' r hs =>
    split
    · next hc => simp_all
    · next r' hc =>
      split <;> simp_all [and_assoc]

theorem firstKey_eq_done_iff : firstKey cs = .ok (.done rest) ↔ skipBlanks cs = '}' :: rest := by
  rw [firstKey]
  split
  · next hs => simp [hs, failAt]
  · next c r hs =>
    rw [hs]
    split_ifs with hclose hq
    · simp [hclose]
    · simp [hclose]
    · simp [failPast, hclose]

theorem firstKey_eq_item_iff : firstKey cs = .ok (.item () rest) ↔
    skipBlanks cs = '"' :: rest := by
  rw [firstKey]
  split
  · next hs => simp [hs, failAt]
  · next c r hs =>
    rw [hs]
    split_ifs with hclose hq
    · simp [hclose]
    · simp [hq]
    · simp [failPast, hq]

theorem nextKey_eq_done_iff : nextKey cs = .ok (.done rest) ↔ skipBlanks cs = '}' :: rest := by
  rw [nextKey]
  split
  · next hs => simp [hs, failAt]
  · next c r hs =>
    rw [hs]
    split_ifs with hclose hcomma
    · simp [hclose]
    · split
      · simp [failAt, hclose]
      · split_ifs <;> simp [failPast, hclose]
    · simp [failPast, hclose]

/-- A further key of an object stands behind a comma. -/
theorem nextKey_eq_item_iff : nextKey cs = .ok (.item () rest) ↔
    ∃ r, skipBlanks cs = ',' :: r ∧ skipBlanks r = '"' :: rest := by
  rw [nextKey]
  split
  · next hs => simp [hs, failAt]
  · next c r hs =>
    rw [hs]
    split_ifs with hclose hcomma
    · simp [hclose]
    · subst hcomma
      split
      · next hr => simp [failAt, hr]
      · next d r' hr =>
        split_ifs with hq hclose'
        · simp [hr, hq]
        · simp [failPast, hr, hq]
        · simp [failPast, hr, hq]
    · simp [failPast, hcomma]

theorem fieldAfter_eq_done_iff {next : Except Fault (Step Unit)} :
    fieldAfter item next = .ok (.done rest) ↔ next = .ok (.done rest) := by
  cases next with
  | error e => simp [fieldAfter]
  | ok s =>
    cases s with
    | done r => simp [fieldAfter]
    | item u r =>
      rw [fieldAfter]
      split <;> simp

theorem fieldAfter_eq_item_iff {next : Except Fault (Step Unit)} :
    fieldAfter item next = .ok (.item f rest) ↔
      ∃ r, next = .ok (.item () r) ∧ field item r = .ok (f, rest) := by
  cases next with
  | error e => simp [fieldAfter]
  | ok s =>
    cases s with
    | done r => simp [fieldAfter]
    | item u r =>
      rw [fieldAfter]
      split <;> simp_all

/-- The reader of a field after another one. -/
def nextField (item : Reader α) (cs : Text) : Except Fault (Step (Text × α)) :=
  fieldAfter item (nextKey cs)

/-- The ways in which the fields of an object are read. -/
inductive Fields (item : Reader α) : Text → List (Text × α) → Text → Prop
  | nil {cs rest : Text} : skipBlanks cs = '}' :: rest → Fields item cs [] rest
  | cons {cs r mid rest : Text} {f : Text × α} {fs : List (Text × α)} :
      skipBlanks cs = '"' :: r → field item r = .ok (f, mid) →
      Loops (nextField item) mid fs rest → Fields item cs (f :: fs) rest

theorem fields_of_objectBody (h : objectBody item cs = .ok (fs, rest)) :
    Fields item cs fs rest := by
  rw [objectBody] at h
  split at h
  · cases h
  · next r hd =>
    cases h
    exact .nil (firstKey_eq_done_iff.1 (fieldAfter_eq_done_iff.1 hd))
  · next f mid hi =>
    obtain ⟨r, hk, hf⟩ := fieldAfter_eq_item_iff.1 hi
    split at h
    · cases h
    · next fs rest' hl =>
      cases h
      exact .cons (firstKey_eq_item_iff.1 hk) hf (.of_collect hl)

theorem exists_of_loops_nextField (h : Loops (nextField item) cs fs rest) (hf : f ∈ fs) :
    ∃ cs rest, item cs = .ok (f.2, rest) := by
  induction h with
  | done => cases hf
  | item hs _ ih =>
    rcases List.mem_cons.1 hf with rfl | hf
    · obtain ⟨r, -, hf⟩ := fieldAfter_eq_item_iff.1 hs
      obtain ⟨_, _, -, -, hi⟩ := field_eq_ok_iff.1 hf
      exact ⟨_, _, hi⟩
    · exact ih hf

theorem Fields.exists_of_mem (h : Fields item cs fs rest) (hf : f ∈ fs) :
    ∃ cs rest, item cs = .ok (f.2, rest) := by
  cases h with
  | nil => cases hf
  | cons _ hi hl =>
    rcases List.mem_cons.1 hf with rfl | hf
    · obtain ⟨_, _, -, -, hi⟩ := field_eq_ok_iff.1 hi
      exact ⟨_, _, hi⟩
    · exact exists_of_loops_nextField hl hf

/-! ### Values -/

/-- The ways in which a value is read off the front of a text. -/
inductive Reads : Nat → Text → Json → Text → Prop
  | null {depth : Nat} {cs r rest : Text} : skipBlanks cs = 'n' :: r → word "ull" r = .ok rest →
      Reads depth cs .null rest
  | boolTrue {depth : Nat} {cs r rest : Text} : skipBlanks cs = 't' :: r →
      word "rue" r = .ok rest → Reads depth cs (.bool true) rest
  | boolFalse {depth : Nat} {cs r rest : Text} : skipBlanks cs = 'f' :: r →
      word "alse" r = .ok rest → Reads depth cs (.bool false) rest
  | negative {depth : Nat} {cs r rest : Text} {n : Number} : skipBlanks cs = '-' :: r →
      numeral true r = .ok (n, rest) → Reads depth cs (.number n) rest
  | number {depth : Nat} {cs r rest : Text} {c : Char} {n : Number} : skipBlanks cs = c :: r →
      c.isDigit = true → numeral false (c :: r) = .ok (n, rest) → Reads depth cs (.number n) rest
  | string {depth : Nat} {cs r rest s : Text} : skipBlanks cs = '"' :: r →
      stringBody r = .ok (s, rest) → Reads depth cs (.string s) rest
  | array {depth : Nat} {cs r rest : Text} {vs : List Json} : skipBlanks cs = '[' :: r →
      arrayBody (value depth) r = .ok (vs, rest) → Reads (depth + 1) cs (.array vs) rest
  | object {depth : Nat} {cs r rest : Text} {fs : List (Text × Json)} : skipBlanks cs = '{' :: r →
      objectBody (value depth) r = .ok (fs, rest) →
      Reads (depth + 1) cs (.object (sortFields fs)) rest

theorem reads_of_value (h : value depth cs = .ok (v, rest)) : Reads depth cs v rest := by
  rw [value.eq_def] at h
  split at h
  · cases h
  · next c r hs =>
    -- One case for each way in which a value can begin.
    split_ifs at h with hn ht hf hneg hd hq ha ho
    · obtain ⟨_, hw, ⟨⟩⟩ := exists_of_map_eq_ok h
      exact .null (hn ▸ hs) hw
    · obtain ⟨_, hw, ⟨⟩⟩ := exists_of_map_eq_ok h
      exact .boolTrue (ht ▸ hs) hw
    · obtain ⟨_, hw, ⟨⟩⟩ := exists_of_map_eq_ok h
      exact .boolFalse (hf ▸ hs) hw
    · obtain ⟨_, hw, ⟨⟩⟩ := exists_of_map_eq_ok h
      exact .negative (hneg ▸ hs) hw
    · obtain ⟨_, hw, ⟨⟩⟩ := exists_of_map_eq_ok h
      exact .number hs hd hw
    · obtain ⟨_, hw, ⟨⟩⟩ := exists_of_map_eq_ok h
      exact .string (hq ▸ hs) hw
    · cases depth with
      | zero => cases h
      | succ depth =>
        obtain ⟨_, hw, ⟨⟩⟩ := exists_of_map_eq_ok h
        exact .array (ha ▸ hs) hw
    · cases depth with
      | zero => cases h
      | succ depth =>
        obtain ⟨_, hw, ⟨⟩⟩ := exists_of_map_eq_ok h
        exact .object (ho ▸ hs) hw
    · cases h

theorem Reads.value_eq (h : Reads depth cs v rest) : value depth cs = .ok (v, rest) := by
  rw [value.eq_def]
  cases h with
  | null hs hw => simp only [hs, if_true, hw, Except.map]
  | boolTrue hs hw => simp only [hs, Char.reduceEq, if_true, if_false, hw, Except.map]
  | boolFalse hs hw => simp only [hs, Char.reduceEq, if_true, if_false, hw, Except.map]
  | negative hs hw => simp only [hs, Char.reduceEq, if_true, if_false, hw, Except.map]
  | @number _ _ r _ c n hs hd hw =>
    -- A digit is none of the characters that are looked for before it.
    have hne {d : Char} (hd' : d.isDigit = false) : c ≠ d := Numeral.ne_of_isDigit hd hd'
    rw [hs]
    simp only
    rw [if_neg (hne rfl), if_neg (hne rfl), if_neg (hne rfl), if_neg (hne rfl), if_pos hd, hw]
    rfl
  | string hs hw => simp [hs, hw, Except.map]
  | array hs hw => simp [hs, hw, Except.map]
  | object hs hw => simp [hs, hw, Except.map]

theorem value_skipBlanks (depth : Nat) (cs : Text) :
    value depth (skipBlanks cs) = value depth cs := by
  rw [value.eq_def, value.eq_def, skipBlanks_skipBlanks]

/-! ### Whole texts -/

/-- All of a text is read if nothing but blanks is left of it. -/
theorem readAll_eq_ok_iff {t : Text} : readAll item t = .ok a ↔
    ∃ rest, item t = .ok (a, rest) ∧ skipBlanks rest = [] := by
  cases hr : item t with
  | error e => simp [readAll, hr, Except.bind]
  | ok p =>
    obtain ⟨b, rest⟩ := p
    simp only [readAll, hr, Except.bind, finish, Except.ok.injEq, Prod.mk.injEq]
    split
    · next hs => simp_all
    · next hs => simp_all [failPast]

end Json

end Backoffice
