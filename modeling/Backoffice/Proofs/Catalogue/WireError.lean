import Backoffice.Catalogue.WireError
import Backoffice.Proofs.Json.Shape

/-!
# Errors on the wire, written and read

What is read of an object depends only on the values under the three keys of an error, wherever
they stand between others; and a key that is there twice is as bad as one that is missing. So
the reader is followed field by field, with what it has drafted being what stands under the keys
so far (`Draft.Holds`).

* `readField_eq_ok_iff`, `readFields_firstKey`: which objects are read;
* `readItems_eq_ok_iff`: which arrays are read;
* `read_compact_toJson`: what is written is read again, and what else is read.
-/

namespace Backoffice.WireError

open Text (Step Loops)
open Json (Takes IsObject Items Fields value field nextItem nextField nextKey firstKey colon
  skipBlanks ofText? text_takes optionalText_takes)

variable {α : Type} {cs mid rest rest' t : Text} {depth : Nat} {e : WireError}
  {draft draft' : Draft} {before : List (Text × Json)} {fields : List (Text × Json)}

/-! ### What stands under a key -/

/-- The values of the fields with this key. -/
def under (key : Text) (fields : List (Text × Json)) : List Json :=
  (fields.filter (·.1 = key)).map (·.2)

theorem under_append (key : Text) (xs ys : List (Text × Json)) :
    under key (xs ++ ys) = under key xs ++ under key ys := by
  simp [under]

theorem under_singleton (key k : Text) (v : Json) :
    under key [(k, v)] = if k = key then [v] else [] := by
  by_cases h : k = key <;> simp [under, h]

/-- A value that is there at most once, among the values under a key. -/
def slot (g : α → Json) (o : Option α) : List Json :=
  o.toList.map g

theorem slot_inj {g : α → Json} (hg : g.Injective) {o o' : Option α} :
    slot g o = slot g o' ↔ o' = o := by
  cases o <;> cases o' <;> simp [slot, hg.eq_iff, eq_comm]

theorem slot_append_iff {g : α → Json} {o o' : Option α} {v : Json} :
    slot g o ++ [v] = slot g o' ↔ o = none ∧ ∃ a, v = g a ∧ o' = some a := by
  cases o with
  | none => cases o' <;> simp [slot]
  | some a => cases o' <;> simp [slot]

/-- Less than what is there at most once is there at most once. -/
theorem exists_slot_of_append {g : α → Json} {o : Option α} {xs ys : List Json}
    (h : xs ++ ys = slot g o) : ∃ o', xs = slot g o' := by
  cases xs with
  | nil => exact ⟨none, rfl⟩
  | cons v xs =>
    cases o with
    | none => cases h
    | some a =>
      obtain ⟨rfl, ht⟩ := List.cons.inj h
      obtain ⟨rfl, -⟩ := List.append_eq_nil_iff.1 ht
      exact ⟨some a, rfl⟩

/-- The fields are those of the error: its code and its message once each, and its remedy at
    most once, or null in its place. -/
structure Describes (fields : List (Text × Json)) (e : WireError) : Prop where
  code : under "code" fields = [.string e.code]
  message : under "message" fields = [.string e.message]
  fix : under "fix" fields = [ofText? e.fix] ∨ under "fix" fields = [] ∧ e.fix = none

/-! ### Drafts -/

/-- The draft is what stands under the keys. -/
structure Draft.Holds (draft : Draft) (fields : List (Text × Json)) : Prop where
  code : under "code" fields = slot .string draft.code
  message : under "message" fields = slot .string draft.message
  fix : under "fix" fields = slot ofText? draft.fix

theorem Draft.holds_empty : Draft.empty.Holds [] :=
  ⟨rfl, rfl, rfl⟩

theorem string_injective : Function.Injective Json.string :=
  fun _ _ h => Json.string.inj h

theorem ofText?_injective : Function.Injective ofText? := by
  intro o p h
  cases o <;> cases p <;> simp_all [ofText?]

/-- A draft is complete if it has a code and a message. -/
theorem Draft.finish_eq_ok_iff : draft.finish rest = .ok (e, rest') ↔
    (draft.code = some e.code ∧ draft.message = some e.message ∧ draft.fix.join = e.fix) ∧
      rest' = rest := by
  obtain ⟨code, message, fix⟩ := draft
  obtain ⟨c, m, f⟩ := e
  cases code <;> cases message <;> simp [Draft.finish, Json.failAt, and_assoc, eq_comm]

theorem Draft.Holds.describes_iff (h : draft.Holds fields) : Describes fields e ↔
    draft.code = some e.code ∧ draft.message = some e.message ∧ draft.fix.join = e.fix := by
  have hfix : (slot ofText? draft.fix = [ofText? e.fix] ∨
      slot ofText? draft.fix = [] ∧ e.fix = none) ↔ draft.fix.join = e.fix := by
    cases draft.fix with
    | none => simp [slot, eq_comm]
    | some o => simp [slot, ofText?_injective.eq_iff]
  have hslot {o : Option Text} {s : Text} : slot .string o = slot .string (some s) ↔ o = some s :=
    (slot_inj string_injective).trans eq_comm
  rw [← hfix, ← hslot, ← hslot, ← h.code, ← h.message, ← h.fix]
  exact ⟨fun hd => ⟨hd.code, hd.message, hd.fix⟩, fun ⟨hc, hm, hf⟩ => ⟨hc, hm, hf⟩⟩

/-- What is under the keys of a beginning can be drafted as well. -/
theorem Describes.exists_holds {xs ys : List (Text × Json)} (h : Describes (xs ++ ys) e) :
    ∃ draft : Draft, draft.Holds xs := by
  have hfix : ∃ o, under "fix" (xs ++ ys) = slot ofText? o := by
    rcases h.fix with hf | ⟨hf, -⟩
    · exact ⟨some e.fix, hf⟩
    · exact ⟨none, hf⟩
  obtain ⟨o, hfix⟩ := hfix
  rw [under_append] at hfix
  have hcode := h.code
  have hmessage := h.message
  rw [under_append] at hcode hmessage
  obtain ⟨code, hcode⟩ := exists_slot_of_append (o := some e.code) hcode
  obtain ⟨message, hmessage⟩ := exists_slot_of_append (o := some e.message) hmessage
  obtain ⟨fix, hfix⟩ := exists_slot_of_append hfix
  exact ⟨⟨code, message, fix⟩, hcode, hmessage, hfix⟩

/-- What one more field adds to what the draft holds. -/
theorem Draft.Holds.append_iff {k : Text} {v : Json} (hd : draft.Holds before) :
    draft'.Holds (before ++ [(k, v)]) ↔
      slot .string draft.code ++ under "code" [(k, v)] = slot .string draft'.code ∧
      slot .string draft.message ++ under "message" [(k, v)] = slot .string draft'.message ∧
      slot ofText? draft.fix ++ under "fix" [(k, v)] = slot ofText? draft'.fix := by
  rw [← hd.code, ← hd.message, ← hd.fix, ← under_append, ← under_append, ← under_append]
  exact ⟨fun h => ⟨h.code, h.message, h.fix⟩, fun ⟨hc, hm, hf⟩ => ⟨hc, hm, hf⟩⟩

/-! ### Objects -/

/-- A key is read with a value of its kind, if it has not been read yet. -/
theorem readSlot_eq_ok_iff {reader : Json.Reader α} {g : α → Json} (hr : Takes reader g) {v : Json}
    (hc : colon cs = .ok rest) (hv : value depth rest = .ok (v, mid)) (o : Option α)
    (put : Option α → Draft) (name : Text) :
    (if o.isSome then Json.failAt (.repeatedField name) (afterClosing cs)
      else ((colon cs).bind reader).map fun (a, rest) => (put (some a), rest)) =
        .ok (draft', rest') ↔
      (∃ o', slot g o ++ [v] = slot g o' ∧ draft' = put o') ∧ rest' = mid := by
  simp only [slot_append_iff]
  cases o with
  | some a => simp [Json.failAt]
  | none =>
    rw [hc]
    show (reader rest).map _ = _ ↔ _
    constructor
    · intro h
      obtain ⟨⟨a, r⟩, ha, ⟨⟩⟩ := exists_of_map_eq_ok h
      obtain ⟨rfl, rfl⟩ := (hr hv).1 ha
      exact ⟨⟨some a, ⟨rfl, a, rfl, rfl⟩, rfl⟩, rfl⟩
    · rintro ⟨⟨_, ⟨-, a, rfl, rfl⟩, rfl⟩, rfl⟩
      rw [(hr hv).2 ⟨rfl, rfl⟩]
      rfl

/-- A field is read into the draft exactly if there is a draft that holds it as well. -/
theorem readField_eq_ok_iff {k : Text} {v : Json} (hd : draft.Holds before)
    (hc : colon cs = .ok rest) (hv : value depth rest = .ok (v, mid)) :
    readField draft (.ofText k) cs = .ok (draft', rest') ↔
      draft'.Holds (before ++ [(k, v)]) ∧ rest' = mid := by
  rw [hd.append_iff]
  obtain ⟨code, message, fix⟩ := draft
  obtain ⟨code', message', fix'⟩ := draft'
  -- What stands under the other keys stays, and so does what has been drafted of it.
  by_cases hcode : k = "code"
  · subst hcode
    refine (readSlot_eq_ok_iff text_takes hc hv code (⟨·, message, fix⟩) "code").trans
      (and_congr_left' ?_)
    simp [under_singleton, slot_inj string_injective, slot_inj ofText?_injective]
  by_cases hmessage : k = "message"
  · subst hmessage
    refine (readSlot_eq_ok_iff text_takes hc hv message (⟨code, ·, fix⟩) "message").trans
      (and_congr_left' ?_)
    simpa [under_singleton, slot_inj string_injective, slot_inj ofText?_injective] using
      and_left_comm
  by_cases hfix : k = "fix"
  · subst hfix
    refine (readSlot_eq_ok_iff optionalText_takes hc hv fix (⟨code, message, ·⟩) "fix").trans
      (and_congr_left' ?_)
    simpa [under_singleton, slot_inj string_injective] using and_rotate
  · have hread : readField ⟨code, message, fix⟩ (.ofText k) cs =
        .ok (⟨code, message, fix⟩, mid) := by
      rw [Key.ofText, if_neg hcode, if_neg hmessage, if_neg hfix, readField, hc]
      show (Json.skip rest).map _ = _
      rw [Json.skip_of_value hv]
      rfl
    rw [hread, under_singleton, under_singleton, under_singleton, if_neg hcode, if_neg hmessage,
      if_neg hfix]
    simp [slot_inj string_injective, slot_inj ofText?_injective, eq_comm]

theorem readFields_done {next : Except Json.Fault (Step Unit)} {fuel : Nat}
    (hn : next = .ok (.done rest)) (hd : draft.Holds before) :
    readFields draft next (fuel + 1) = .ok (e, rest') ↔ Describes before e ∧ rest' = rest := by
  rw [readFields.eq_def, hn, hd.describes_iff]
  exact Draft.finish_eq_ok_iff

/-- A field is drafted and reading goes on, or there is no error that the fields describe. -/
theorem readFields_item {next : Except Json.Fault (Step Unit)} {f : Text × Json}
    {fs : List (Text × Json)} {fuel : Nat} (hn : next = .ok (.item () cs))
    (hf : field (value depth) cs = .ok (f, mid)) (hd : draft.Holds before)
    (hrest : ∀ draft' : Draft, draft'.Holds (before ++ [f]) →
      (readFields draft' (nextKey mid) fuel = .ok (e, rest') ↔
        Describes (before ++ [f] ++ fs) e ∧ rest' = rest)) :
    readFields draft next (fuel + 1) = .ok (e, rest') ↔
      Describes (before ++ f :: fs) e ∧ rest' = rest := by
  have happ : before ++ f :: fs = before ++ [f] ++ fs := by simp
  obtain ⟨r, r', hkey, hc, hv⟩ := Json.field_eq_ok_iff.1 hf
  rw [readFields.eq_def, hn, happ]
  simp only [hkey]
  constructor
  · intro h
    split at h
    · cases h
    next draft' mid' hread =>
      obtain ⟨hd', rfl⟩ := (readField_eq_ok_iff hd hc hv).1 hread
      exact (hrest draft' hd').1 h
  · intro h
    -- What all the fields describe has no key twice, so this one was not refused.
    obtain ⟨draft', hd'⟩ := h.1.exists_holds
    rw [(readField_eq_ok_iff hd hc hv).2 ⟨hd', rfl⟩]
    exact (hrest draft' hd').2 h

/-- Reading on from the next key comes to what all the fields describe. -/
theorem readFields_nextKey {fs : List (Text × Json)} {fuel : Nat}
    (hl : Loops (nextField (value depth)) cs fs rest) (hd : draft.Holds before)
    (hf : fs.length < fuel) : readFields draft (nextKey cs) fuel = .ok (e, rest') ↔
      Describes (before ++ fs) e ∧ rest' = rest := by
  induction hl generalizing draft before fuel with
  | done hs =>
    obtain ⟨fuel, rfl⟩ := Nat.exists_eq_succ_of_ne_zero (Nat.ne_zero_of_lt hf)
    rw [List.append_nil]
    exact readFields_done (Json.fieldAfter_eq_done_iff.1 hs) hd
  | item hs _ ih =>
    obtain ⟨fuel, rfl⟩ := Nat.exists_eq_succ_of_ne_zero (Nat.ne_zero_of_lt hf)
    obtain ⟨r, hk, hfield⟩ := Json.fieldAfter_eq_item_iff.1 hs
    exact readFields_item hk hfield hd fun _ hd' => ih hd' (Nat.lt_of_succ_lt_succ hf)

/-- An object is read as the error that its fields describe. -/
theorem readFields_firstKey (h : Fields (value depth) cs fields rest) :
    readFields .empty (firstKey cs) (cs.length + 1) = .ok (e, rest') ↔
      Describes fields e ∧ rest' = rest := by
  have hlen := h.length_lt
  cases h with
  | nil hs => exact readFields_done (Json.firstKey_eq_done_iff.2 hs) Draft.holds_empty
  | cons hs hf hl =>
    exact readFields_item (Json.firstKey_eq_item_iff.2 hs) hf Draft.holds_empty fun _ hd' =>
      readFields_nextKey hl hd' (Nat.lt_of_succ_lt hlen)

/-! ### Arrays -/

theorem closeArray_eq_ok_iff : closeArray cs = .ok rest ↔ skipBlanks cs = ']' :: rest := by
  unfold closeArray
  split
  · next hs => simp [hs, Json.failAt]
  · next c r hs =>
    rw [hs]
    split_ifs with hc hcomma
    · simp [hc]
    · split
      · simp [Json.failAt, hc]
      · split_ifs <;> simp [Json.failPast, hc]
    · simp [Json.failPast, hc]

theorem itemOf_eq_ok_iff {count : Nat} {next : Except Json.Fault (Step α)} {a : α} :
    itemOf count next = .ok (a, rest) ↔ next = .ok (.item a rest) := by
  rcases next with _ | _ | _ <;> simp [itemOf, Json.failAt]

theorem firstItem_eq_item_iff {reader : Json.Reader α} {a : α} :
    firstItem reader cs = .ok (.item a rest) ↔
      ∃ c r, skipBlanks cs = c :: r ∧ c ≠ ']' ∧ reader (c :: r) = .ok (a, rest) := by
  unfold firstItem
  split
  · next hs => simp [hs, Json.failAt]
  · next c r hs =>
    rw [hs]
    split_ifs with hc
    · simp [hc]
    · cases hr : reader (c :: r) <;> simp [Except.map, hr, hc, Prod.ext_iff]

theorem exists_of_firstItem {reader : Json.Reader α} {g : α → Json} {a : α} {vs : List Json}
    (hr : Takes reader g) (h : Items (value depth) cs vs rest)
    (hi : firstItem reader cs = .ok (.item a mid)) :
    ∃ ws, vs = g a :: ws ∧ Loops (nextItem (value depth)) mid ws rest := by
  obtain ⟨c, r, hs, hc, hi⟩ := firstItem_eq_item_iff.1 hi
  cases h with
  | nil hs' => exact absurd (List.cons.inj (hs.symm.trans hs')).1 hc
  | cons hs' _ hv hl =>
    cases hs.symm.trans hs'
    obtain ⟨rfl, rfl⟩ := (hr hv).1 hi
    exact ⟨_, rfl, hl⟩

theorem firstItem_of_takes {reader : Json.Reader α} {g : α → Json} {a : α} {vs : List Json}
    (hr : Takes reader g) (h : Items (value depth) cs (g a :: vs) rest) :
    ∃ mid, firstItem reader cs = .ok (.item a mid) ∧
      Loops (nextItem (value depth)) mid vs rest := by
  cases h with
  | cons hs hc hv hl =>
    exact ⟨_, firstItem_eq_item_iff.2 ⟨_, _, hs, hc, (hr hv).2 ⟨rfl, rfl⟩⟩, hl⟩

/-- An array is read if its items are a code, a message and a remedy or null. -/
theorem readItems_eq_ok_iff {items : List Json} (h : Items (value depth) cs items rest) :
    readItems cs = .ok (e, rest') ↔
      items = [.string e.code, .string e.message, ofText? e.fix] ∧ rest' = rest := by
  simp only [readItems, bind_eq_ok_iff, itemOf_eq_ok_iff, Prod.exists, closeArray_eq_ok_iff]
  constructor
  · rintro ⟨code, m₁, hcode, message, m₂, hmessage, fix, m₃, hfix, _, hclose, ⟨⟩⟩
    obtain ⟨_, rfl, hl₁⟩ := exists_of_firstItem text_takes h hcode
    obtain ⟨_, rfl, hl₂⟩ := Json.exists_of_nextItem text_takes hl₁ hmessage
    obtain ⟨_, rfl, hl₃⟩ := Json.exists_of_nextItem optionalText_takes hl₂ hfix
    cases hl₃ with
    | done hd =>
      cases hclose.symm.trans (Json.nextItem_eq_done_iff.1 hd)
      exact ⟨rfl, rfl⟩
    | item hi =>
      obtain ⟨r, _, _, hc, -⟩ := Json.nextItem_eq_item_iff.1 hi
      cases hclose.symm.trans hc
  · rintro ⟨rfl, rfl⟩
    obtain ⟨m₁, hcode, hl₁⟩ := firstItem_of_takes text_takes h
    obtain ⟨m₂, hmessage, hl₂⟩ := Json.nextItem_of_takes text_takes hl₁
    obtain ⟨m₃, hfix, hl₃⟩ := Json.nextItem_of_takes optionalText_takes hl₂
    cases hl₃ with
    | done hd =>
      exact ⟨_, _, hcode, _, _, hmessage, _, _, hfix, _, Json.nextItem_eq_done_iff.1 hd, rfl⟩

/-! ### Texts -/

theorem reader_eq_ok_iff : reader t = .ok (e, rest) ↔
    (∃ cs, skipBlanks t = '[' :: cs ∧ readItems cs = .ok (e, rest)) ∨
      ∃ cs, skipBlanks t = '{' :: cs ∧
        readFields .empty (firstKey cs) (cs.length + 1) = .ok (e, rest) := by
  unfold reader
  split
  · next hs => simp [hs, Json.failAt]
  · next c r hs =>
    rw [hs]
    split_ifs with hl ho
    · simp [hl]
    · simp [ho]
    · simp [hl, ho, Json.wrongType_ne_ok]

/-- An object is read as the error that its fields describe. -/
theorem read_eq_ok_iff_of_isObject (h : IsObject t fields) :
    read t = .ok e ↔ Describes fields e := by
  obtain ⟨cs, rest, hs, hb, hrest⟩ := h
  have hf := Json.fields_of_objectBody hb
  rw [read, Json.readAll_eq_ok_iff]
  constructor
  · rintro ⟨rest', hr, -⟩
    rcases reader_eq_ok_iff.1 hr with ⟨cs', hs', -⟩ | ⟨cs', hs', hr⟩
    · cases hs.symm.trans hs'
    · cases hs.symm.trans hs'
      exact ((readFields_firstKey hf).1 hr).1
  · intro hd
    have hr := (readFields_firstKey hf).2 ⟨hd, rfl⟩
    exact ⟨rest, reader_eq_ok_iff.2 (.inr ⟨cs, hs, hr⟩), hrest⟩

theorem read_eq_ok_iff_of_read_eq_array {items : List Json} (h : Json.read t = .ok (.array items)) :
    read t = .ok e ↔ items = [.string e.code, .string e.message, ofText? e.fix] := by
  obtain ⟨cs, rest, hs, hb, hrest⟩ := Json.read_eq_array_iff.1 h
  have hi := Json.items_of_arrayBody hb
  rw [read, Json.readAll_eq_ok_iff]
  constructor
  · rintro ⟨rest', hr, -⟩
    rcases reader_eq_ok_iff.1 hr with ⟨cs', hs', hr⟩ | ⟨cs', hs', -⟩
    · cases hs.symm.trans hs'
      exact ((readItems_eq_ok_iff hi).1 hr).1
    · cases hs.symm.trans hs'
  · intro hitems
    have hr := (readItems_eq_ok_iff hi).2 ⟨hitems, rfl⟩
    exact ⟨rest, reader_eq_ok_iff.2 (.inl ⟨cs, hs, hr⟩), hrest⟩

/-- Nothing else is read as an error. -/
theorem exists_array_or_object {v : Json} (hv : Json.read t = .ok v) (h : read t = .ok e) :
    (∃ items, v = .array items) ∨ ∃ fields, v = .object fields := by
  obtain ⟨_, hr, -⟩ := Json.readAll_eq_ok_iff.1 hv
  obtain ⟨_, hw, -⟩ := Json.readAll_eq_ok_iff.1 h
  have hs : ∃ c r, skipBlanks t = c :: r ∧ (c = '[' ∨ c = '{') := by
    rcases reader_eq_ok_iff.1 hw with ⟨cs, hs, -⟩ | ⟨cs, hs, -⟩
    · exact ⟨_, _, hs, .inl rfl⟩
    · exact ⟨_, _, hs, .inr rfl⟩
  obtain ⟨c, r, hs, hc⟩ := hs
  cases Json.reads_of_value hr with
  | array => exact .inl ⟨_, rfl⟩
  | object => exact .inr ⟨_, rfl⟩
  | number hs' hd =>
    cases hs.symm.trans hs'
    rcases hc with rfl | rfl <;> cases hd
  | null hs' | boolTrue hs' | boolFalse hs' | negative hs' | string hs' =>
    cases hs.symm.trans hs'
    simp at hc

/-- Of the texts that stand for a value, those are read as an error that are an array of its
    three parts, or an object with these under its keys. -/
theorem read_eq_ok_iff {v : Json} (hv : Json.read t = .ok v) : read t = .ok e ↔
    v = .array [.string e.code, .string e.message, ofText? e.fix] ∨
      ∃ fields, IsObject t fields ∧ Describes fields e := by
  constructor
  · intro h
    rcases exists_array_or_object hv h with ⟨items, rfl⟩ | ⟨fields, rfl⟩
    · exact .inl (congrArg Json.array ((read_eq_ok_iff_of_read_eq_array hv).1 h))
    · obtain ⟨written, hw, -⟩ := Json.read_eq_object_iff.1 hv
      exact .inr ⟨written, hw, (read_eq_ok_iff_of_isObject hw).1 h⟩
  · rintro (rfl | ⟨fields, hf, hd⟩)
    · exact (read_eq_ok_iff_of_read_eq_array hv).2 rfl
    · exact (read_eq_ok_iff_of_isObject hf).2 hd

/-! ### What is written -/

/-- The fields that are written of an error. -/
def written (e : WireError) : List (Text × Json) :=
  ("code", .string e.code) :: ("message", .string e.message) ::
    e.fix.toList.map fun fix => ("fix", .string fix)

theorem toJson_eq (e : WireError) : e.toJson = .object e.written := by
  obtain ⟨code, message, fix⟩ := e
  cases fix <;> rfl

theorem describes_written (e : WireError) : Describes e.written e := by
  obtain ⟨code, message, fix⟩ := e
  cases fix with
  | none => exact ⟨rfl, rfl, .inr ⟨rfl, rfl⟩⟩
  | some s => exact ⟨rfl, rfl, .inl rfl⟩

theorem exists_string_of_mem_written {f : Text × Json} (h : f ∈ e.written) :
    ∃ s, f.2 = .string s := by
  simp only [written, List.mem_cons, List.mem_map] at h
  rcases h with rfl | rfl | ⟨s, -, rfl⟩ <;> exact ⟨_, rfl⟩

/-- What is written stands for an object with the fields that were written. -/
theorem isObject_compact (e : WireError) : IsObject e.toJson.compact e.written := by
  have hv : ∀ f ∈ e.written, ∀ rest, Json.EndsNumber rest →
      value (Json.depthLimit - 1) (f.2.compact ++ rest) = .ok (f.2, rest) := by
    intro f hf rest _
    obtain ⟨s, hs⟩ := exists_string_of_mem_written hf
    rw [hs]
    exact Json.value_quote s rest
  have hb := Json.objectBody_compact hv []
  have ht := Json.compact_object_append e.written []
  rw [List.append_nil] at ht
  exact ⟨_, [], by rw [toJson_eq, ht]; rfl, hb, rfl⟩

/-- An error is read again from what is written of it, which has its code, its message and,
    exactly if it has one, its remedy under their keys, in this order. So is an error that was
    read from any text; and a text that stands for a value holds an error exactly if the value is
    an array of the three parts, or if these stand under their keys in an object. -/
theorem read_compact_toJson :
    (∀ e : WireError, IsObject e.toJson.compact
        (("code", .string e.code) :: ("message", .string e.message) ::
          e.fix.toList.map fun fix => ("fix", .string fix)) ∧
      read e.toJson.compact = .ok e) ∧
    (∀ t e, read t = .ok e → read e.toJson.compact = .ok e) ∧
    ∀ t v e, Json.read t = .ok v → (read t = .ok e ↔
      v = .array [.string e.code, .string e.message, ofText? e.fix] ∨
        ∃ fields, IsObject t fields ∧ Describes fields e) := by
  have hread (e : WireError) : read e.toJson.compact = .ok e :=
    (read_eq_ok_iff_of_isObject (isObject_compact e)).2 (describes_written e)
  exact ⟨fun e => ⟨isObject_compact e, hread e⟩, fun _ e _ => hread e, fun _ _ _ hv =>
    read_eq_ok_iff hv⟩

/-- The keys in another order, a key that is none of the three, null for a remedy, escapes, and
    an array: one error. -/
theorem read_compact_toJson_shuffled :
    let e : WireError := ⟨"a\"b", "né\n", none⟩
    let t : Text := "\x7b \"fix\": null, \"at\": [\x7b\x7d], \"message\": \"n\\u00e9\\n\"," ++
      "\"at\": 0, \"code\": \"a\\\"b\" \x7d"
    let a : Text := "[\"a\\\"b\",\"né\\n\",null]"
    (∃ fields, IsObject t fields ∧ Describes fields e) ∧ read a = .ok e ∧
      read e.toJson.compact = .ok e := by
  intro e t a
  have ht : read t = .ok e := by decide +kernel
  have hobject : (Json.read t).map Json.isObject = .ok true := by decide +kernel
  obtain ⟨v, hv, ho⟩ := exists_of_map_eq_ok hobject
  have harray : Json.read a = .ok (.array [.string e.code, .string e.message, ofText? e.fix]) := by
    have hreads : Json.Readable Json.depthLimit
        (.array [.string e.code, .string e.message, ofText? e.fix]) := by
      refine .array ?_
      simp [e, ofText?, Json.Readable.string, Json.Readable.null]
    have ha : a = (Json.array [.string e.code, .string e.message, ofText? e.fix]).compact := by
      decide +kernel
    rw [ha]
    exact Json.read_compact_of_readable hreads rfl
  refine ⟨?_, (read_compact_toJson.2.2 a _ e harray).2 (.inl rfl), read_compact_toJson.2.1 t e ht⟩
  rcases (read_compact_toJson.2.2 t v e hv).1 ht with rfl | hd
  · cases ho
  · exact hd

end Backoffice.WireError
