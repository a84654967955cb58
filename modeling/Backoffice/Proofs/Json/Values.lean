import Backoffice.Proofs.Json.Numbers
import Backoffice.Proofs.Json.Reading
import Backoffice.Proofs.Json.Strings
import Backoffice.Proofs.Text.Pieces
import Mathlib.Data.Char
import Mathlib.Data.List.Lex

/-!
# JSON values read back

A value that was read is nested no deeper than the reader goes, its integers fit in 64 bits, and
the fields of its objects are sorted and have different keys (`Readable`). Such a value is read
back from its compact form if there is no binary number in it, since nothing else is rounded.

* `sortFields_of_sorted`: sorting leaves sorted fields as they are;
* `readable_of_value`: what all values that are read have in common;
* `value_compact`: which values are read back.
-/

namespace Backoffice.Json

open Text (Step Loops)

variable {α : Type} {item : Reader α} {a : α} {c : Char} {k cs rest : Text}
  {fs : List (Text × α)} {f : Text × α} {depth : Nat} {v : Json}

/-! ### Sorted fields -/

/-- The keys of the fields ascend, and so are all different. -/
def Sorted (fs : List (Text × α)) : Prop :=
  fs.Pairwise fun f g => f.1 < g.1

/-- A field of the result is the one that was put in, or was there before. -/
theorem mem_of_mem_insertField (h : f ∈ insertField k a fs) : f = (k, a) ∨ f ∈ fs := by
  induction fs with
  | nil => exact .inl (List.mem_singleton.1 h)
  | cons g fs ih =>
    rw [insertField] at h
    split_ifs at h
    · exact (List.mem_cons.1 h).imp_right (List.mem_cons_of_mem _)
    · exact List.mem_cons.1 h
    · rcases List.mem_cons.1 h with rfl | h
      · exact .inr List.mem_cons_self
      · exact (ih h).imp_right (List.mem_cons_of_mem _)

theorem Sorted.insertField (h : Sorted fs) (k : Text) (a : α) :
    Sorted (insertField k a fs) := by
  induction fs with
  | nil => exact List.pairwise_singleton _ _
  | cons g fs ih =>
    obtain ⟨hg, hfs⟩ := List.pairwise_cons.1 h
    rw [Json.insertField]
    split_ifs with heq hlt
    · exact List.pairwise_cons.2 ⟨heq ▸ hg, hfs⟩
    · refine List.pairwise_cons.2 ⟨fun f hf => ?_, h⟩
      rcases List.mem_cons.1 hf with rfl | hf
      · exact hlt
      · exact lt_trans hlt (hg f hf)
    · refine List.pairwise_cons.2 ⟨fun f hf => ?_, ih hfs⟩
      rcases mem_of_mem_insertField hf with rfl | hf
      · exact lt_of_le_of_ne (not_lt.1 hlt) (Ne.symm heq)
      · exact hg f hf

theorem sorted_sortFields (fs : List (Text × α)) : Sorted (sortFields fs) := by
  have hs (fs sorted : List (Text × α)) (h : Sorted sorted) :
      Sorted (fs.foldl (fun sorted f => Json.insertField f.1 f.2 sorted) sorted) := by
    induction fs generalizing sorted with
    | nil => exact h
    | cons f fs ih => exact ih _ (h.insertField f.1 f.2)
  exact hs fs [] List.Pairwise.nil

theorem mem_of_mem_sortFields (h : f ∈ sortFields fs) : f ∈ fs := by
  have hm (fs sorted : List (Text × α)) (h : f ∈ fs.foldl (fun sorted f =>
      Json.insertField f.1 f.2 sorted) sorted) : f ∈ fs ∨ f ∈ sorted := by
    induction fs generalizing sorted with
    | nil => exact .inr h
    | cons g fs ih =>
      rcases ih _ h with h | h
      · exact .inl (List.mem_cons_of_mem _ h)
      · exact (mem_of_mem_insertField h).imp_left fun h => List.mem_cons.2 (.inl h)
  exact (hm fs [] h).resolve_right List.not_mem_nil

/-- A key after all others is put at the end. -/
theorem insertField_eq_append (h : ∀ f ∈ fs, f.1 < k) : insertField k a fs = fs ++ [(k, a)] := by
  induction fs with
  | nil => rfl
  | cons g fs ih =>
    have hg := h g List.mem_cons_self
    rw [Json.insertField, if_neg (ne_of_gt hg), if_neg (not_lt_of_gt hg),
      ih fun f hf => h f (List.mem_cons_of_mem _ hf), List.cons_append]

/-- Sorting leaves sorted fields as they are. -/
theorem sortFields_of_sorted (h : Sorted fs) : sortFields fs = fs := by
  have hf (sorted fs : List (Text × α)) (h : Sorted (sorted ++ fs)) :
      fs.foldl (fun sorted f => Json.insertField f.1 f.2 sorted) sorted = sorted ++ fs := by
    induction fs generalizing sorted with
    | nil => exact (List.append_nil _).symm
    | cons f fs ih =>
      have hlt : ∀ g ∈ sorted, g.1 < f.1 := fun g hg =>
        (List.pairwise_append.1 h).2.2 g hg f List.mem_cons_self
      have happ : sorted ++ f :: fs = (sorted ++ [f]) ++ fs := by simp
      rw [List.foldl_cons, insertField_eq_append hlt, happ]
      exact ih _ (happ ▸ h)
  exact hf [] fs h

/-! ### What was read -/

/-- The value could have been read, nested no deeper than `depth`. -/
inductive Readable : Nat → Json → Prop
  | null {depth : Nat} : Readable depth .null
  | bool {depth : Nat} (b : Bool) : Readable depth (.bool b)
  | number {depth : Nat} {n : Number} : n.Fits → Readable depth (.number n)
  | string {depth : Nat} (s : Text) : Readable depth (.string s)
  | array {depth : Nat} {items : List Json} : (∀ v ∈ items, Readable depth v) →
      Readable (depth + 1) (.array items)
  | object {depth : Nat} {fields : List (Text × Json)} : Sorted fields →
      (∀ f ∈ fields, Readable depth f.2) → Readable (depth + 1) (.object fields)

/-- What was read is nested no deeper, fits, and has its fields sorted. -/
theorem readable_of_value (h : value depth cs = .ok (v, rest)) : Readable depth v := by
  -- By induction on the depth, of which an array or an object leaves one less to what is in it.
  induction depth using Nat.strongRecOn generalizing cs v rest with
  | ind depth ih =>
    cases reads_of_value h with
    | null => exact .null
    | boolTrue | boolFalse => exact .bool _
    | negative _ hn => exact .number (numeral_eq_ok hn).2
    | number _ _ hn => exact .number (numeral_eq_ok hn).2
    | string => exact .string _
    | array _ hb =>
      refine .array fun v hv => ?_
      obtain ⟨_, _, hi⟩ := (items_of_arrayBody hb).exists_of_mem hv
      exact ih _ (Nat.lt_succ_self _) hi
    | object _ hb =>
      refine .object (sorted_sortFields _) fun f hf => ?_
      obtain ⟨_, _, hi⟩ := (fields_of_objectBody hb).exists_of_mem (mem_of_mem_sortFields hf)
      exact ih _ (Nat.lt_succ_self _) hi

/-! ### What is read back -/

mutual

/-- Whether no part of the value is a binary number. -/
def isExact : Json → Bool
  | .number (.float _) => false
  | .array items => itemsExact items
  | .object fields => fieldsExact fields
  | _ => true

/-- Whether no part of the items is a binary number. -/
def itemsExact : List Json → Bool
  | [] => true
  | v :: vs => v.isExact && itemsExact vs

/-- Whether no part of the fields is a binary number. -/
def fieldsExact : List (Text × Json) → Bool
  | [] => true
  | f :: fs => f.2.isExact && fieldsExact fs

end

theorem itemsExact_iff {items : List Json} :
    itemsExact items = true ↔ ∀ v ∈ items, v.isExact = true := by
  induction items with
  | nil => simp [itemsExact]
  | cons v vs ih => simp [itemsExact, ih]

theorem fieldsExact_iff {fields : List (Text × Json)} :
    fieldsExact fields = true ↔ ∀ f ∈ fields, f.2.isExact = true := by
  induction fields with
  | nil => simp [fieldsExact]
  | cons f fs ih => rw [fieldsExact, Bool.and_eq_true, ih, List.forall_mem_cons]

/-- Whether the value is an object. -/
def isObject : Json → Bool
  | .object _ => true
  | _ => false

theorem isObject_iff : v.isObject = true ↔ ∃ fields, v = .object fields := by
  cases v <;> simp [isObject]

theorem compactItems_eq (items : List Json) : compactItems items = items.map compact := by
  induction items with
  | nil => rfl
  | cons v vs ih => rw [compactItems, ih, List.map_cons]

/-- A field without blanks. -/
def compactField (f : Text × Json) : Text :=
  quote f.1 ++ ':' :: compact f.2

theorem compactFields_eq (fields : List (Text × Json)) :
    compactFields fields = fields.map compactField := by
  induction fields with
  | nil => rfl
  | cons f fs ih => rw [compactFields, ih, List.map_cons, compactField]

theorem compact_array_append (items : List Json) (rest : Text) :
    compact (.array items) ++ rest =
      '[' :: (Text.joined "," (items.map compact) ++ ']' :: rest) := by
  simp [compact, compactItems_eq]

theorem compact_object_append (fields : List (Text × Json)) (rest : Text) :
    compact (.object fields) ++ rest =
      '{' :: (Text.joined "," (fields.map compactField) ++ '}' :: rest) := by
  simp [compact, compactFields_eq]

/-! #### Numbers and strings -/

theorem isBlank_of_isDigit (h : c.isDigit = true) : isBlank c = false := by
  have hne {e : Char} (he : e.isDigit = false) : c ≠ e := Numeral.ne_of_isDigit h he
  rw [isBlank, decide_eq_false (hne rfl), decide_eq_false (hne rfl), decide_eq_false (hne rfl),
    decide_eq_false (hne rfl)]
  rfl

/-- An integer that fits is read back, with its sign before its digits. -/
theorem value_whole {n : Int} (hn : (Number.integer n).Fits) (hr : EndsNumber rest) :
    value depth (Numeral.whole n ++ rest) = .ok (.number (.integer n), rest) := by
  obtain ⟨hlo, hhi⟩ := hn
  have hlimit : significandLimit = 2 ^ 64 := rfl
  cases n with
  | ofNat m =>
    rw [Int.ofNat_eq_natCast] at hhi
    have hm : numeral false (Numeral.natural m ++ rest) = .ok (.integer m, rest) :=
      numeral_natural (by omega) hr
    show value depth (Numeral.natural m ++ rest) = _
    obtain ⟨d, ds, hds, hd, -⟩ := Numeral.exists_natural_eq m
    rw [hds, List.cons_append] at hm ⊢
    exact (Reads.number (skipBlanks_of_not_isBlank (isBlank_of_isDigit hd)) hd hm).value_eq
  | negSucc m =>
    have hm : numeral true (Numeral.natural (m + 1) ++ rest) =
        .ok (ofSignificand true (m + 1), rest) := numeral_natural (by omega) hr
    have hs : ofSignificand true (m + 1) = .integer (Int.negSucc m) := by
      have h63 : Nat.pow 2 63 = 2 ^ 63 := rfl
      rw [ofSignificand, if_neg (by decide), if_neg (by omega)]
      rfl
    rw [hs] at hm
    exact (Reads.negative (skipBlanks_of_not_isBlank rfl) hm).value_eq

theorem value_quote (s rest : Text) : value depth (quote s ++ rest) = .ok (.string s, rest) := by
  rw [quote_append]
  exact (Reads.string (skipBlanks_of_not_isBlank rfl) (stringBody_flatMap s rest)).value_eq

/-! #### Arrays and objects

Behind every item and every field stands a comma or the closing bracket, and no number goes on
there; so each may be read back as if it stood alone. -/

section Separated

variable {β : Type} {print : β → Text} {bs : List β} {step : Text → Except Fault (Step β)}

theorem joined_map_append (b : β) (bs : List β) :
    Text.joined "," ((b :: bs).map print) ++ cs =
      print b ++ ((bs.flatMap fun d => ',' :: print d) ++ cs) := by
  rw [List.map_cons, Text.joined_cons, List.flatMap_map, List.append_assoc]
  rfl

theorem endsNumber_separated (print : β → Text) (bs : List β) (hc : EndsNumber cs) :
    EndsNumber ((bs.flatMap fun b => ',' :: print b) ++ cs) := by
  cases bs with
  | nil => exact hc
  | cons b bs => exact endsNumber_cons (by decide)

/-- A loop reads what stands behind commas if it reads each, and the end, without a number going
    on. -/
theorem collectAll_separated (ended : Fault) (hc : EndsNumber cs)
    (hi : ∀ b ∈ bs, ∀ mid, EndsNumber mid → step ((',' :: print b) ++ mid) = .ok (.item b mid))
    (hd : step cs = .ok (.done rest)) :
    Text.collectAll ended step ((bs.flatMap fun b => ',' :: print b) ++ cs) = .ok (bs, rest) := by
  have h := Text.collectAll_flatMap_of (f := id) ended (fun _ _ => List.cons_ne_nil _ _)
    (fun _ _ _ => endsNumber_cons (by decide)) hc hi hd
  rwa [List.map_id] at h

end Separated

/-- A value does not begin like the end of an array. -/
theorem exists_skipBlanks_of_value (h : value depth cs = .ok (v, rest)) :
    ∃ c r, skipBlanks cs = c :: r ∧ c ≠ ']' ∧ value depth (c :: r) = .ok (v, rest) := by
  have hc : ∃ c r, skipBlanks cs = c :: r ∧ c ≠ ']' := by
    cases reads_of_value h with
    | number hs hd => exact ⟨_, _, hs, Numeral.ne_of_isDigit hd rfl⟩
    | null hs | boolTrue hs | boolFalse hs | negative hs | string hs | array hs | object hs =>
      exact ⟨_, _, hs, by decide⟩
  obtain ⟨c, r, hs, hne⟩ := hc
  exact ⟨c, r, hs, hne, by rw [← hs, value_skipBlanks, h]⟩

theorem nextItem_comma (h : value depth cs = .ok (v, rest)) :
    nextItem (value depth) (',' :: cs) = .ok (.item v rest) := by
  obtain ⟨c, r, hs, hne, hv⟩ := exists_skipBlanks_of_value h
  exact nextItem_eq_item_iff.2 ⟨cs, c, r, skipBlanks_of_not_isBlank rfl, hs, hne, hv⟩

/-- Values that are read back from their compact form are read back as the items of an
    array. -/
theorem arrayBody_compact {items : List Json}
    (h : ∀ v ∈ items, ∀ rest, EndsNumber rest → value depth (compact v ++ rest) = .ok (v, rest))
    (rest : Text) :
    arrayBody (value depth) (Text.joined "," (items.map compact) ++ ']' :: rest) =
      .ok (items, rest) := by
  cases items with
  | nil => rfl
  | cons v vs =>
    have hend : EndsNumber (']' :: rest) := endsNumber_cons (by decide)
    have hi : ∀ w ∈ vs, ∀ mid, EndsNumber mid →
        nextItem (value depth) ((',' :: compact w) ++ mid) = .ok (.item w mid) :=
      fun w hw mid hm => nextItem_comma (h w (List.mem_cons_of_mem _ hw) mid hm)
    have hl := collectAll_separated (⟨.listEnded, 0⟩ : Fault) hend hi rfl
    have hv := h v List.mem_cons_self _ (endsNumber_separated compact vs hend)
    obtain ⟨c, r, hs, hne, hv'⟩ := exists_skipBlanks_of_value hv
    rw [joined_map_append, arrayBody, hs]
    simp only [hne, if_false, hv', hl]

theorem compactField_append (f : Text × Json) (rest : Text) :
    compactField f ++ rest =
      '"' :: (f.1.flatMap escapedChar ++ '"' :: ':' :: (compact f.2 ++ rest)) := by
  rw [compactField, List.append_assoc, quote_append]
  rfl

theorem field_compact {x : Json} (k : Text)
    (h : value depth (compact x ++ rest) = .ok (x, rest)) :
    field (value depth) (k.flatMap escapedChar ++ '"' :: ':' :: (compact x ++ rest)) =
      .ok ((k, x), rest) :=
  field_eq_ok_iff.2 ⟨_, _, stringBody_flatMap k _,
    colon_eq_ok_iff.2 (skipBlanks_of_not_isBlank rfl), h⟩

theorem nextField_comma {f : Text × Json}
    (h : value depth (compact f.2 ++ rest) = .ok (f.2, rest)) :
    nextField (value depth) ((',' :: compactField f) ++ rest) = .ok (.item f rest) := by
  rw [List.cons_append, compactField_append]
  exact fieldAfter_eq_item_iff.2 ⟨_, nextKey_eq_item_iff.2 ⟨_, skipBlanks_of_not_isBlank rfl,
    skipBlanks_of_not_isBlank rfl⟩, field_compact f.1 h⟩

/-- Values that are read back from their compact form are read back as the values of an
    object's fields, whatever their keys. -/
theorem objectBody_compact {fields : List (Text × Json)}
    (h : ∀ f ∈ fields, ∀ rest, EndsNumber rest →
      value depth (compact f.2 ++ rest) = .ok (f.2, rest)) (rest : Text) :
    objectBody (value depth) (Text.joined "," (fields.map compactField) ++ '}' :: rest) =
      .ok (fields, rest) := by
  cases fields with
  | nil => rfl
  | cons f fs =>
    have hend : EndsNumber ('}' :: rest) := endsNumber_cons (by decide)
    have hi : ∀ g ∈ fs, ∀ mid, EndsNumber mid →
        nextField (value depth) ((',' :: compactField g) ++ mid) = .ok (.item g mid) :=
      fun g hg mid hm => nextField_comma (h g (List.mem_cons_of_mem _ hg) mid hm)
    have hl : Text.collectAll ⟨.objectEnded, 0⟩ (fun cs => fieldAfter (value depth) (nextKey cs))
        ((fs.flatMap fun g => ',' :: compactField g) ++ '}' :: rest) = .ok (fs, rest) :=
      collectAll_separated _ hend hi rfl
    have hf := field_compact f.1
      (h f List.mem_cons_self _ (endsNumber_separated compactField fs hend))
    rw [joined_map_append, compactField_append, objectBody, fieldAfter_eq_item_iff.2 ⟨_,
      firstKey_eq_item_iff.2 (skipBlanks_of_not_isBlank rfl), hf⟩]
    simp only [hl]

/-- A value that could have been read and has no binary number in it is read back from its
    compact form, if what follows does not go on a number. -/
theorem value_compact (h : Readable depth v) (he : v.isExact = true) (hr : EndsNumber rest) :
    value depth (compact v ++ rest) = .ok (v, rest) := by
  induction h generalizing rest with
  | null => exact (Reads.null (skipBlanks_of_not_isBlank rfl) rfl).value_eq
  | bool b =>
    cases b with
    | false => exact (Reads.boolFalse (skipBlanks_of_not_isBlank rfl) rfl).value_eq
    | true => exact (Reads.boolTrue (skipBlanks_of_not_isBlank rfl) rfl).value_eq
  | @number _ n hn =>
    cases n with
    | integer n => exact value_whole hn hr
    | float x => cases he
  | string s => exact value_quote s rest
  | array _ ih =>
    have hitems := itemsExact_iff.1 he
    rw [compact_array_append]
    exact (Reads.array (skipBlanks_of_not_isBlank rfl)
      (arrayBody_compact (fun v hv rest => ih v hv (hitems v hv)) rest)).value_eq
  | object hs _ ih =>
    have hfields := fieldsExact_iff.1 he
    rw [compact_object_append]
    have hb := objectBody_compact fun f hf rest => ih f hf (hfields f hf)
    have ho := Reads.object (skipBlanks_of_not_isBlank rfl) (hb rest)
    rw [sortFields_of_sorted hs] at ho
    exact ho.value_eq

theorem read_compact_of_readable (h : Readable depthLimit v) (he : v.isExact = true) :
    read v.compact = .ok v := by
  have hc := value_compact h he endsNumber_nil
  rw [List.append_nil] at hc
  exact readAll_eq_ok_iff.2 ⟨[], hc, rfl⟩

/-- What was read, and has no binary number in it, is read back from its compact form. -/
theorem read_compact {t : Text} (h : read t = .ok v) (he : v.isExact = true) :
    read v.compact = .ok v := by
  obtain ⟨rest, hv, -⟩ := readAll_eq_ok_iff.1 h
  exact read_compact_of_readable (readable_of_value hv) he

end Backoffice.Json
