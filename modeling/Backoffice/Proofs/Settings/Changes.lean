import Backoffice.Proofs.Settings.Document

/-!
# Changing settings

A change names a key and gives a text for it. It is either refused, and then nothing
happens, or it puts one value under one key; whether it is refused, and which value it
puts, is a matter of the key and the text alone and not of the settings before. So of any
number of changes, under each key the last one counts that was accepted.

* `Key.value?`: the value that a key takes a text for;
* `set_eq_ok_iff`: what is accepted, and what it changes;
* `get_applyAll`: what changes one after the other come to.
-/

namespace Backoffice.Settings

variable {s changed : Settings} {j k : Key} {name t : Text}

/-! ### Settings by their keys -/

/-- The values that a key can have. -/
abbrev Key.Value : Key → Type
  | .placeholder => Text
  | .maxUploadBytes => UInt64
  | .allowedExtensions => List Text

/-- The value of a key, unless it is open. -/
def get (s : Settings) : (k : Key) → Option k.Value
  | .placeholder => s.chosenPlaceholder
  | .maxUploadBytes => s.chosenMaxBytes
  | .allowedExtensions => s.chosenExtensions

/-- The settings with a value for a key, whatever it was before. -/
def put (s : Settings) : (k : Key) → k.Value → Settings
  | .placeholder, p => { s with chosenPlaceholder := some p }
  | .maxUploadBytes, n => { s with chosenMaxBytes := some n }
  | .allowedExtensions, es => { s with chosenExtensions := some es }

@[simp]
theorem get_put (v : k.Value) : (s.put k v).get k = some v := by
  cases k <;> rfl

theorem get_put_of_ne (h : j ≠ k) (v : k.Value) : (s.put k v).get j = s.get j := by
  cases j <;> cases k <;> simp_all [get, put]

/-- Settings are known by what their keys have. -/
theorem eq_of_get (h : ∀ k, s.get k = changed.get k) : s = changed := by
  obtain ⟨p, n, es⟩ := s
  obtain ⟨p', n', es'⟩ := changed
  rw [Settings.mk.injEq]
  exact ⟨h .placeholder, h .maxUploadBytes, h .allowedExtensions⟩

/-! ### One change -/

/-- The value that a key takes a text for, unless it refuses the text: a placeholder is not
    empty and has no slash, a size is a number of octets, and of types there is one at
    least. -/
def Key.value? : (k : Key) → Text → Option k.Value
  | .placeholder, t => if t = [] ∨ '/' ∈ t then none else some t
  | .maxUploadBytes, t => (Numeral.size? t).toOption
  | .allowedExtensions, t => if extensions t = [] then none else some (extensions t)

/-- What a key takes a text for is put there; every other text is refused. -/
theorem toOption_setKey (s : Settings) (k : Key) (t : Text) :
    (s.setKey k t).toOption = (k.value? t).map (s.put k) := by
  cases k with
  | placeholder =>
    by_cases h : t = [] ∨ '/' ∈ t
    · simp [setKey, Key.value?, Except.toOption, h]
    · simp [setKey, Key.value?, Except.toOption, h, put]
  | maxUploadBytes => cases h : Numeral.size? t <;> simp [setKey, Key.value?, Except.toOption, h, put]
  | allowedExtensions =>
    by_cases h : extensions t = []
    · simp [setKey, Key.value?, Except.toOption, h]
    · simp [setKey, Key.value?, Except.toOption, h, put]

theorem setKey_eq_ok_iff : s.setKey k t = .ok changed ↔
    ∃ v, k.value? t = some v ∧ s.put k v = changed := by
  have ho : s.setKey k t = .ok changed ↔ (s.setKey k t).toOption = some changed := by
    cases s.setKey k t <;> simp [Except.toOption]
  rw [ho, toOption_setKey, Option.map_eq_some_iff]

/-- A key is found by its name only. -/
theorem name_of_ofName? (h : Key.ofName? name = some k) : k.name = name := by
  have hk := List.find?_some h
  simpa using hk

/-- A change is accepted if there is a key of that name that takes the text for a value,
    and puts this value there. -/
theorem set_eq_ok_iff : s.set name t = .ok changed ↔
    ∃ (k : Key) (v : k.Value), k.name = name ∧ k.value? t = some v ∧ s.put k v = changed := by
  rw [set]
  constructor
  · intro h
    cases hk : Key.ofName? name with
    | none =>
      rw [hk] at h
      cases h
    | some k =>
      have hs : s.setKey k t = .ok changed := by rwa [hk] at h
      obtain ⟨v, hv, hc⟩ := setKey_eq_ok_iff.1 hs
      exact ⟨k, v, name_of_ofName? hk, hv, hc⟩
  · rintro ⟨k, v, rfl, hv, hc⟩
    rw [Key.ofName?_name]
    exact setKey_eq_ok_iff.2 ⟨v, hv, hc⟩

/-- A change that is asked for: the name of a key, and a text for it. -/
structure Change where
  name : Text
  value : Text
  deriving DecidableEq, Repr

/-- The value that a change gives a key, unless it is refused or of another key. -/
def Key.given? (k : Key) (c : Change) : Option k.Value :=
  if c.name = k.name then k.value? c.value else none

theorem Key.given?_of_ne {c : Change} (h : c.name ≠ k.name) : k.given? c = none :=
  if_neg h

/-- The settings after a change; one that is refused makes no difference. -/
def apply (s : Settings) (c : Change) : Settings :=
  match s.set c.name c.value with
  | .ok changed => changed
  | .error _ => s

/-- A change gives a value to a key if it is accepted, whatever the settings, and then the
    key has this value. -/
theorem given?_eq_some_iff (s : Settings) {c : Change} {v : k.Value} :
    k.given? c = some v ↔
      c.name = k.name ∧ ∃ changed, s.set c.name c.value = .ok changed ∧ changed.get k = some v := by
  rw [Key.given?]
  constructor
  · intro h
    split_ifs at h with hn
    exact ⟨hn, s.put k v, set_eq_ok_iff.2 ⟨k, v, hn.symm, h, rfl⟩, get_put v⟩
  · rintro ⟨hn, changed, hs, hg⟩
    obtain ⟨j, w, hj, hw, rfl⟩ := set_eq_ok_iff.1 hs
    obtain rfl : j = k := Key.name_inj.1 (hj.trans hn)
    rw [if_pos hn, hw, ← hg, get_put]

/-- What a change gives a key, it has afterwards; what gives it nothing leaves it. -/
theorem get_apply (s : Settings) (c : Change) (k : Key) :
    (s.apply c).get k = (k.given? c).or (s.get k) := by
  cases hs : s.set c.name c.value with
  | error e =>
    -- What is refused gives nothing to any key.
    have hg : k.given? c = none := by
      refine Option.eq_none_iff_forall_ne_some.2 fun v hv => ?_
      obtain ⟨-, changed, hc, -⟩ := (given?_eq_some_iff s).1 hv
      rw [hs] at hc
      cases hc
    rw [apply, hs, hg, Option.none_or]
  | ok changed =>
    have ha : s.apply c = changed := by rw [apply, hs]
    obtain ⟨j, v, hj, hv, rfl⟩ := set_eq_ok_iff.1 hs
    rw [ha]
    by_cases hk : k = j
    · subst hk
      rw [Key.given?, if_pos hj.symm, hv, get_put, Option.some_or]
    · -- A change of one key gives nothing to another.
      have hn : c.name ≠ k.name := fun h => hk (Key.name_inj.1 (hj.trans h)).symm
      rw [Key.given?_of_ne hn, get_put_of_ne hk, Option.none_or]

/-! ### Changes one after the other -/

/-- The settings after some changes. -/
def applyAll (s : Settings) (cs : List Change) : Settings :=
  cs.foldl apply s

/-- The last value that some changes give a key. -/
def Key.last? (k : Key) (cs : List Change) : Option k.Value :=
  (cs.filterMap k.given?).getLast?

theorem Key.last?_cons (k : Key) (c : Change) (cs : List Change) :
    k.last? (c :: cs) = (k.last? cs).or (k.given? c) := by
  rw [last?, last?, List.filterMap_cons]
  cases k.given? c with
  | none => simp
  | some v =>
    rw [List.getLast?_cons]
    cases (cs.filterMap k.given?).getLast? <;> rfl

theorem Key.last?_eq_none_iff {cs : List Change} :
    k.last? cs = none ↔ ∀ c ∈ cs, k.given? c = none := by
  rw [last?, List.getLast?_eq_none_iff, List.filterMap_eq_nil_iff]

/-- The last value is given by one of the changes. -/
theorem Key.exists_of_last? {cs : List Change} {v : k.Value} (h : k.last? cs = some v) :
    ∃ c ∈ cs, k.given? c = some v :=
  List.mem_filterMap.1 (List.mem_of_getLast? h)

/-- After some changes a key has the last value that they give it, or else the value that it
    had before. -/
theorem get_applyAll (s : Settings) (cs : List Change) (k : Key) :
    (s.applyAll cs).get k = (k.last? cs).or (s.get k) := by
  induction cs generalizing s with
  | nil => rfl
  | cons c cs ih =>
    -- The first change counts only under keys that no later one gives anything.
    calc ((s.apply c).applyAll cs).get k
        = (k.last? cs).or ((s.apply c).get k) := ih _
      _ = (k.last? cs).or ((k.given? c).or (s.get k)) := by rw [get_apply]
      _ = (k.last? (c :: cs)).or (s.get k) := by rw [Key.last?_cons, Option.or_assoc]

theorem applyAll_append (s : Settings) (cs ds : List Change) :
    s.applyAll (cs ++ ds) = (s.applyAll cs).applyAll ds :=
  List.foldl_append

/-- Changes of different names may change places. -/
theorem apply_comm {c d : Change} (h : c.name ≠ d.name) :
    (s.apply c).apply d = (s.apply d).apply c := by
  refine eq_of_get fun k => ?_
  rw [get_apply, get_apply, get_apply, get_apply]
  -- Under each key at most one of them counts.
  by_cases hc : c.name = k.name
  · have hd : d.name ≠ k.name := fun hd => h (hc.trans hd.symm)
    rw [Key.given?_of_ne hd, Option.none_or, Option.none_or]
  · rw [Key.given?_of_ne hc, Option.none_or, Option.none_or]

end Backoffice.Settings
