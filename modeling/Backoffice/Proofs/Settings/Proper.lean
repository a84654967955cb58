import Backoffice.Proofs.Settings.Extensions
import Backoffice.Proofs.Text.Numeral

/-!
# What changes lead to

Settings that are all open at first, and then changed any number of times, are *proper*: the
placeholder, if there is one, is not empty and has no slash, and the types, if there are any
listed, look as types in a list do. Nothing else is true of all of them, since each key takes
every proper value from some text, and so there are changes that lead to any proper settings.

* `Key.Takes`: the values that a key can be given;
* `Key.takes_iff`: they are the values that it takes some text for;
* `exists_applyAll_blank_iff`: changes lead to the proper settings, and to no others.
-/

namespace Backoffice.Settings

variable {s : Settings} {k : Key} {cs ds : List Change}

/-! ### The values of a key -/

/-- The values that a key can be given. -/
def Key.Takes : (k : Key) → k.Value → Prop
  | .placeholder, p => p ≠ [] ∧ '/' ∉ p
  | .maxUploadBytes, _ => True
  | .allowedExtensions, es => es ≠ [] ∧ ∀ e ∈ es, Listed e

theorem Key.takes_of_value? {t : Text} {v : k.Value} (h : k.value? t = some v) : k.Takes v := by
  cases k with
  | placeholder =>
    rw [value?] at h
    split_ifs at h with hbad
    obtain rfl := Option.some.inj h
    exact not_or.1 hbad
  | maxUploadBytes => trivial
  | allowedExtensions =>
    rw [value?] at h
    split_ifs at h with hnil
    obtain rfl := Option.some.inj h
    exact ⟨hnil, fun e => listed_of_mem_extensions⟩

/-- What a change gives to a key is a value that the key can be given. -/
theorem Key.takes_of_given? {c : Change} {v : k.Value} (h : k.given? c = some v) : k.Takes v := by
  rw [given?] at h
  split_ifs at h
  exact takes_of_value? h

/-- Types that are listed with a dot before each are read as they are. -/
theorem extensions_joined_dot_cons {es : List Text} (hne : es ≠ []) (h : ∀ e ∈ es, Listed e) :
    extensions (Text.joined [','] (es.map ('.' :: ·))) = es := by
  have hcomma : ∀ p ∈ es.map ('.' :: ·), ',' ∉ p := by
    intro p hp
    obtain ⟨e, he, rfl⟩ := List.mem_map.1 hp
    exact List.not_mem_cons_of_ne_of_not_mem (by decide) (h e he).no_comma
  have hmap : (es.map ('.' :: ·)).map extension = es := by
    rw [List.map_map]
    exact (List.map_congr_left fun e he => extension_dot_cons (h e he)).trans (List.map_id es)
  rw [extensions, Text.pieces_joined_of_not_mem (mt List.map_eq_nil_iff.1 hne) hcomma, hmap]
  exact List.filter_eq_self.2 fun e he => by simpa using (h e he).ne_nil

/-- A key can be given the values that it takes some text for. -/
theorem Key.takes_iff {v : k.Value} : k.Takes v ↔ ∃ t, k.value? t = some v := by
  constructor
  · intro h
    cases k with
    | placeholder => exact ⟨v, if_neg (not_or.2 h)⟩
    | maxUploadBytes => exact ⟨Numeral.ofSize v, by rw [value?, Numeral.size?_ofSize]; rfl⟩
    | allowedExtensions =>
      obtain ⟨hne, hlisted⟩ := h
      refine ⟨Text.joined [','] (v.map ('.' :: ·)), ?_⟩
      rw [value?, extensions_joined_dot_cons hne hlisted, if_neg hne]
  · rintro ⟨t, ht⟩
    exact takes_of_value? ht

/-! ### Proper settings -/

/-- Settings of which each key is open or has a value that it can be given. -/
structure Proper (s : Settings) : Prop where
  placeholder : ∀ p, s.chosenPlaceholder = some p → p ≠ [] ∧ '/' ∉ p
  extensions : ∀ es, s.chosenExtensions = some es → es ≠ [] ∧ ∀ e ∈ es, Listed e

theorem proper_iff : s.Proper ↔ ∀ (k : Key) (v : k.Value), s.get k = some v → k.Takes v := by
  constructor
  · intro h k
    cases k with
    | placeholder => exact h.placeholder
    | maxUploadBytes => exact fun _ _ => trivial
    | allowedExtensions => exact h.extensions
  · exact fun h => ⟨h .placeholder, h .allowedExtensions⟩

/-- What is proper stays so with each change. -/
theorem Proper.apply (h : s.Proper) (c : Change) : (s.apply c).Proper := by
  rw [proper_iff] at h ⊢
  intro k v hv
  rw [get_apply] at hv
  cases hg : k.given? c with
  | none =>
    rw [hg, Option.none_or] at hv
    exact h k v hv
  | some w =>
    rw [hg, Option.some_or] at hv
    obtain rfl := Option.some.inj hv
    exact Key.takes_of_given? hg

theorem Proper.applyAll (h : s.Proper) (cs : List Change) : (s.applyAll cs).Proper := by
  induction cs generalizing s with
  | nil => exact h
  | cons c cs ih => exact ih (h.apply c)

theorem proper_blank : blank.Proper where
  placeholder := nofun
  extensions := nofun

/-! ### Every proper setting is reached -/

theorem Key.last?_append (k : Key) (cs ds : List Change) :
    k.last? (cs ++ ds) = (k.last? ds).or (k.last? cs) := by
  rw [last?, List.filterMap_append, List.getLast?_append]
  rfl

/-- There are changes that give one key what it has in proper settings, and no other key
    anything. -/
theorem Proper.exists_changes (h : s.Proper) (k : Key) :
    ∃ cs, k.last? cs = s.get k ∧ ∀ j ≠ k, Key.last? j cs = none := by
  cases hv : s.get k with
  | none => exact ⟨[], rfl, fun _ _ => rfl⟩
  | some v =>
    obtain ⟨t, ht⟩ := Key.takes_iff.1 (proper_iff.1 h k v hv)
    have hgiven : k.given? ⟨k.name, t⟩ = some v := (if_pos rfl).trans ht
    refine ⟨[⟨k.name, t⟩], by rw [Key.last?, List.filterMap_cons_some hgiven]; rfl, fun j hj => ?_⟩
    refine Key.last?_eq_none_iff.2 fun c hc => ?_
    rw [List.mem_singleton.1 hc]
    exact Key.given?_of_ne fun hn => hj (Key.name_inj.1 hn).symm

/-- However often open settings are changed, and whatever is refused, the placeholder is not
    empty and has no slash, and the types are one at least, each with something in it, no
    comma, no capital, no dot first and no blank last. There are changes that lead to any
    settings of which this is true. -/
theorem exists_applyAll_blank_iff : (∃ cs, blank.applyAll cs = s) ↔ s.Proper := by
  constructor
  · rintro ⟨cs, rfl⟩
    exact proper_blank.applyAll cs
  · intro h
    obtain ⟨ps, hp, hp'⟩ := h.exists_changes .placeholder
    obtain ⟨ns, hn, hn'⟩ := h.exists_changes .maxUploadBytes
    obtain ⟨es, he, he'⟩ := h.exists_changes .allowedExtensions
    refine ⟨ps ++ ns ++ es, eq_of_get fun k => ?_⟩
    rw [get_applyAll, Key.last?_append, Key.last?_append]
    cases k with
    | placeholder => simp [hp, hn' .placeholder, he' .placeholder, blank, get]
    | maxUploadBytes => simp [hp' .maxUploadBytes, hn, he' .maxUploadBytes, blank, get]
    | allowedExtensions => simp [hp' .allowedExtensions, hn' .allowedExtensions, he, blank, get]

end Backoffice.Settings
