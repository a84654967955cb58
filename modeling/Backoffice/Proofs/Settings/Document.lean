import Backoffice.Proofs.Toml.Lines
import Backoffice.Settings.Document

/-!
# Settings read back

What is written of settings is one line for each that is not open, and every such line is
read as the setting. Writing fails for nothing but a size that a document cannot hold.

* `write_isSome_iff`: which settings can be written;
* `read_of_write`: what is written is read as the settings that were written.
-/

namespace Backoffice.Settings

variable {s : Settings}

/-- The lines of settings. -/
def printed (s : Settings) : List Toml.Printed :=
  (s.chosenPlaceholder.map fun p => ⟨Key.placeholder.name, Toml.quote p, .string p⟩).toList ++
    (s.chosenMaxBytes.map fun n =>
      ⟨Key.maxUploadBytes.name, Numeral.ofSize n, .integer n.toNat⟩).toList ++
    (s.chosenExtensions.map fun es =>
      ⟨Key.allowedExtensions.name, Toml.quoteAll es, .array (es.map .string)⟩).toList

/-- The size, if it is not open, is one that a document can hold. -/
def Writable (s : Settings) : Prop :=
  ∀ n ∈ s.chosenMaxBytes, n.toNat ≤ greatestWritten

theorem write_eq_some (h : s.Writable) : s.write = some (s.printed.flatMap Toml.Printed.line) := by
  obtain ⟨p, n, es⟩ := s
  cases n with
  | none => cases p <;> cases es <;> simp [write, printed, Toml.Printed.line]
  | some n =>
    have hn : n.toNat ≤ greatestWritten := h n rfl
    cases p <;> cases es <;> simp [write, printed, Toml.Printed.line, hn]

theorem write_eq_none (h : ¬ s.Writable) : s.write = none := by
  obtain ⟨p, n, es⟩ := s
  cases n with
  | none => exact absurd (fun n hn => nomatch hn) h
  | some n =>
    have hn : ¬ n.toNat ≤ greatestWritten := fun hn => h fun m hm => by
      rw [← Option.some.inj hm]
      exact hn
    simp [write, hn]

/-- Settings can be written unless their size is too large. -/
theorem write_isSome_iff : s.write.isSome ↔ s.Writable := by
  by_cases h : s.Writable
  · simp [write_eq_some h, h]
  · simp [write_eq_none h, h]

/-! ### Every line is read -/

theorem skipBlanks_cons {c : Char} {cs : Text} (hc : Toml.isBlank c = false) :
    Toml.skipBlanks (c :: cs) = c :: cs := by
  simp [Toml.skipBlanks, hc]

theorem Key.name_ne_nil (k : Key) : k.name ≠ [] := by
  cases k <;> decide

theorem Key.inBareKey_name (k : Key) : ∀ c ∈ k.name, Toml.inBareKey c = true := by
  have hk : k.name.all Toml.inBareKey = true := by cases k <;> rfl
  exact List.all_eq_true.1 hk

@[simp]
theorem Key.ofName?_name (k : Key) : Key.ofName? k.name = some k := by
  cases k <;> rfl

theorem Key.name_inj {j k : Key} : j.name = k.name ↔ j = k := by
  refine ⟨fun h => ?_, congrArg Key.name⟩
  have hj := Key.ofName?_name j
  rw [h, Key.ofName?_name] at hj
  exact (Option.some.inj hj).symm

theorem readable_placeholder (p : Text) :
    Toml.Printed.Readable ⟨Key.placeholder.name, Toml.quote p, .string p⟩ where
  key_ne_nil := Key.name_ne_nil .placeholder
  inBareKey := Key.inBareKey_name .placeholder
  skipBlanks_eq rest := by
    obtain ⟨q, t, rfl | rfl, ht⟩ := Toml.exists_quote_eq p <;>
      · simp only [ht]
        exact skipBlanks_cons rfl
  value_eq rest := Toml.value_quote p (by simp) (by simp)

theorem readable_maxUploadBytes {n : UInt64} (hn : n.toNat ≤ greatestWritten) :
    Toml.Printed.Readable ⟨Key.maxUploadBytes.name, Numeral.ofSize n, .integer n.toNat⟩ where
  key_ne_nil := Key.name_ne_nil .maxUploadBytes
  inBareKey := Key.inBareKey_name .maxUploadBytes
  skipBlanks_eq rest := by
    obtain ⟨d, ds, hds, hd, -⟩ := Numeral.exists_natural_eq n.toNat
    have hb : Toml.isBlank d = false := by
      simp [Toml.isBlank, Numeral.ne_of_isDigit hd (d := ' ') rfl,
        Numeral.ne_of_isDigit hd (d := '\t') rfl]
    simp only [Numeral.ofSize, hds]
    exact skipBlanks_cons hb
  value_eq rest := Toml.value_natural (Nat.lt_of_le_of_lt hn (by decide))

theorem readable_allowedExtensions (es : List Text) :
    Toml.Printed.Readable
      ⟨Key.allowedExtensions.name, Toml.quoteAll es, .array (es.map .string)⟩ where
  key_ne_nil := Key.name_ne_nil .allowedExtensions
  inBareKey := Key.inBareKey_name .allowedExtensions
  skipBlanks_eq rest := by
    simp only [Toml.quoteAll]
    exact skipBlanks_cons rfl
  value_eq rest := Toml.value_quoteAll es

theorem readable_of_mem_printed (h : s.Writable) {p : Toml.Printed} (hp : p ∈ s.printed) :
    p.Readable := by
  simp only [printed, List.mem_append, Option.mem_toList, Option.map_eq_some_iff] at hp
  rcases hp with (⟨t, -, rfl⟩ | ⟨n, hn, rfl⟩) | ⟨es, -, rfl⟩
  · exact readable_placeholder t
  · exact readable_maxUploadBytes (h n hn)
  · exact readable_allowedExtensions es

/-- No key is written twice: what is written are some of all keys, in their order. -/
theorem nodup_printed (s : Settings) : (s.printed.map Toml.Printed.key).Nodup := by
  have hs : (s.printed.map Toml.Printed.key).Sublist (Key.all.map Key.name) := by
    obtain ⟨p, n, es⟩ := s
    simp only [printed, List.map_append]
    refine (List.Sublist.append (?_ : List.Sublist _ [Key.placeholder.name])
      (?_ : List.Sublist _ [Key.maxUploadBytes.name])).append
      (?_ : List.Sublist _ [Key.allowedExtensions.name])
    · cases p <;> simp
    · cases n <;> simp
    · cases es <;> simp
  exact hs.nodup (by decide)

/-! ### The entries of settings -/

theorem textsOf?_map (ts : List Text) : textsOf? (.array (ts.map .string)) = some ts := by
  rw [textsOf?]
  induction ts with
  | nil => rfl
  | cons t ts ih => simp_all [textOf?]

theorem sizeOf?_toNat (n : UInt64) : sizeOf? (.integer n.toNat) = some n := by
  show some (UInt64.ofNat n.toNat) = some n
  rw [UInt64.ofNat_toNat]

theorem find?_append {k : Text} {entries others : Toml.Entries} :
    Toml.find? k (entries ++ others) = (Toml.find? k entries).or (Toml.find? k others) := by
  induction entries with
  | nil => rfl
  | cons e entries ih =>
    rw [List.cons_append, Toml.find?, Toml.find?, ih]
    split_ifs <;> rfl

/-- The line of one setting has its value under its own key and no other. -/
theorem find?_toList {α : Type} (j : Key) {k : Key} {o : Option α} {line : α → Toml.Printed}
    (hl : ∀ a, (line a).key = j.name) :
    Toml.find? k.name ((o.map line).toList.map fun p => (p.key, p.value)) =
      if j = k then o.map fun a => (line a).value else none := by
  cases o with
  | none => simp [Toml.find?]
  | some a => simp [Toml.find?, hl, Key.name_inj]

theorem field_eq {α : Type} {k : Key} {type : Toml → Option α} {entries : Toml.Entries}
    {o : Option α} (v : α → Toml) (hf : Toml.find? k.name entries = o.map v)
    (ht : ∀ a, type (v a) = some a) : field k type entries = .ok o := by
  rw [field]
  cases o with
  | none => rw [hf, Option.map_none]
  | some a =>
    rw [hf, Option.map_some]
    simp only [ht]

/-- The entries of the lines are the settings again. -/
theorem ofEntries_printed (s : Settings) :
    ofEntries (s.printed.map fun p => (p.key, p.value)) = .ok s := by
  -- Under a key there is the value of its own line, which stands first, in between or last.
  have hfind (k : Key) : Toml.find? k.name (s.printed.map fun p => (p.key, p.value)) =
      ((if Key.placeholder = k then s.chosenPlaceholder.map .string else none).or
        (if Key.maxUploadBytes = k then s.chosenMaxBytes.map fun n => .integer n.toNat
          else none)).or
        (if Key.allowedExtensions = k then s.chosenExtensions.map fun es => .array (es.map .string)
          else none) := by
    rw [printed, List.map_append, List.map_append, find?_append, find?_append,
      find?_toList .placeholder fun _ => rfl, find?_toList .maxUploadBytes fun _ => rfl,
      find?_toList .allowedExtensions fun _ => rfl]
  have hp : field .placeholder textOf? (s.printed.map fun p => (p.key, p.value)) =
      .ok s.chosenPlaceholder :=
    field_eq .string (by rw [hfind]; simp) fun _ => rfl
  have hn : field .maxUploadBytes sizeOf? (s.printed.map fun p => (p.key, p.value)) =
      .ok s.chosenMaxBytes :=
    field_eq (fun n => .integer n.toNat) (by rw [hfind]; simp) sizeOf?_toNat
  have he : field .allowedExtensions textsOf? (s.printed.map fun p => (p.key, p.value)) =
      .ok s.chosenExtensions :=
    field_eq (fun es => .array (es.map .string)) (by rw [hfind]; simp) textsOf?_map
  rw [ofEntries]
  rw [hp, hn, he]
  rfl

/-- What is written is read as the settings that were written. -/
theorem read_of_write {t : Text} (h : s.write = some t) : read t = .ok s := by
  have hs : s.Writable := write_isSome_iff.1 (by rw [h]; rfl)
  rw [write_eq_some hs] at h
  rw [← Option.some.inj h, read,
    Toml.read_lines (fun p hp => readable_of_mem_printed hs hp) (nodup_printed s)]
  exact ofEntries_printed s

end Backoffice.Settings
