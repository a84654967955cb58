import Backoffice.Catalogue.WireError
import Backoffice.Proofs.Json.Named
import Mathlib.Data.List.Nodup

/-!
# Codes

An entry of a catalogue is looked up by its code, and is read by its name on the wire. For every
entry these are the same text, and no two entries share it; so both ways find the same entries,
and a text that is no code names none.

* `Coherent`: how the tables of a catalogue fit together;
* `Coherent.read_eq_ok_iff`: what is read from a text;
* `read_eq_ok_iff_code`: both ways of finding an error.
-/

namespace Backoffice.Catalogue

variable {α : Type} {entries : List α} {name code : α → Text} {e : α} {s t : Text}

/-- The tables of a catalogue fit together: every entry is listed, its name is written like its
    code, and no two entries have the same code. -/
structure Coherent (entries : List α) (name code : α → Text) : Prop where
  mem_entries : ∀ e, e ∈ entries
  wireName_name : ∀ e, wireName (name e) = code e
  injective : code.Injective

theorem Coherent.of_nodup (hm : ∀ e, e ∈ entries)
    (hn : ∀ e ∈ entries, wireName (name e) = code e) (hd : (entries.map code).Nodup) :
    Coherent entries name code where
  mem_entries := hm
  wireName_name := fun e => hn e (hm e)
  injective := fun e f h => List.inj_on_of_nodup_map hd (hm e) (hm f) h

/-- The first entry with a code is the only one. -/
theorem Coherent.find?_eq_some_iff (h : Coherent entries name code) :
    entries.find? (fun e => code e = s) = some e ↔ code e = s := by
  constructor
  · intro hf
    simpa using List.find?_some hf
  · intro hc
    cases hf : entries.find? (fun e => code e = s) with
    | none => exact absurd hc (by simpa using List.find?_eq_none.1 hf e (h.mem_entries e))
    | some f =>
      have hcf : code f = s := by simpa using List.find?_some hf
      rw [h.injective (hcf.trans hc.symm)]

theorem Coherent.ofWireName?_eq (h : Coherent entries name code) (s : Text) :
    ofWireName? entries name s = entries.find? fun e => code e = s := by
  simp only [ofWireName?, h.wireName_name]

/-- An entry is read from the texts that hold its code as a name. -/
theorem Coherent.read_eq_ok_iff (h : Coherent entries name code) : read entries name t = .ok e ↔
    ∃ c, Json.Names t c ∧ entries.find? (fun e => code e = c) = some e := by
  simp only [read, Json.readAll_named_eq_ok_iff, h.ofWireName?_eq]

/-- A code is found exactly if its entry is read from what is written of it. -/
theorem Coherent.read_quote_iff (h : Coherent entries name code) :
    entries.find? (fun e => code e = s) = some e ↔ read entries name (Json.quote s) = .ok e := by
  simp [h.read_eq_ok_iff, Json.names_quote_iff]

theorem coherent_staffError : Coherent StaffError.all StaffError.name StaffError.code :=
  .of_nodup (fun e => by cases e <;> decide) (by decide +kernel) (by decide +kernel)

theorem coherent_uploadError : Coherent UploadError.all UploadError.name UploadError.code :=
  .of_nodup (fun e => by cases e <;> decide) (by decide +kernel) (by decide +kernel)

/-- An error of the service, or of an upload, is read from a text exactly if the text is a string
    literal whose content is found as its code, or an object with this for its one key and the
    value null. In particular a text is found as a code exactly if the error is read from what is
    written of the text, and then it is the code of this error and of no other. -/
theorem read_eq_ok_iff_code :
    ((∀ t e, StaffError.read t = .ok e ↔ ∃ c, Json.Names t c ∧ StaffError.ofCode? c = some e) ∧
      ∀ s e, (StaffError.ofCode? s = some e ↔ StaffError.read (Json.quote s) = .ok e) ∧
        (StaffError.ofCode? s = some e ↔ e.code = s)) ∧
    ((∀ t e, UploadError.read t = .ok e ↔ ∃ c, Json.Names t c ∧ UploadError.ofCode? c = some e) ∧
      ∀ s e, (UploadError.ofCode? s = some e ↔ UploadError.read (Json.quote s) = .ok e) ∧
        (UploadError.ofCode? s = some e ↔ e.code = s)) := by
  have hs := coherent_staffError
  have hu := coherent_uploadError
  exact ⟨⟨fun _ _ => hs.read_eq_ok_iff, fun _ _ => ⟨hs.read_quote_iff, hs.find?_eq_some_iff⟩⟩,
    ⟨fun _ _ => hu.read_eq_ok_iff, fun _ _ => ⟨hu.read_quote_iff, hu.find?_eq_some_iff⟩⟩⟩

/-- Blanks and an escape are no part of a code, and a blank inside the quotes is. -/
example : StaffError.read " \x7b\t\"record_not_\\u0066ound\" : null\n\x7d\n" = .ok .recordNotFound ∧
    StaffError.read "\"record_not_found \"" ≠ .ok .recordNotFound := by
  decide +kernel

end Backoffice.Catalogue
