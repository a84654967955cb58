import Backoffice.Settings.Basic
import Backoffice.Toml.Printer
import Backoffice.Toml.Reader

/-!
# Settings as a document

Settings are written one line for each that is not open, in the order of the keys.
They are read from any document: what other keys hold does not matter, but a setting
must have the right type.

* `Settings.write`: the written form, unless a size is too large for a document;
* `Settings.read`: the settings of a document.
-/

namespace Backoffice.Settings

/-- Why a text is no settings document. -/
inductive ReadFault where
  | document (fault : Toml.Fault)
  | wrongType (key : Key)
  deriving DecidableEq, Repr

/-- The fault in words, which are chosen here: nothing depends on how it is said. -/
def ReadFault.message : ReadFault → Text
  | .document fault => fault.message
  | .wrongType key => "the value of '" ++ key.name ++ "' has the wrong type"

/-- The greatest size that a document can hold. -/
def greatestWritten : Nat :=
  Nat.pow 2 63 - 1

/-- The lines of the settings, unless a size is too large. -/
def write (s : Settings) : Option Text :=
  let line (key : Key) (value : Text) : Text := Toml.keyLine key.name value
  let first : Text := (s.chosenPlaceholder.map fun p => line .placeholder (Toml.quote p)).getD []
  let last : Text :=
    (s.chosenExtensions.map fun es => line .allowedExtensions (Toml.quoteAll es)).getD []
  match s.chosenMaxBytes with
  | none => some (first ++ last)
  | some n =>
    if n.toNat ≤ greatestWritten then
      some (first ++ line .maxUploadBytes (Numeral.ofSize n) ++ last)
    else none

/-- A value that must be a string. -/
def textOf? : Toml → Option Text
  | .string s => some s
  | _ => none

/-- A value that must be a size. -/
def sizeOf? : Toml → Option UInt64
  | .integer (.ofNat n) => some (UInt64.ofNat n)
  | _ => none

/-- A value that must be an array of strings. -/
def textsOf? : Toml → Option (List Text)
  | .array items => items.mapM textOf?
  | _ => none

/-- The value under a key, if there is one, which must be of a type. -/
def field {α : Type} (key : Key) (type : Toml → Option α) (entries : Toml.Entries) :
    Except ReadFault (Option α) :=
  match Toml.find? key.name entries with
  | none => .ok none
  | some v =>
    match type v with
    | some a => .ok (some a)
    | none => .error (.wrongType key)

/-- The settings of the entries of a document. -/
def ofEntries (entries : Toml.Entries) : Except ReadFault Settings := do
  let placeholder ← field .placeholder textOf? entries
  let maxUploadBytes ← field .maxUploadBytes sizeOf? entries
  let allowedExtensions ← field .allowedExtensions textsOf? entries
  .ok ⟨placeholder, maxUploadBytes, allowedExtensions⟩

/-- The settings of a document. -/
def read (t : Text) : Except ReadFault Settings :=
  match Toml.read t with
  | .error fault => .error (.document fault)
  | .ok entries => ofEntries entries

end Backoffice.Settings
