import Backoffice.Environment
import Backoffice.Failure
import Backoffice.Route
import Backoffice.Upload

/-!
# Settings

Three settings, each of which may be left open: the placeholder for numbers in a
path, the greatest size of an upload, and the types that may be uploaded. Each is
changed by a key and a text; a text that a key does not accept changes nothing.

* `Settings.placeholder`, `Settings.limits`: what holds where a setting is open;
* `Settings.set`: a setting changed by key and text.
-/

namespace Backoffice

/-- The settings, of which each may be open. -/
structure Settings where
  chosenPlaceholder : Option Text
  chosenMaxBytes : Option UInt64
  chosenExtensions : Option (List Text)
  deriving DecidableEq, Repr

namespace Settings

/-- Every setting is open. -/
def blank : Settings :=
  ⟨none, none, none⟩

/-- The variable that gives the placeholder where the setting is open. -/
def placeholderVariable : Text :=
  "STAFF_SHARED_PLACEHOLDER"

/-- The placeholder: the setting unless it is empty, else the variable, else the
    standard one. -/
def placeholder (s : Settings) (env : Environment) : Logged Text :=
  match s.chosenPlaceholder with
  | some (c :: cs) => pure (c :: cs)
  | _ => do
    match ← env.require placeholderVariable with
    | .ok p => pure p
    | .error _ => pure Route.defaultPlaceholder

/-- The limits of an upload; what is open is as in the standard ones. -/
def limits (s : Settings) : UploadLimits :=
  { maxBytes := s.chosenMaxBytes.getD UploadLimits.standard.maxBytes
    allowedExtensions := s.chosenExtensions.getD UploadLimits.standard.allowedExtensions }

/-! ### Changing a setting -/

/-- The keys of the settings. -/
inductive Key where
  | placeholder
  | maxUploadBytes
  | allowedExtensions
  deriving DecidableEq, Repr

/-- The name of a key. -/
def Key.name : Key → Text
  | .placeholder => "placeholder"
  | .maxUploadBytes => "max_upload_bytes"
  | .allowedExtensions => "allowed_extensions"

/-- The keys in the order in which they are written. -/
def Key.all : List Key :=
  [.placeholder, .maxUploadBytes, .allowedExtensions]

/-- The key with a name, if there is one. -/
def Key.ofName? (name : Text) : Option Key :=
  all.find? fun k => k.name = name

/-- One type from a list: blanks at its ends and dots before it do not count, and it
    is made small. -/
def extension (piece : Text) : Text :=
  Text.lowered ((Text.trim piece).dropWhile (· = '.'))

/-- The types that a text lists with commas between them; empty ones do not count. -/
def extensions (t : Text) : List Text :=
  ((Text.pieces ',' t).map extension).filter fun e => !e.isEmpty

/-- The settings with a new value for a key, if the key accepts the text. -/
def setKey (s : Settings) (key : Key) (value : Text) : Except SettingError Settings :=
  let refuse (reason : Text) : Except SettingError Settings :=
    .error (.invalidValue key.name value reason)
  match key with
  | .placeholder =>
    if value.isEmpty || value.contains '/' then
      refuse "placeholder must be non-empty and contain no '/'"
    else .ok { s with chosenPlaceholder := some value }
  | .maxUploadBytes =>
    match Numeral.size? value with
    | .ok n => .ok { s with chosenMaxBytes := some n }
    | .error fault => refuse fault.message
  | .allowedExtensions =>
    if (extensions value).isEmpty then refuse "at least one extension is required"
    else .ok { s with chosenExtensions := some (extensions value) }

/-- The settings with a new value for the key of a name. -/
def set (s : Settings) (name value : Text) : Except SettingError Settings :=
  match Key.ofName? name with
  | some key => s.setKey key value
  | none => .error (.unknownKey name)

end Settings

end Backoffice
