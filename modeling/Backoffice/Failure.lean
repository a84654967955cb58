import Backoffice.Catalogue.WireError

/-!
# Failures

Everything that can go wrong in a command: an error of the catalogue, a setting that
cannot be changed, a settings file that cannot be read or written, or a command that
cannot be carried out. A failure has a message, is more or less severe, and may come
with a hint what to do.
-/

namespace Backoffice

/-- Why a setting cannot be changed. -/
inductive SettingError where
  | unknownKey (key : Text)
  | invalidValue (field value reason : Text)
  deriving DecidableEq, Repr

/-- Why settings cannot be loaded or saved. -/
inductive StorageError where
  | fileAccess (path cause : Text)
  | unreadable (message : Text)
  | noDirectory
  deriving DecidableEq, Repr

/-- Why a command cannot be carried out. -/
inductive CommandError where
  | unknownCode (code : Text)
  | output (message : Text)
  deriving DecidableEq, Repr

/-- Anything that can go wrong. -/
inductive Failure where
  | staff (e : StaffError)
  | upload (e : UploadError)
  | setting (e : SettingError)
  | storage (e : StorageError)
  | command (e : CommandError)
  deriving DecidableEq, Repr

/-- The error in words. -/
def SettingError.message : SettingError → Text
  | .unknownKey key => "Unknown configuration key '" ++ key ++ "'"
  | .invalidValue field value _ => "Invalid configuration value for '" ++ field ++ "': " ++ value

/-- The error in words. -/
def StorageError.message : StorageError → Text
  | .fileAccess path cause => "File I/O error at " ++ path ++ ": " ++ cause
  | .unreadable message => "Configuration parse error: " ++ message
  | .noDirectory => "Configuration directory not found"

/-- The error in words. -/
def CommandError.message : CommandError → Text
  | .unknownCode code => "Unknown error code: " ++ code
  | .output message => "Output serialization failed: " ++ message

namespace Failure

/-- The failure in words. -/
def message : Failure → Text
  | staff e => e.message
  | upload e => "UploadError: " ++ e.message
  | setting e => "ConfigError: " ++ e.message
  | storage e => "StorageError: " ++ e.message
  | command e => "CliError: " ++ e.message

/-- How severe a failure is. -/
def severity : Failure → Severity
  | staff e => e.severity
  | upload _ => .medium
  | setting _ => .high
  | storage _ => .medium
  | command _ => .medium

/-- What to do about a failure, if anything is known. -/
def hint? : Failure → Option Text
  | staff e => e.remedy?.map Remedy.text
  | upload .fileTooLarge => some "config set max_upload_bytes <n> to raise the limit".toList
  | upload .unsupportedFileType =>
    some "config set allowed_extensions <ext,ext> to allow more file types".toList
  | upload _ => none
  | setting (.unknownKey _) =>
    some "valid keys are placeholder, max_upload_bytes, allowed_extensions".toList
  | setting (.invalidValue ..) => none
  | storage _ => none
  | command (.unknownCode _) => some "'staff-shared errors list' to see every code".toList
  | command (.output _) => none

end Failure

end Backoffice
