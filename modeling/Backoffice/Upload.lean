import Backoffice.Catalogue.UploadError
import Backoffice.Log
import Backoffice.Text.Blank
import Backoffice.Text.Numeral

/-!
# Checking an upload

Before a file is stored, its name, its size and its type are checked, in this
order; the first thing that is wrong decides. The type is what follows the last dot
of the name, which must not be empty and have something before the dot; capitals do
not matter.
-/

namespace Backoffice

/-- What a single uploaded file must keep to. -/
structure UploadLimits where
  maxBytes : UInt64
  allowedExtensions : List Text
  deriving DecidableEq, Repr

namespace UploadLimits

/-- The limits where nothing else is chosen: ten mebibytes, documents, pictures and
    tables. -/
def standard : UploadLimits :=
  { maxBytes := 10 * 1024 * 1024
    allowedExtensions := ["pdf", "png", "jpg", "jpeg", "csv", "xlsx"] }

/-- Whether a name, which has been trimmed, cannot be one of a file. -/
def badName (name : Text) : Bool :=
  name.isEmpty || name.contains '/' || name.contains '\\' || name = ("..": Text)

/-- The type of a file by its name. -/
def extension? (name : Text) : Option Text :=
  match Text.afterLast '.' name with
  | some (stem, extension) =>
    if stem.isEmpty || extension.isEmpty then none else some extension
  | none => none

/-- Whether a type is allowed, whatever the capitals. -/
def allows (limits : UploadLimits) (extension : Text) : Bool :=
  limits.allowedExtensions.any fun e => Text.lowered e = Text.lowered extension

/-- Whether a file may be uploaded, and if not, why. -/
def check (limits : UploadLimits) (fileName : Text) (size : UInt64) :
    Logged (Except UploadError Unit) :=
  let name := Text.trim fileName
  if badName name then pure (.error .invalidFileName)
  else if size = 0 then pure (.error .emptyFile)
  else if limits.maxBytes < size then do
    Logged.report ("Rejecting upload '" ++ name ++ "': " ++ Numeral.ofSize size ++
      " bytes exceeds limit of " ++ Numeral.ofSize limits.maxBytes)
    pure (.error .fileTooLarge)
  else
    match extension? name with
    | none => pure (.error .unsupportedFileType)
    | some e => if limits.allows e then pure (.ok ()) else pure (.error .unsupportedFileType)

end UploadLimits

end Backoffice
