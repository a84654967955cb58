import Backoffice.Text.Basic

/-!
# Errors of an upload

The closed list of errors that a handler of uploaded files reports, each with a
stable code and one fixed message.
-/

namespace Backoffice

/-- An error of an upload. -/
inductive UploadError where
  | fileMissing
  | emptyFile
  | fileTooLarge
  | unsupportedFileType
  | invalidFileName
  | fileReadFailed
  | fileSaveFailed
  deriving DecidableEq, Repr

namespace UploadError

/-- The errors in the order of the catalogue. -/
def all : List UploadError :=
  [.fileMissing, .emptyFile, .fileTooLarge, .unsupportedFileType, .invalidFileName,
   .fileReadFailed, .fileSaveFailed]

/-- The name of an error in the catalogue. -/
def name : UploadError → Text
  | .fileMissing => "FileMissing"
  | .emptyFile => "EmptyFile"
  | .fileTooLarge => "FileTooLarge"
  | .unsupportedFileType => "UnsupportedFileType"
  | .invalidFileName => "InvalidFileName"
  | .fileReadFailed => "FileReadFailed"
  | .fileSaveFailed => "FileSaveFailed"

/-- The stable code of an error. -/
def code : UploadError → Text
  | .fileMissing => "file_missing"
  | .emptyFile => "empty_file"
  | .fileTooLarge => "file_too_large"
  | .unsupportedFileType => "unsupported_file_type"
  | .invalidFileName => "invalid_file_name"
  | .fileReadFailed => "file_read_failed"
  | .fileSaveFailed => "file_save_failed"

/-- The fixed message of an error. -/
def message : UploadError → Text
  | .fileMissing => "no file was uploaded"
  | .emptyFile => "uploaded file is empty"
  | .fileTooLarge => "file exceeds the maximum upload size"
  | .unsupportedFileType => "file type is not supported"
  | .invalidFileName => "file name is invalid"
  | .fileReadFailed => "failed to read the uploaded file"
  | .fileSaveFailed => "failed to save the uploaded file"

/-- The error with a code, if there is one. -/
def ofCode? (code : Text) : Option UploadError :=
  all.find? fun e => e.code = code

end UploadError

end Backoffice
