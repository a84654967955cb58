import Backoffice.Catalogue.WireError

/-!
# The catalogue for users

All errors and remedies in a table or as one JSON object, and a single error by its
code. The object has its keys sorted at every level; a single error keeps the order
of the wire form.
-/

namespace Backoffice.Catalogue

/-- The width of the column of codes. -/
def codeWidth : Nat :=
  28

/-- A line of the table. -/
def row (code text : Text) : Text :=
  "  " ++ Text.padEnd codeWidth ' ' code ++ " " ++ text ++ "\n"

/-- All errors and remedies in a table. -/
def table : Text :=
  "Errors:\n" ++ StaffError.all.flatMap (fun e => row e.code e.message) ++
    "Upload errors:\n" ++ UploadError.all.flatMap (fun e => row e.code e.message) ++
    "Fixes:\n" ++ Remedy.all.flatMap fun r => row r.code r.text

/-- An object with its keys sorted. -/
def sorted : Json → Json
  | .object fields => .object (Json.sortFields fields)
  | v => v

/-- All errors and remedies as one JSON object. -/
def tableJson : Json :=
  sorted <| .object
    [("errors", .array (StaffError.all.map fun e => sorted (WireError.ofStaffError e).toJson)),
     ("upload_errors",
      .array (UploadError.all.map fun e => sorted (WireError.ofUploadError e).toJson)),
     ("fixes", .array (Remedy.all.map fun r =>
        sorted (.object [("code", .string r.code), ("text", .string r.text)])))]

/-- The wire form of the error with a code, whatever it is an error of. -/
def find? (code : Text) : Option WireError :=
  match StaffError.ofCode? code with
  | some e => some (.ofStaffError e)
  | none => (UploadError.ofCode? code).map .ofUploadError

/-- A single error in words. -/
def entry (e : WireError) : Text :=
  e.code ++ ": " ++ e.message ++ "\n" ++
    match e.fix with
    | some fix => "Fix: " ++ fix ++ "\n"
    | none => []

end Backoffice.Catalogue
