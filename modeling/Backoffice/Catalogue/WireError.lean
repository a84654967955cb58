import Backoffice.Catalogue.Naming
import Backoffice.Catalogue.StaffError
import Backoffice.Catalogue.UploadError

/-!
# Errors on the wire

The form in which an error crosses a process boundary: its code, its message and,
if there is a remedy, the remedy's sentence. It is written as an object with these
keys in this order; it is read from an object with the keys in any order, other
keys being skipped, or from an array of exactly three.

* `WireError.toJson`: the written form;
* `WireError.read`: the error that a text holds.
-/

namespace Backoffice

/-- An error as it crosses a process boundary. -/
structure WireError where
  code : Text
  message : Text
  fix : Option Text
  deriving DecidableEq, Repr

namespace WireError

/-- The wire form of an error of the service. -/
def ofStaffError (e : StaffError) : WireError :=
  ⟨e.code, e.message, e.remedy?.map Remedy.text⟩

/-- The wire form of an error of an upload, for which there is no remedy. -/
def ofUploadError (e : UploadError) : WireError :=
  ⟨e.code, e.message, none⟩

/-- The error as an object, in which a missing remedy has no key. -/
def toJson (e : WireError) : Json :=
  match e.fix with
  | some fix =>
    .object [("code", .string e.code), ("message", .string e.message), ("fix", .string fix)]
  | none => .object [("code", .string e.code), ("message", .string e.message)]

/-- The keys of an error that is read. -/
inductive Key where
  | code
  | message
  | fix
  | other
  deriving DecidableEq, Repr

/-- The key that a text names. -/
def Key.ofText (t : Text) : Key :=
  if t = "code" then .code
  else if t = "message" then .message
  else if t = "fix" then .fix
  else .other

/-- What has been read of an error. -/
structure Draft where
  code : Option Text
  message : Option Text
  fix : Option (Option Text)
  deriving DecidableEq, Repr

/-- Nothing has been read. -/
def Draft.empty : Draft :=
  ⟨none, none, none⟩

/-- The text after the brace that closes an object, if one comes next. -/
def afterClosing (cs : Text) : Text :=
  match Json.skipBlanks cs with
  | [] => []
  | c :: rest => if c = '}' then rest else c :: rest

/-- Reads the value of a key into the draft. A key that has been read is refused
    before its value is looked at. -/
def readField (draft : Draft) (key : Key) (cs : Text) : Except Json.Fault (Draft × Text) :=
  let repeated (name : Text) : Except Json.Fault (Draft × Text) :=
    Json.failAt (.repeatedField name) (afterClosing cs)
  let value {α : Type} (reader : Json.Reader α) : Except Json.Fault (α × Text) :=
    (Json.colon cs).bind reader
  match key with
  | .code =>
    if draft.code.isSome then repeated "code"
    else (value Json.text).map fun (s, rest) => ({ draft with code := some s }, rest)
  | .message =>
    if draft.message.isSome then repeated "message"
    else (value Json.text).map fun (s, rest) => ({ draft with message := some s }, rest)
  | .fix =>
    if draft.fix.isSome then repeated "fix"
    else (value Json.optionalText).map fun (s, rest) => ({ draft with fix := some s }, rest)
  | .other => ((Json.colon cs).bind Json.skip).map fun rest => (draft, rest)

/-- The error of a draft that is complete, before `rest`. -/
def Draft.finish (draft : Draft) (rest : Text) : Except Json.Fault (WireError × Text) :=
  match draft.code, draft.message with
  | none, _ => Json.failAt (.missingField "code") rest
  | some _, none => Json.failAt (.missingField "message") rest
  | some code, some message => .ok (⟨code, message, draft.fix.join⟩, rest)

/-- Reads on from the next key, or to the end of the object. Every key takes at
    least one character. -/
def readFields (draft : Draft) (next : Except Json.Fault (Text.Step Unit)) :
    (fuel : Nat) → Except Json.Fault (WireError × Text)
  | 0 => Json.failAt .objectEnded []
  | fuel + 1 =>
    match next with
    | .error e => .error e
    | .ok (.done rest) => draft.finish rest
    | .ok (.item () rest) =>
      match Json.stringBody rest with
      | .error e => .error e
      | .ok (key, rest) =>
        match readField draft (.ofText key) rest with
        | .error e => .error e
        | .ok (draft, rest) => readFields draft (Json.nextKey rest) fuel

/-- What an error is called in a fault. -/
def title : Text :=
  "struct ErrorBody"

/-- The bracket that closes an array of which all items have been read. -/
def closeArray (cs : Text) : Except Json.Fault Text :=
  match Json.skipBlanks cs with
  | [] => Json.failAt .listEnded []
  | c :: rest =>
    if c = ']' then .ok rest
    else if c = ',' then
      match Json.skipBlanks rest with
      | [] => Json.failAt .textFollows []
      | d :: rest =>
        if d = ']' then Json.failPast .commaAtEnd (d :: rest)
        else Json.failPast .textFollows (d :: rest)
    else Json.failPast .textFollows (c :: rest)

/-- An item of an array of three, of which `count` have been read. -/
def itemOf {α : Type} (count : Nat) : Except Json.Fault (Text.Step α) → Except Json.Fault (α × Text)
  | .error e => .error e
  | .ok (.done rest) => Json.failAt (.tooFew count (title ++ " with 3 elements")) rest
  | .ok (.item a rest) => .ok (a, rest)

/-- Reads the first item of an array. -/
def firstItem {α : Type} (reader : Json.Reader α) (cs : Text) : Except Json.Fault (Text.Step α) :=
  match Json.skipBlanks cs with
  | [] => Json.failAt .listEnded []
  | c :: rest =>
    if c = ']' then .ok (.done rest)
    else (reader (c :: rest)).map fun (a, rest) => .item a rest

/-- Reads an error from an array whose opening bracket has been read. -/
def readItems (cs : Text) : Except Json.Fault (WireError × Text) := do
  let (code, cs) ← itemOf 0 (firstItem Json.text cs)
  let (message, cs) ← itemOf 1 (Json.nextItem Json.text cs)
  let (fix, cs) ← itemOf 2 (Json.nextItem Json.optionalText cs)
  let rest ← closeArray cs
  .ok (⟨code, message, fix⟩, rest)

/-- Reads an error off the front of a text. -/
def reader : Json.Reader WireError := fun cs =>
  match Json.skipBlanks cs with
  | [] => Json.failAt .textEnded []
  | c :: rest =>
    if c = '[' then readItems rest
    else if c = '{' then readFields .empty (Json.firstKey rest) (rest.length + 1)
    else Json.wrongType title (c :: rest)

/-- The error that a text holds. -/
def read (t : Text) : Except Json.Fault WireError :=
  Json.readAll reader t

end WireError

/-- The error of the service that a text names. -/
def StaffError.read (t : Text) : Except Json.Fault StaffError :=
  Catalogue.read all name t

/-- The error of an upload that a text names. -/
def UploadError.read (t : Text) : Except Json.Fault UploadError :=
  Catalogue.read all name t

/-- The remedy that a text names. -/
def Remedy.read (t : Text) : Except Json.Fault Remedy :=
  Catalogue.read all name t

end Backoffice
