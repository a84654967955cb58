import Backoffice.Toml.Lexeme

/-!
# Reading TOML

A document is a list of lines: a key and its value, or the header of a table. Values
may be nested up to a depth that is counted down. What the lines say is put together
in their order, and no table or key is defined twice.

* `Toml.read`: the entries of a whole text.
-/

namespace Backoffice.Toml

open Text (Step collectAll)

/-! ### Values -/

/-- Reads a number or a moment. -/
def number (cs : Text) : Except Fault (Toml × Text) :=
  match moment? cs with
  | some rest => .ok (.moment, rest)
  | none =>
    match float? cs with
    | some rest => .ok (.float, rest)
    | none => readInteger cs

/-- What follows a word. -/
def word (w cs : Text) : Except Fault Text :=
  match Text.after? w cs with
  | some rest => .ok rest
  | none => refuse

/-- The next item of an array, which may end with a comma. -/
def arrayStep (value : Reader Toml) (cs : Text) : Except Fault (Step Toml) :=
  match skipLines false cs with
  | .error e => .error e
  | .ok [] => refuse
  | .ok (c :: rest) =>
    if c = ']' then .ok (.done rest)
    else
      match value (c :: rest) with
      | .error e => .error e
      | .ok (v, rest) =>
        match skipLines false rest with
        | .error e => .error e
        | .ok [] => refuse
        | .ok (d :: rest) =>
          if d = ',' then .ok (.item v rest)
          else if d = ']' then .ok (.item v (d :: rest))
          else refuse

/-- Reads an array whose opening bracket has been read. -/
def arrayBody (value : Reader Toml) (cs : Text) : Except Fault (Toml × Text) :=
  (collectAll .malformed (arrayStep value) cs).map fun (items, rest) => (.array items, rest)

/-- A key and its value. -/
structure Pair where
  path : List Text
  key : Text
  value : Toml

/-- Reads a key, an equals sign and a value, with blanks around the parts. -/
def pair (value : Reader Toml) (cs : Text) : Except Fault (Pair × Text) :=
  match key cs with
  | .error e => .error e
  | .ok ((path, name), rest) =>
    match rest with
    | '=' :: rest => (value (skipBlanks rest)).map fun (v, rest) => (⟨path, name, v⟩, rest)
    | _ => refuse

/-- The next key and value between braces after the first. -/
def bracesStep (value : Reader Toml) (cs : Text) : Except Fault (Step Pair) :=
  match skipBlanks cs with
  | '}' :: rest => .ok (.done rest)
  | ',' :: rest => (pair value rest).map fun (p, rest) => .item p rest
  | _ => refuse

/-- The entries that keys and values say, in their order. -/
def insertAll (origin : Origin) (entries : Entries) (pairs : List Pair) : Except Fault Entries :=
  pairs.foldlM (fun entries p => insertAt p.path p.key p.value origin entries) entries

/-- Reads a table between braces, the opening one of which has been read. -/
def bracesBody (value : Reader Toml) (cs : Text) : Except Fault (Toml × Text) :=
  match skipBlanks cs with
  | '}' :: rest => .ok (.table .braces [], rest)
  | rest =>
    match pair value rest with
    | .error e => .error e
    | .ok (first, rest) =>
      match collectAll .malformed (bracesStep value) rest with
      | .error e => .error e
      | .ok (others, rest) =>
        (insertAll .braces [] (first :: others)).map fun entries => (.table .braces entries, rest)

/-- Reads a value nested at most `depth` deep. -/
def value (depth : Nat) (cs : Text) : Except Fault (Toml × Text) :=
  match cs with
  | [] => refuse
  | c :: rest =>
    if c = '"' ∨ c = '\'' then (readString cs).map fun (s, rest) => (.string s, rest)
    else if c = '[' then
      match depth with
      | 0 => .error .tooDeep
      | depth + 1 => arrayBody (fun cs => value depth cs) rest
    else if c = '{' then
      match depth with
      | 0 => .error .tooDeep
      | depth + 1 => bracesBody (fun cs => value depth cs) rest
    else if c = 't' then (word "true" cs).map fun rest => (.boolean true, rest)
    else if c = 'f' then (word "false" cs).map fun rest => (.boolean false, rest)
    else number cs

/-! ### Documents -/

/-- What a line says. -/
inductive Line where
  | pair (p : Pair)
  | header (path : List Text) (key : Text)
  | item (path : List Text) (key : Text)

/-- Reads a line that is not blank, but not yet its end. -/
def line : Reader Line
  | '[' :: '[' :: rest =>
    match key rest with
    | .error e => .error e
    | .ok ((path, name), rest) =>
      match rest with
      | ']' :: ']' :: rest => .ok (.item path name, rest)
      | _ => refuse
  | '[' :: rest =>
    match key rest with
    | .error e => .error e
    | .ok ((path, name), rest) =>
      match rest with
      | ']' :: rest => .ok (.header path name, rest)
      | _ => refuse
  | cs => (pair (value depthLimit) cs).map fun (p, rest) => (.pair p, rest)

/-- Reads the next line and its end. -/
def lineStep (cs : Text) : Except Fault (Step Line) :=
  match skipLines false cs with
  | .error e => .error e
  | .ok [] => .ok (.done [])
  | .ok (c :: rest) =>
    match line (c :: rest) with
    | .error e => .error e
    | .ok (l, rest) => (endLine rest).map fun rest => .item l rest

/-- The entries that lines have said, and the table that keys now belong to. -/
structure Draft where
  entries : Entries
  table : List Text

/-- Adds what a line says. -/
def Draft.add (d : Draft) : Line → Except Fault Draft
  | .pair p =>
    (descend false (insertAt p.path p.key p.value) d.table .header d.entries).map fun entries =>
      { d with entries }
  | .header path key => (openTable path key d.entries).map fun entries => ⟨entries, path ++ [key]⟩
  | .item path key => (openItem path key d.entries).map fun entries => ⟨entries, path ++ [key]⟩

/-- The mark that may stand before a text to show the order of its octets. -/
def byteOrderMark : Char :=
  '\ufeff'

/-- The entries of a document. -/
def read (t : Text) : Except Fault Entries :=
  let body :=
    match t with
    | c :: rest => if c = byteOrderMark then rest else t
    | [] => []
  match collectAll .malformed lineStep body with
  | .error e => .error e
  | .ok (lines, _) => (lines.foldlM Draft.add ⟨[], []⟩).map Draft.entries

end Backoffice.Toml
