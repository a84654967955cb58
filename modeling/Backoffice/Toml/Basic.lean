import Backoffice.Text.Numeral

/-!
# TOML values

What a settings file can hold. Binary numbers and moments are checked when they are
read but not kept. A table remembers how it came about, since that decides how it may
be added to: under a header of its own, implied by the header of a table inside it,
by a key with dots, or between braces.

* `Toml.insertAt`: a value put under a key with dots;
* `Toml.openTable`, `Toml.openItem`: the table that a header begins.
-/

namespace Backoffice

/-- How a table came about. -/
inductive Toml.Origin where
  | header
  | implied
  | dotted
  | braces
  deriving DecidableEq, Repr

/-- A TOML value. -/
inductive Toml where
  | string (s : Text)
  | integer (n : Int)
  | float
  | boolean (b : Bool)
  | moment
  | array (items : List Toml)
  | table (origin : Toml.Origin) (entries : List (Text × Toml))
  | tables (items : List (List (Text × Toml)))

namespace Toml

/-- The entries of a table, in no particular order. -/
abbrev Entries := List (Text × Toml)

/-- Why a text is no TOML. -/
inductive Fault where
  | malformed
  | tooDeep
  | redefined (key : Text)
  deriving DecidableEq, Repr

/-- The fault in words, which are chosen here: nothing depends on how it is said. -/
def Fault.message : Fault → Text
  | .malformed => "the text is not TOML"
  | .tooDeep => "values are nested too deep"
  | .redefined key => "the key '" ++ key ++ "' is defined twice"

/-- The value under a key. -/
def find? (key : Text) : Entries → Option Toml
  | [] => none
  | (k, v) :: rest => if k = key then some v else find? key rest

/-- The entries with a value under a key, whatever was there. -/
def put (key : Text) (value : Toml) : Entries → Entries
  | [] => [(key, value)]
  | (k, v) :: rest => if k = key then (key, value) :: rest else (k, v) :: put key value rest

/-- Changes the entries of the table that `path` leads to from a table. Tables that
    do not exist are made on the way; an array of tables is entered at its last one.
    A path inside a key does not enter tables that have a header of their own, and no
    path enters braces. -/
def descend (inKey : Bool) (change : Origin → Entries → Except Fault Entries) :
    (path : List Text) → Origin → Entries → Except Fault Entries
  | [], origin, entries => change origin entries
  | k :: ks, _, entries =>
    match find? k entries with
    | none =>
      let origin := if inKey then .dotted else .implied
      (descend inKey change ks origin []).map fun sub => put k (.table origin sub) entries
    | some (.table origin sub) =>
      if origin = .braces ∨ (inKey ∧ origin = .header) then .error (.redefined k)
      else (descend inKey change ks origin sub).map fun sub => put k (.table origin sub) entries
    | some (.tables items) =>
      (descend inKey change ks .header (items.getLast?.getD [])).map fun sub =>
        put k (.tables (items.dropLast ++ [sub])) entries
    | some _ => .error (.redefined k)

/-- Puts a value under a key in the table that `path`, the part of the key before its
    last dot, leads to. Only tables that come from dots are added to with dots. -/
def insertAt (path : List Text) (key : Text) (value : Toml) :
    Origin → Entries → Except Fault Entries :=
  descend true (fun origin entries =>
    if (origin = .dotted) = (path.isEmpty = true) then .error (.redefined key)
    else if (find? key entries).isSome then .error (.redefined key)
    else .ok (put key value entries)) path

/-- Begins the table with a header, in the table that `path` leads to. It may be
    implied already, but not be there otherwise. -/
def openTable (path : List Text) (key : Text) : Entries → Except Fault Entries :=
  descend false (fun _ entries =>
    match find? key entries with
    | none => .ok (put key (.table .header []) entries)
    | some (.table .implied sub) => .ok (put key (.table .header sub) entries)
    | some _ => .error (.redefined key)) path .header

/-- Begins the next table of an array of tables. -/
def openItem (path : List Text) (key : Text) : Entries → Except Fault Entries :=
  descend false (fun _ entries =>
    match find? key entries with
    | none => .ok (put key (.tables [[]]) entries)
    | some (.tables items) => .ok (put key (.tables (items ++ [[]])) entries)
    | some _ => .error (.redefined key)) path .header

end Toml

end Backoffice
