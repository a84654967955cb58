import Backoffice.Json.Lexeme

/-!
# Reading JSON

A value is read by descent. Arrays and objects may be nested up to a depth that
is counted down, so that the reader recurses on it; the items of an array and the
fields of an object are loops that take the reader of one value as a parameter.

A text that is only to be skipped is checked more loosely: nesting is not limited,
numbers may be of any size, and an escaped surrogate may stand alone.

* `Json.read`: the value that a whole text stands for;
* `Json.skip`: what follows a value that is not kept.
-/

namespace Backoffice.Json

open Text (Step collectAll)

/-- A reader takes something off the front of a text. -/
abbrev Reader (α : Type) := Text → Except Fault (α × Text)

/-- How deep arrays and objects may be nested. -/
def depthLimit : Nat :=
  127

/-- Reads the items of an array after the first one. -/
def nextItem {α : Type} (value : Reader α) (cs : Text) : Except Fault (Step α) :=
  match skipBlanks cs with
  | [] => failAt .listEnded []
  | c :: rest =>
    if c = ']' then .ok (.done rest)
    else if c = ',' then
      match skipBlanks rest with
      | [] => failAt .textEnded []
      | d :: rest' =>
        if d = ']' then failPast .commaAtEnd (d :: rest')
        else
          match value (d :: rest') with
          | .error e => .error e
          | .ok (v, rest) => .ok (.item v rest)
    else failPast .listGoesOn (c :: rest)

/-- Reads an array whose opening bracket has been read. -/
def arrayBody {α : Type} (value : Reader α) (cs : Text) : Except Fault (List α × Text) :=
  match skipBlanks cs with
  | [] => failAt .listEnded []
  | c :: rest =>
    if c = ']' then .ok ([], rest)
    else
      match value (c :: rest) with
      | .error e => .error e
      | .ok (v, rest) =>
        match collectAll ⟨.listEnded, 0⟩ (nextItem value) rest with
        | .error e => .error e
        | .ok (vs, rest) => .ok (v :: vs, rest)

/-- What follows the colon between a key and its value. -/
def colon (cs : Text) : Except Fault Text :=
  match skipBlanks cs with
  | [] => failAt .objectEnded []
  | c :: rest => if c = ':' then .ok rest else failPast .colonExpected (c :: rest)

/-- Reads a field whose key's opening quote has been read. -/
def field {α : Type} (value : Reader α) (cs : Text) : Except Fault ((Text × α) × Text) :=
  match stringBody cs with
  | .error e => .error e
  | .ok (key, rest) =>
    match colon rest with
    | .error e => .error e
    | .ok rest =>
      match value rest with
      | .error e => .error e
      | .ok (v, rest) => .ok ((key, v), rest)

/-- What follows the opening quote of the next key, or the end of an object, after
    a field. -/
def nextKey (cs : Text) : Except Fault (Step Unit) :=
  match skipBlanks cs with
  | [] => failAt .objectEnded []
  | c :: rest =>
    if c = '}' then .ok (.done rest)
    else if c = ',' then
      match skipBlanks rest with
      | [] => failAt .textEnded []
      | d :: rest' =>
        if d = '"' then .ok (.item () rest')
        else if d = '}' then failPast .commaAtEnd (d :: rest')
        else failPast .keyNotString (d :: rest')
    else failPast .objectGoesOn (c :: rest)

/-- What follows the opening quote of the first key, or the end of an object. -/
def firstKey (cs : Text) : Except Fault (Step Unit) :=
  match skipBlanks cs with
  | [] => failAt .objectEnded []
  | c :: rest =>
    if c = '}' then .ok (.done rest)
    else if c = '"' then .ok (.item () rest)
    else failPast .keyNotString (c :: rest)

/-- Reads a field if a key has begun. -/
def fieldAfter {α : Type} (value : Reader α) :
    Except Fault (Step Unit) → Except Fault (Step (Text × α))
  | .error e => .error e
  | .ok (.done rest) => .ok (.done rest)
  | .ok (.item () rest) =>
    match field value rest with
    | .error e => .error e
    | .ok (f, rest) => .ok (.item f rest)

/-- Reads an object whose opening brace has been read, with its fields in the order
    they stand in. -/
def objectBody {α : Type} (value : Reader α) (cs : Text) :
    Except Fault (List (Text × α) × Text) :=
  match fieldAfter value (firstKey cs) with
  | .error e => .error e
  | .ok (.done rest) => .ok ([], rest)
  | .ok (.item f rest) =>
    match collectAll ⟨.objectEnded, 0⟩ (fun cs => fieldAfter value (nextKey cs)) rest with
    | .error e => .error e
    | .ok (fs, rest) => .ok (f :: fs, rest)

/-- The fields sorted by key, of which the last one with a key counts. -/
def sortFields {α : Type} (fields : List (Text × α)) : List (Text × α) :=
  fields.foldl (fun sorted f => insertField f.1 f.2 sorted) []

/-- Reads a value nested at most `depth` deep. -/
def value (depth : Nat) (cs : Text) : Except Fault (Json × Text) :=
  match skipBlanks cs with
  | [] => failAt .textEnded []
  | c :: rest =>
    if c = 'n' then (word "ull" rest).map fun rest => (.null, rest)
    else if c = 't' then (word "rue" rest).map fun rest => (.bool true, rest)
    else if c = 'f' then (word "alse" rest).map fun rest => (.bool false, rest)
    else if c = '-' then (numeral true rest).map fun (n, rest) => (.number n, rest)
    else if c.isDigit then (numeral false (c :: rest)).map fun (n, rest) => (.number n, rest)
    else if c = '"' then (stringBody rest).map fun (s, rest) => (.string s, rest)
    else if c = '[' then
      match depth with
      | 0 => failPast .tooDeep (c :: rest)
      | depth + 1 =>
        (arrayBody (fun cs => value depth cs) rest).map fun (vs, rest) => (.array vs, rest)
    else if c = '{' then
      match depth with
      | 0 => failPast .tooDeep (c :: rest)
      | depth + 1 =>
        (objectBody (fun cs => value depth cs) rest).map fun (fs, rest) =>
          (.object (sortFields fs), rest)
    else failPast .valueExpected (c :: rest)

/-- Only blanks may follow what has been read. -/
def finish {α : Type} : α × Text → Except Fault α
  | (a, rest) =>
    match skipBlanks rest with
    | [] => .ok a
    | c :: rest => failPast .textFollows (c :: rest)

/-- Reads all of a text. -/
def readAll {α : Type} (reader : Reader α) (t : Text) : Except Fault α :=
  (reader t).bind finish

/-- The value that a text stands for. -/
def read (t : Text) : Except Fault Json :=
  readAll (value depthLimit) t

/-! ### Values that are not kept -/

/-- One character of a string that is not kept, or its closing quote. -/
def skipStringStep : Text → Except Fault (Step Unit)
  | [] => failAt .stringEnded []
  | c :: cs =>
    if c = '"' then .ok (.done cs)
    else if c = '\\' then
      match cs with
      | [] => failAt .stringEnded []
      | e :: rest =>
        if (shortEscape? e).isSome then .ok (.item () rest)
        else if e = 'u' then (hexFour rest).map fun (_, rest) => .item () rest
        else failPast .badEscape (e :: rest)
    else if c.toNat < 0x20 then failAt .controlInString (c :: cs)
    else .ok (.item () cs)

/-- What follows a string whose opening quote has been read. -/
def skipString (cs : Text) : Except Fault Text :=
  (collectAll ⟨.stringEnded, 0⟩ skipStringStep cs).map Prod.snd

/-- What follows an exponent after its `e`. -/
def skipExponent (cs : Text) : Except Fault Text :=
  let cs :=
    match cs with
    | '+' :: rest => rest
    | '-' :: rest => rest
    | _ => cs
  match cs with
  | [] => failAt .badNumber []
  | c :: rest => if c.isDigit then .ok (skipDigits rest) else failPast .badNumber (c :: rest)

/-- What follows the integer digits of a number. -/
def skipNumberTail (cs : Text) : Except Fault Text :=
  match cs with
  | [] => .ok []
  | c :: rest =>
    if c = '.' then
      let beyond := skipDigits rest
      if beyond.length = rest.length then failPast .badNumber rest
      else
        match beyond with
        | e :: beyond' => if e = 'e' ∨ e = 'E' then skipExponent beyond' else .ok beyond
        | [] => .ok []
    else if c = 'e' ∨ c = 'E' then skipExponent rest
    else .ok cs

/-- What follows a number after its sign. -/
def skipNumber (cs : Text) : Except Fault Text :=
  match cs with
  | [] => failAt .badNumber []
  | c :: rest =>
    if c = '0' then
      match rest with
      | d :: _ => if d.isDigit then failPast .badNumber rest else skipNumberTail rest
      | [] => .ok []
    else if c.isDigit then skipNumberTail (skipDigits rest)
    else failPast .badNumber cs

/-- What a bracket that is open encloses. -/
inductive Enclosure where
  | list
  | object
  deriving DecidableEq, Repr

/-- What comes next in a text that is not kept. -/
inductive Awaited where
  /-- A value. -/
  | value
  /-- The first item or key after an opening bracket, or its closing one. -/
  | first
  /-- A comma or a closing bracket after a value. -/
  | more
  deriving DecidableEq, Repr

/-- The key of a field up to and including its colon. -/
def skipKey (cs : Text) : Except Fault Text :=
  match skipBlanks cs with
  | [] => failAt .objectEnded []
  | c :: rest =>
    if c = '"' then
      match skipString rest with
      | .error e => .error e
      | .ok rest => colon rest
    else failPast .keyNotString (c :: rest)

/-- Reads on to a value inside the innermost enclosure. -/
def enter : List Enclosure → Text → Except Fault Text
  | .object :: _, cs => skipKey cs
  | _, cs => .ok cs

/-- Skips a value inside the enclosures that are open, innermost first. Every step
    reads at least one character. -/
def skipWithin (opened : List Enclosure) (next : Awaited) : (fuel : Nat) → Text → Except Fault Text
  | 0, _ => failAt .textEnded []
  | fuel + 1, cs =>
    match next with
    | .value =>
      match skipBlanks cs with
      | [] => failAt .textEnded []
      | c :: rest =>
        if c = '[' then skipWithin (.list :: opened) .first fuel rest
        else if c = '{' then skipWithin (.object :: opened) .first fuel rest
        else
          let after : Except Fault Text :=
            if c = 'n' then word "ull" rest
            else if c = 't' then word "rue" rest
            else if c = 'f' then word "alse" rest
            else if c = '-' then skipNumber rest
            else if c.isDigit then skipNumber (c :: rest)
            else if c = '"' then skipString rest
            else failPast .valueExpected (c :: rest)
          match after with
          | .error e => .error e
          | .ok rest => if opened.isEmpty then .ok rest else skipWithin opened .more fuel rest
    | _ =>
      match opened with
      | [] => .ok cs
      | e :: outer =>
        match skipBlanks cs with
        | [] => failAt (match e with | .list => .listEnded | .object => .objectEnded) []
        | c :: rest =>
          if c = (match e with | .list => ']' | .object => '}') then
            if outer.isEmpty then .ok rest else skipWithin outer .more fuel rest
          else if next = .first then
            match enter opened (c :: rest) with
            | .error e => .error e
            | .ok rest => skipWithin opened .value fuel rest
          else if c = ',' then
            match enter opened rest with
            | .error e => .error e
            | .ok rest => skipWithin opened .value fuel rest
          else failPast (match e with | .list => .listGoesOn | .object => .objectGoesOn) (c :: rest)

/-- What follows a value that is not kept. Two steps are taken for a character at
    most. -/
def skip (cs : Text) : Except Fault Text :=
  skipWithin [] .value (2 * cs.length + 2) cs

end Backoffice.Json
