import Backoffice.Decimal.Binary64
import Backoffice.Calendar.Date
import Backoffice.Text.Loop
import Backoffice.Toml.Basic

/-!
# The smallest parts of a TOML text

Blanks, comments, line ends, keys, strings, numbers and moments, each read off the
front of a text with what follows it as the rest.
-/

namespace Backoffice.Toml

open Text (Step collectAll)

/-- A reader takes something off the front of a text. -/
abbrev Reader (α : Type) := Text → Except Fault (α × Text)

/-- The text is refused. -/
def refuse {α : Type} : Except Fault α :=
  .error .malformed

/-- The blanks inside a line: space and tab. -/
def isBlank (c : Char) : Bool :=
  c = ' ' || c = '\t'

/-- The text without the blanks it begins with. -/
def skipBlanks (cs : Text) : Text :=
  cs.dropWhile isBlank

/-- Whether a character may stand in a comment or, as it is, in a string: a tab or no
    control. -/
def isPlain (c : Char) : Bool :=
  c = '\t' || (0x20 ≤ c.toNat && c.toNat ≠ 0x7F)

/-- What follows a line end: a line feed, with or without a carriage return. -/
def lineEnd? : Text → Option Text
  | '\n' :: rest => some rest
  | '\r' :: '\n' :: rest => some rest
  | _ => none

/-- What follows blanks, line ends and comments. -/
def skipLines (commented : Bool) : Text → Except Fault Text
  | [] => .ok []
  | c :: cs =>
    if c = '\n' then skipLines false cs
    else if c = '\r' then
      match cs with
      | d :: rest => if d = '\n' then skipLines false rest else refuse
      | [] => refuse
    else if commented then if isPlain c then skipLines true cs else refuse
    else if isBlank c then skipLines false cs
    else if c = '#' then skipLines true cs
    else .ok (c :: cs)

/-- What follows the end of a line that holds nothing more than a comment. -/
def endLine (cs : Text) : Except Fault Text :=
  let after (cs : Text) : Except Fault Text :=
    match cs with
    | [] => .ok []
    | _ :: _ =>
      match lineEnd? cs with
      | some rest => .ok rest
      | none => refuse
  match skipBlanks cs with
  | '#' :: rest => after (rest.dropWhile isPlain)
  | rest => after rest

/-! ### Strings -/

/-- Reads the code point of an escape, which has `count` hexadecimal digits. -/
def codePoint (count : Nat) (cs : Text) : Except Fault (Char × Text) :=
  if cs.length < count then refuse
  else
    match Numeral.hexFrom? 0 (cs.take count) with
    | some n =>
      if n < 0xD800 ∨ (0xDFFF < n ∧ n ≤ 0x10FFFF) then .ok (Char.ofNat n, cs.drop count) else refuse
    | none => refuse

/-- Reads what follows a backslash. -/
def escape : Text → Except Fault (Char × Text)
  | [] => refuse
  | c :: cs =>
    if c = 'b' then .ok ('\x08', cs)
    else if c = 't' then .ok ('\t', cs)
    else if c = 'n' then .ok ('\n', cs)
    else if c = 'f' then .ok ('\x0c', cs)
    else if c = 'r' then .ok ('\r', cs)
    else if c = '"' then .ok ('"', cs)
    else if c = '\\' then .ok ('\\', cs)
    else if c = 'u' then codePoint 4 cs
    else if c = 'U' then codePoint 8 cs
    else refuse

/-- One character of a string with escapes, or its closing quote. -/
def basicStep : Text → Except Fault (Step Char)
  | [] => refuse
  | c :: cs =>
    if c = '"' then .ok (.done cs)
    else if c = '\\' then (escape cs).map fun (e, rest) => .item e rest
    else if isPlain c then .ok (.item c cs)
    else refuse

/-- One character of a string without escapes, or its closing quote. -/
def literalStep : Text → Except Fault (Step Char)
  | [] => refuse
  | c :: cs =>
    if c = '\'' then .ok (.done cs)
    else if isPlain c then .ok (.item c cs)
    else refuse

/-- How many times a text begins with a character. -/
def run (c : Char) (cs : Text) : Nat :=
  (cs.takeWhile (· = c)).length

/-- A quote inside a string over several lines. Three in a row close it, and up to
    two more belong to it; a longer row fits nowhere. -/
def quoteStep (quote : Char) (cs : Text) : Except Fault (Step Text) :=
  let n := run quote cs
  if n = 3 then .ok (.done (cs.drop 3))
  else if n ≤ 5 then .ok (.item [quote] (cs.drop 1))
  else refuse

/-- What follows blanks and line ends. -/
def skipBlankLines : Text → Text
  | [] => []
  | c :: cs =>
    if isBlank c ∨ c = '\n' then skipBlankLines cs
    else if c = '\r' then
      match cs with
      | d :: rest => if d = '\n' then skipBlankLines rest else c :: cs
      | [] => c :: cs
    else c :: cs

/-- What follows the blanks and line ends after a backslash at the end of a line, if
    it stands there. -/
def foldedLine? (cs : Text) : Option Text :=
  (lineEnd? (skipBlanks cs)).map skipBlankLines

/-- One part of a string over several lines with escapes, or its closing quotes. -/
def wideBasicStep : Text → Except Fault (Step Text)
  | [] => refuse
  | c :: cs =>
    if c = '"' then quoteStep '"' (c :: cs)
    else if c = '\\' then
      match foldedLine? cs with
      | some rest => .ok (.item [] rest)
      | none => (escape cs).map fun (e, rest) => .item [e] rest
    else if isPlain c then .ok (.item [c] cs)
    else
      match lineEnd? (c :: cs) with
      | some rest => .ok (.item ['\n'] rest)
      | none => refuse

/-- One part of a string over several lines without escapes, or its closing
    quotes. -/
def wideLiteralStep : Text → Except Fault (Step Text)
  | [] => refuse
  | c :: cs =>
    if c = '\'' then quoteStep '\'' (c :: cs)
    else if isPlain c then .ok (.item [c] cs)
    else
      match lineEnd? (c :: cs) with
      | some rest => .ok (.item ['\n'] rest)
      | none => refuse

/-- The text without a line end that it begins with. -/
def skipLineEnd (cs : Text) : Text :=
  (lineEnd? cs).getD cs

/-- Reads a string on one line, which the quote of `cs` opens. -/
def lineString : Reader Text
  | '"' :: rest => collectAll .malformed basicStep rest
  | '\'' :: rest => collectAll .malformed literalStep rest
  | _ => refuse

/-- Reads a string, which the quote of `cs` opens. -/
def readString (cs : Text) : Except Fault (Text × Text) :=
  match cs with
  | '"' :: '"' :: '"' :: rest =>
    (collectAll .malformed wideBasicStep (skipLineEnd rest)).map fun (parts, rest) =>
      (parts.flatten, rest)
  | '\'' :: '\'' :: '\'' :: rest =>
    (collectAll .malformed wideLiteralStep (skipLineEnd rest)).map fun (parts, rest) =>
      (parts.flatten, rest)
  | _ => lineString cs

/-! ### Keys -/

/-- Whether a character may stand in a key without quotes. -/
def inBareKey (c : Char) : Bool :=
  c.isAlphanum || c = '_' || c = '-'

/-- Reads one part of a key, with the blanks around it. -/
def keyPart (cs : Text) : Except Fault (Text × Text) :=
  match skipBlanks cs with
  | [] => refuse
  | c :: rest =>
    if c = '"' ∨ c = '\'' then
      (lineString (c :: rest)).map fun (k, rest) => (k, skipBlanks rest)
    else
      match (c :: rest).takeWhile inBareKey with
      | [] => refuse
      | k => .ok (k, skipBlanks ((c :: rest).dropWhile inBareKey))

/-- The next part of a key after a dot. -/
def keyStep : Text → Except Fault (Step Text)
  | '.' :: rest => (keyPart rest).map fun (k, rest) => .item k rest
  | cs => .ok (.done cs)

/-- One less than the number of parts that is too much for a key, and of brackets
    that is too much for a value. -/
def depthLimit : Nat :=
  79

/-- Reads a key: its parts before the last one, and the last one. -/
def key (cs : Text) : Except Fault ((List Text × Text) × Text) :=
  match keyPart cs with
  | .error e => .error e
  | .ok (first, rest) =>
    match collectAll .malformed keyStep rest with
    | .error e => .error e
    | .ok (others, rest) =>
      let parts := first :: others
      if depthLimit < parts.length then .error .tooDeep
      else .ok ((parts.dropLast, parts.getLast?.getD first), rest)

/-! ### Numbers -/

/-- Reads digits of a class, with single underscores between digits. Yields the
    digits alone. -/
def digitsWith (isDigit : Char → Bool) (digits : Text) : Text → Text × Text
  | [] => (digits.reverse, [])
  | c :: cs =>
    if isDigit c then digitsWith isDigit (c :: digits) cs
    else if c = '_' ∧ !digits.isEmpty then
      match cs with
      | d :: rest =>
        if isDigit d then digitsWith isDigit (d :: digits) rest else (digits.reverse, c :: cs)
      | [] => (digits.reverse, c :: cs)
    else (digits.reverse, c :: cs)

/-- A sign, if there is one: whether it is a minus. -/
def sign (cs : Text) : Bool × Text :=
  match cs with
  | '-' :: rest => (true, rest)
  | '+' :: rest => (false, rest)
  | _ => (false, cs)

/-- The digits of a decimal integer: a zero alone, or digits that do not begin with
    one. -/
def integerDigits? (cs : Text) : Option (Text × Text) :=
  match cs with
  | '0' :: rest => some (['0'], rest)
  | _ =>
    match digitsWith Char.isDigit [] cs with
    | ([], _) => none
    | found => some found

/-- The digits after a point, and after the mark of an exponent: zeros may lead. -/
def anyDigits? (cs : Text) : Option (Text × Text) :=
  match digitsWith Char.isDigit [] cs with
  | ([], _) => none
  | found => some found

/-- The digits of an exponent after its mark, if there is one. -/
def exponent? (cs : Text) : Option (Option Int × Text) :=
  match cs with
  | c :: rest =>
    if c = 'e' ∨ c = 'E' then
      let (down, rest) := sign rest
      (anyDigits? rest).map fun (digits, rest) =>
        (some (if down then -(Numeral.value digits : Int) else Numeral.value digits), rest)
    else some (none, cs)
  | [] => some (none, [])

/-- Whether a decimal number is past the greatest binary one. -/
def overflows (digits : Text) (exponent : Int) : Bool :=
  let n := Numeral.value digits
  let size := exponent + (Numeral.natural n).length
  if n = 0 ∨ size < 300 then false
  else if 400 < size then true
  else
    match exponent with
    | .ofNat e => (Binary64.ofRatio false (n * Nat.pow 10 e) 1).isInfinite
    | .negSucc e => (Binary64.ofRatio false n (Nat.pow 10 (e + 1))).isInfinite

/-- Reads a binary number; one that is positive must not be past the greatest. -/
def float? (cs : Text) : Option Text :=
  let (negative, body) := sign cs
  match body with
  | 'i' :: 'n' :: 'f' :: rest => some rest
  | 'n' :: 'a' :: 'n' :: rest => some rest
  | _ =>
    match integerDigits? body with
    | none => none
    | some (whole, rest) =>
      let checked (fraction : Text) (e : Option Int) (rest : Text) : Option Text :=
        if !negative && overflows (whole ++ fraction) (e.getD 0 - fraction.length) then none
        else some rest
      match rest with
      | '.' :: rest =>
        match anyDigits? rest with
        | none => none
        | some (fraction, rest) => (exponent? rest).bind fun (e, rest) => checked fraction e rest
      | _ =>
        match exponent? rest with
        | some (some e, rest) => checked [] (some e) rest
        | _ => none

/-- The number that digits of a base denote. -/
def valueIn (base : Nat) (digits : Text) : Nat :=
  digits.foldl (fun n c => n * base + (Numeral.hexDigit? c).getD 0) 0

/-- Reads an integer in a base after its mark. -/
def integerIn (base : Nat) (isDigit : Char → Bool) (cs : Text) : Except Fault (Toml × Text) :=
  match digitsWith isDigit [] cs with
  | ([], _) => refuse
  | (digits, rest) =>
    if valueIn base digits < Nat.pow 2 63 then .ok (.integer (valueIn base digits), rest)
    else refuse

/-- Reads an integer, which fits in 64 bits. -/
def readInteger (cs : Text) : Except Fault (Toml × Text) :=
  match cs with
  | '0' :: 'x' :: rest => integerIn 16 (fun c => (Numeral.hexDigit? c).isSome) rest
  | '0' :: 'o' :: rest => integerIn 8 (fun c => '0' ≤ c && c ≤ '7') rest
  | '0' :: 'b' :: rest => integerIn 2 (fun c => c = '0' || c = '1') rest
  | _ =>
    let (negative, body) := sign cs
    match integerDigits? body with
    | none => refuse
    | some (digits, rest) =>
      let n : Int := if negative then -(Numeral.value digits : Int) else Numeral.value digits
      if -(Nat.pow 2 63 : Int) ≤ n ∧ n < Nat.pow 2 63 then .ok (.integer n, rest) else refuse

/-! ### Moments -/

/-- Reads exactly `count` digits. -/
def digits? (count : Nat) (cs : Text) : Option (Nat × Text) :=
  if (cs.take count).length = count ∧ (cs.take count).all Char.isDigit then
    some (Numeral.value (cs.take count), cs.drop count)
  else none

/-- What follows one character. -/
def after? (c : Char) : Text → Option Text
  | d :: rest => if d = c then some rest else none
  | [] => none

/-- Reads a date. -/
def date? (cs : Text) : Option Text := do
  let (year, cs) ← digits? 4 cs
  let cs ← after? '-' cs
  let (month, cs) ← digits? 2 cs
  let cs ← after? '-' cs
  let (day, cs) ← digits? 2 cs
  if (Date.of? year month day).isSome then some cs else none

/-- Reads hours and minutes. -/
def minutes? (cs : Text) : Option Text := do
  let (hour, cs) ← digits? 2 cs
  let cs ← after? ':' cs
  let (minute, cs) ← digits? 2 cs
  if hour < 24 ∧ minute < 60 then some cs else none

/-- Reads a time of day, whose second may be a leap second. -/
def time? (cs : Text) : Option Text := do
  let cs ← minutes? cs
  let cs ← after? ':' cs
  let (second, cs) ← digits? 2 cs
  if second ≤ 60 then
    match cs with
    | '.' :: d :: rest => if d.isDigit then some (rest.dropWhile Char.isDigit) else some cs
    | _ => some cs
  else none

/-- What follows the distance of a moment from universal time, if there is one. -/
def skipOffset (cs : Text) : Text :=
  match cs with
  | c :: rest =>
    if c = 'Z' ∨ c = 'z' then rest
    else if c = '+' ∨ c = '-' then (minutes? rest).getD cs
    else cs
  | [] => []

/-- Reads a moment: a date, a time of day, or both. -/
def moment? (cs : Text) : Option Text :=
  match date? cs with
  | none => time? cs
  | some rest =>
    match rest with
    | c :: rest' =>
      if c = 'T' ∨ c = 't' ∨ c = ' ' then
        match time? rest' with
        | some rest'' => some (skipOffset rest'')
        | none => some rest
      else some rest
    | [] => some []

end Backoffice.Toml
