import Backoffice.Json.Basic
import Backoffice.Json.Fault
import Backoffice.Text.Loop

/-!
# The smallest parts of a JSON text

Blanks, words, strings and numbers, each read off the front of a text with what
follows it as the rest.

A string may not hold a raw control character, and an escaped surrogate needs its
other half. A number that is written as an integer and fits in 64 bits is kept as
it is. Any other is a significand of at most 64 bits, whose further digits only
count, multiplied by or divided by a power of ten, every operation being rounded.
-/

namespace Backoffice.Json

open Text (Step collectAll)

/-- The blanks of JSON: space, tab, line feed and carriage return. -/
def isBlank (c : Char) : Bool :=
  c = ' ' || c = '\t' || c = '\n' || c = '\r'

/-- The text without the blanks it begins with. -/
def skipBlanks (cs : Text) : Text :=
  cs.dropWhile isBlank

/-- What follows a word, of which `rest` is still expected. -/
def word : (rest : Text) → Text → Except Fault Text
  | [], cs => .ok cs
  | _ :: _, [] => failAt .textEnded []
  | w :: ws, c :: cs => if c = w then word ws cs else failPast .wordExpected (c :: cs)

/-! ### Strings -/

/-- Reads four hexadecimal digits. Four octets are taken before they are looked
    at, so a text with fewer ends too early whatever they are. -/
def hexFour (cs : Text) : Except Fault (Nat × Text) :=
  if Text.octets cs < 4 then failAt .stringEnded []
  else
    let bad := .error ⟨.badEscape, Text.octets cs - 4⟩
    match cs with
    | a :: b :: c :: d :: rest =>
      match Numeral.hexFrom? 0 [a, b, c, d] with
      | some n => .ok (n, rest)
      | none => bad
    | _ => bad

/-- Reads the second half of a surrogate pair, given the first. -/
def lowSurrogate (high : Nat) : Text → Except Fault (Char × Text)
  | [] => failAt .stringEnded []
  | c :: cs =>
    if c ≠ '\\' then failPast .halfPair (c :: cs)
    else
      match cs with
      | [] => failAt .stringEnded []
      | u :: cs =>
        if u ≠ 'u' then failPast .halfPair (u :: cs)
        else
          match hexFour cs with
          | .error e => .error e
          | .ok (low, rest) =>
            if 0xDC00 ≤ low ∧ low ≤ 0xDFFF then
              .ok (Char.ofNat ((high - 0xD800) * 0x400 + (low - 0xDC00) + 0x10000), rest)
            else failAt .loneSurrogate rest

/-- Reads what follows the `u` of an escape. -/
def unicodeEscape (cs : Text) : Except Fault (Char × Text) :=
  match hexFour cs with
  | .error e => .error e
  | .ok (n, rest) =>
    if 0xDC00 ≤ n ∧ n ≤ 0xDFFF then failAt .loneSurrogate rest
    else if 0xD800 ≤ n ∧ n ≤ 0xDBFF then lowSurrogate n rest
    else .ok (Char.ofNat n, rest)

/-- The character that a letter after a backslash stands for. -/
def shortEscape? (c : Char) : Option Char :=
  if c = '"' then some '"'
  else if c = '\\' then some '\\'
  else if c = '/' then some '/'
  else if c = 'b' then some '\x08'
  else if c = 'f' then some '\x0c'
  else if c = 'n' then some '\n'
  else if c = 'r' then some '\r'
  else if c = 't' then some '\t'
  else none

/-- Reads what follows a backslash. -/
def escape : Text → Except Fault (Char × Text)
  | [] => failAt .stringEnded []
  | c :: cs =>
    match shortEscape? c with
    | some e => .ok (e, cs)
    | none => if c = 'u' then unicodeEscape cs else failPast .badEscape (c :: cs)

/-- One character of a string, or its closing quote. -/
def stringStep : Text → Except Fault (Step Char)
  | [] => failAt .stringEnded []
  | c :: cs =>
    if c = '"' then .ok (.done cs)
    else if c = '\\' then
      match escape cs with
      | .error e => .error e
      | .ok (e, rest) => .ok (.item e rest)
    else if c.toNat < 0x20 then failAt .controlInString cs
    else .ok (.item c cs)

/-- Reads a string whose opening quote has been read. -/
def stringBody (cs : Text) : Except Fault (Text × Text) :=
  collectAll ⟨.stringEnded, 0⟩ stringStep cs

/-! ### Numbers -/

/-- The greatest significand. -/
def significandLimit : Nat :=
  Nat.pow 2 64

/-- Adds digits to a significand as long as it stays below the limit. Yields the
    significand, how many digits went into it, and the rest. -/
def addDigits (significand count : Nat) : Text → Nat × Nat × Text
  | [] => (significand, count, [])
  | c :: cs =>
    if c.isDigit && significand * 10 + Numeral.digit c < significandLimit then
      addDigits (significand * 10 + Numeral.digit c) (count + 1) cs
    else (significand, count, c :: cs)

/-- The digits a text begins with are dropped. -/
def skipDigits (cs : Text) : Text :=
  cs.dropWhile Char.isDigit

/-- Divides by a power of ten, by `10 ^ 308` at a time and not beyond zero. -/
def divideTenTo (x : Binary64) (e : Nat) : Binary64 :=
  if e ≤ 308 then x.dividedBy (Binary64.ofNat (Nat.pow 10 e))
  else if x.isZero then x
  else divideTenTo (x.dividedBy (Binary64.ofNat (Nat.pow 10 308))) (e - 308)
  termination_by e

/-- A significand times a power of ten, unless it is out of range. -/
def scale? (significand : Nat) (exponent : Int) : Option Binary64 :=
  let x := Binary64.ofNat significand
  match exponent with
  | .ofNat e =>
    if e ≤ 308 then
      let y := x.times (Binary64.ofNat (Nat.pow 10 e))
      if y.isInfinite then none else some y
    else if x.isZero then some x
    else none
  | .negSucc e => some (divideTenTo x (e + 1))

/-- The number with these parts, before the rest of a text. -/
def assemble (negative : Bool) (significand : Nat) (exponent : Int) (rest : Text) :
    Except Fault (Number × Text) :=
  match scale? significand exponent with
  | some x => .ok (.float (if negative then x.negate else x), rest)
  | none => failAt .outOfRange rest

/-- The greatest exponent. -/
def exponentLimit : Nat :=
  Nat.pow 2 31

/-- Reads the remaining digits of an exponent of which `e` has been read. An
    exponent past its limit is out of range if it is positive and the significand is
    not zero; otherwise the number is zero. -/
def exponentDigits (negative : Bool) (significand : Nat) (start : Int) (down : Bool) (e : Nat) :
    Text → Except Fault (Number × Text)
  | c :: cs =>
    if c.isDigit then
      if e * 10 + Numeral.digit c < exponentLimit then
        exponentDigits negative significand start down (e * 10 + Numeral.digit c) cs
      else if significand ≠ 0 ∧ !down then failAt .outOfRange cs
      else .ok (.float (if negative then Binary64.zero.negate else Binary64.zero), skipDigits cs)
    else assemble negative significand (if down then start - e else start + e) (c :: cs)
  | [] => assemble negative significand (if down then start - e else start + e) []

/-- Reads an exponent after its `e`. -/
def exponentPart (negative : Bool) (significand : Nat) (start : Int) (cs : Text) :
    Except Fault (Number × Text) :=
  let (down, cs) :=
    match cs with
    | '+' :: rest => (false, rest)
    | '-' :: rest => (true, rest)
    | _ => (false, cs)
  match cs with
  | [] => failAt .textEnded []
  | c :: rest =>
    if c.isDigit then exponentDigits negative significand start down (Numeral.digit c) rest
    else failPast .badNumber (c :: rest)

/-- Reads an exponent if there is one. -/
def exponentOrEnd (negative : Bool) (significand : Nat) (exponent : Int) (cs : Text) :
    Except Fault (Number × Text) :=
  match cs with
  | c :: rest =>
    if c = 'e' ∨ c = 'E' then exponentPart negative significand exponent rest
    else assemble negative significand exponent cs
  | [] => assemble negative significand exponent []

/-- Reads the digits after a point. -/
def fractionPart (negative : Bool) (significand : Nat) (exponent : Int) (cs : Text) :
    Except Fault (Number × Text) :=
  match cs with
  | [] => failAt .textEnded []
  | c :: _ =>
    if c.isDigit then
      let (significand, count, rest) := addDigits significand 0 cs
      exponentOrEnd negative significand (exponent - count) (skipDigits rest)
    else failPast .badNumber cs

/-- A number that was written as an integer below the significand limit. A
    negative one outside 64 bits, and a negative zero, is a binary number. -/
def ofSignificand (negative : Bool) (significand : Nat) : Number :=
  if !negative then .integer significand
  else if significand = 0 ∨ Nat.pow 2 63 < significand then
    .float (Binary64.ofNat significand).negate
  else .integer (-(significand : Int))

/-- Reads what follows the integer digits of a number, of which `dropped` did not
    go into the significand. -/
def numberTail (negative : Bool) (significand dropped : Nat) (cs : Text) :
    Except Fault (Number × Text) :=
  match cs with
  | c :: rest =>
    if c = '.' then fractionPart negative significand dropped rest
    else if c = 'e' ∨ c = 'E' then exponentPart negative significand dropped rest
    else if dropped = 0 then .ok (ofSignificand negative significand, cs)
    else assemble negative significand dropped cs
  | [] =>
    if dropped = 0 then .ok (ofSignificand negative significand, [])
    else assemble negative significand dropped []

/-- Reads a number after its sign. Only zero itself begins with a zero. -/
def numeral (negative : Bool) (cs : Text) : Except Fault (Number × Text) :=
  match cs with
  | [] => failAt .textEnded []
  | c :: rest =>
    if c = '0' then
      match rest with
      | d :: _ => if d.isDigit then failPast .badNumber rest else numberTail negative 0 0 rest
      | [] => numberTail negative 0 0 []
    else if c.isDigit then
      let (significand, _, rest) := addDigits 0 0 cs
      let beyond := skipDigits rest
      numberTail negative significand (rest.length - beyond.length) beyond
    else failPast .badNumber cs

end Backoffice.Json
