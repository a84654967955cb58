import Backoffice.Text.Basic

/-!
# Decimal numerals

Whole numbers as text. `Numeral.size?` reads a number of octets, which fits in
64 bits: an optional plus sign and then digits only, however many zeros lead.
The first character that does not fit decides the fault.

* `Numeral.natural`, `Numeral.whole`: the digits of a number;
* `Numeral.value`: the number that digits denote (`Numeral.value_natural`).
-/

namespace Backoffice.Numeral

/-- The decimal digits of a number, without leading zeros. -/
def natural (n : Nat) : Text :=
  Nat.toDigits 10 n

/-- The decimal digits of an integer, after a minus sign if it is negative. -/
def whole : Int → Text
  | .ofNat n => natural n
  | .negSucc n => '-' :: natural (n + 1)

/-- The worth of one decimal digit. -/
def digit (c : Char) : Nat :=
  c.toNat - '0'.toNat

/-- The number that a text of decimal digits denotes. -/
def value (t : Text) : Nat :=
  Nat.ofDigitChars 10 t 0

@[simp]
theorem value_natural (n : Nat) : value (natural n) = n :=
  Nat.ofDigitChars_ten_toDigits

theorem natural_ne_nil (n : Nat) : natural n ≠ [] :=
  Nat.toDigits_ne_nil

theorem isDigit_of_mem_natural {n : Nat} {c : Char} (h : c ∈ natural n) : c.isDigit = true :=
  Nat.isDigit_of_mem_toDigits (by decide) (by decide) h

/-- The decimal digits of a number, with zeros before them up to a width. -/
def padded (width : Nat) (n : Nat) : Text :=
  Text.padStart width '0' (natural n)

/-- The worth of a hexadecimal digit, capital or small. -/
def hexDigit? (c : Char) : Option Nat :=
  if c.isDigit then some (digit c)
  else if 'a' ≤ c ∧ c ≤ 'f' then some (c.toNat - 'a'.toNat + 10)
  else if 'A' ≤ c ∧ c ≤ 'F' then some (c.toNat - 'A'.toNat + 10)
  else none

/-- The number that hexadecimal digits denote after `n`, if they are such. -/
def hexFrom? (n : Nat) : Text → Option Nat
  | [] => some n
  | c :: cs => (hexDigit? c).bind fun d => hexFrom? (n * 16 + d) cs

/-- Why a text is not a size. -/
inductive Fault where
  | empty
  | notADigit
  | tooLarge
  deriving DecidableEq, Repr

/-- The fault in words. -/
def Fault.message : Fault → Text
  | .empty => "cannot parse integer from empty string"
  | .notADigit => "invalid digit found in string"
  | .tooLarge => "number too large to fit in target type"

/-- Reads the remaining digits of a size of which `n` has been read. -/
def sizeFrom (n : Nat) : Text → Except Fault UInt64
  | [] => .ok (UInt64.ofNat n)
  | c :: cs =>
    if c.isDigit then
      if n * 10 + digit c < Nat.pow 2 64 then sizeFrom (n * 10 + digit c) cs else .error .tooLarge
    else .error .notADigit

/-- Reads a size: an optional plus sign and at least one digit. -/
def size? : Text → Except Fault UInt64
  | [] => .error .empty
  | ['+'] => .error .notADigit
  | '+' :: c :: cs => sizeFrom 0 (c :: cs)
  | c :: cs => sizeFrom 0 (c :: cs)

/-- A size as text. -/
def ofSize (n : UInt64) : Text :=
  natural n.toNat

end Backoffice.Numeral
