/-!
# Numerals

Reading and writing of numbers in base ten and sixteen. A numeral is one digit or more and nothing
else: no sign, no blank and no separator. Sizes and handles may have a plus sign before the numeral.
-/

namespace TaskScript.Numeral

/-- The value of a digit, where letters of either case go on after nine. -/
def digitValue (c : Char) : Option Nat :=
  if '0' ≤ c ∧ c ≤ '9' then some (c.toNat - '0'.toNat)
  else if 'a' ≤ c ∧ c ≤ 'z' then some (c.toNat - 'a'.toNat + 10)
  else if 'A' ≤ c ∧ c ≤ 'Z' then some (c.toNat - 'A'.toNat + 10)
  else none

/-- The value of a digit of the given base. -/
def digit? (base : Nat) (c : Char) : Option Nat :=
  (digitValue c).filter (· < base)

/-- Reads digits after a number that is already known. -/
def readAfter? (base : Nat) (known : Nat) : List Char → Option Nat
  | [] => some known
  | c :: rest => do
    let digit ← digit? base c
    readAfter? base (known * base + digit) rest

/-- The number that a numeral stands for. -/
def read? (base : Nat) : List Char → Option Nat
  | [] => none
  | digits => readAfter? base 0 digits

/-- The number that a numeral stands for, provided that it is below the limit. -/
def readBelow? (base limit : Nat) (digits : List Char) : Option Nat :=
  (read? base digits).filter (· < limit)

/-- What stands after the plus sign, where there is one. -/
def afterPlus : List Char → List Char
  | '+' :: digits => digits
  | digits => digits

/-- The shortest lower-case numeral in base sixteen. -/
def hex (n : Nat) : String := String.ofList (Nat.toDigits 16 n)

/-- The shortest numeral in base ten. -/
def decimal (n : Nat) : String := String.ofList (Nat.toDigits 10 n)

end TaskScript.Numeral
