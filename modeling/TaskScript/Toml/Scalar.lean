import TaskScript.Text.Numeral
import TaskScript.Toml.Reader
import TaskScript.Toml.Value

/-!
# TOML numbers, dates and truth values

Integers are 64 bits wide with a sign. A number with a point is refused if it is too large for a
double-precision number, and a date if there is no such day.
-/

namespace TaskScript.Toml

/-- Reads the given word. -/
def word (expected : List Char) : Reader Unit := fun text =>
  if expected.isPrefixOf text then some ((), text.drop expected.length) else none

/-! ## Digits -/

/-- Reads more digits, any of which may have an underscore before it. -/
def moreDigits (isDigit : Char → Bool) : List Char → List Char × List Char
  | '_' :: c :: rest =>
    if isDigit c then
      let (digits, rest) := moreDigits isDigit rest
      (c :: digits, rest)
    else ([], '_' :: c :: rest)
  | c :: rest =>
    if isDigit c then
      let (digits, rest) := moreDigits isDigit rest
      (c :: digits, rest)
    else ([], c :: rest)
  | [] => ([], [])

/-- Reads one digit or more. Underscores are left out of what is read. -/
def someDigits (isDigit : Char → Bool) : Reader (List Char)
  | c :: rest =>
    if isDigit c then
      let (digits, rest) := moreDigits isDigit rest
      some (c :: digits, rest)
    else none
  | [] => none

/-- Reads a sign, if there is one: is it a minus? -/
def sign : List Char → Bool × List Char
  | '-' :: rest => (true, rest)
  | '+' :: rest => (false, rest)
  | text => (false, text)

/-- Reads a decimal number without a superfluous zero at its front. -/
def wholeDigits : Reader (List Char)
  | '0' :: rest => some (['0'], rest)
  | text => someDigits Char.isDigit text

/-! ## Integers -/

/-- Integers stay below the 63rd power of two. -/
def integerLimit : Int := 9223372036854775808

/-- The integer, if it fits in 64 bits with a sign. -/
def integerValue (negative : Bool) (size : Nat) : Option Value :=
  let value : Int := if negative then -size else size
  if -integerLimit ≤ value ∧ value < integerLimit then some (.integer value) else none

/-- Reads an integer of the given base after its mark. -/
def radixInteger (base : Nat) (text : List Char) : Option (Value × List Char) := do
  let (digits, rest) ← someDigits (fun c => (Numeral.digit? base c).isSome) text
  let size ← Numeral.read? base digits
  return (← integerValue false size, rest)

/-- Reads a decimal integer. -/
def decimalInteger (text : List Char) : Option (Value × List Char) := do
  let (negative, text) := sign text
  let (digits, rest) ← wholeDigits text
  let size ← Numeral.read? 10 digits
  return (← integerValue negative size, rest)

/-- Reads an integer. -/
def integer : Reader Value
  | '0' :: 'x' :: rest => radixInteger 16 rest
  | '0' :: 'o' :: rest => radixInteger 8 rest
  | '0' :: 'b' :: rest => radixInteger 2 rest
  | text => decimalInteger text

/-! ## Numbers with a point -/

/-- The least number that is too large: halfway between the largest double-precision number and the
next power of two. -/
def tooLarge : Nat := Nat.pow 2 1024 - Nat.pow 2 970

/-- Is the number, given by its digits and a power of ten, below the limit? Numbers far from the
limit are told by their magnitude. -/
def isFinite (digits : Nat) (exponent : Int) : Bool :=
  let magnitude := (Numeral.decimal digits).length + exponent
  if digits = 0 ∨ magnitude < 309 then true
  else if 310 < magnitude then false
  else if 0 ≤ exponent then digits * Nat.pow 10 exponent.toNat < tooLarge
  else digits < tooLarge * Nat.pow 10 (-exponent).toNat

/-- Reads the point and the digits after it. -/
def fraction : Reader (List Char)
  | '.' :: rest => someDigits Char.isDigit rest
  | _ => none

/-- Reads the power of ten. -/
def exponent : Reader Int
  | c :: rest => do
    if c ≠ 'e' ∧ c ≠ 'E' then none
    let (negative, rest) := sign rest
    let (digits, rest) ← someDigits Char.isDigit rest
    let size ← Numeral.read? 10 digits
    return (if negative then -size else size, rest)
  | [] => none

/-- The characters that were read between two points of a text. -/
def between (text rest : List Char) : String :=
  String.ofList (text.take (text.length - rest.length))

/-- Reads a number with a point or a power of ten. -/
def decimalFloat (text : List Char) : Option (Value × List Char) := do
  let (negative, unsigned) := sign text
  let (whole, rest) ← wholeDigits unsigned
  let (places, rest) := (fraction rest).getD ([], rest)
  let power? := exponent rest
  if places.isEmpty ∧ power?.isNone then none
  let (power, rest) := power?.getD (0, rest)
  let digits ← Numeral.read? 10 (whole ++ places)
  if negative ∨ isFinite digits (power - places.length) then
    return (.float (between text rest), rest)
  else none

/-- Reads an infinity or a value that is not a number. -/
def specialFloat (text : List Char) : Option (Value × List Char) := do
  let (_, unsigned) := sign text
  let (_, rest) ← (word ['i', 'n', 'f'] unsigned).or (word ['n', 'a', 'n'] unsigned)
  return (.float (between text rest), rest)

/-! ## Dates and times -/

/-- Reads a number of exactly the given count of digits, within bounds. -/
def fixedNumber (count low high : Nat) : Reader Nat := fun text => do
  let digits := text.take count
  if digits.length < count ∨ !digits.all Char.isDigit then none
  let n ← Numeral.read? 10 digits
  if low ≤ n ∧ n ≤ high then some (n, text.drop count) else none

/-- Drops the given character. -/
def mark? (c : Char) : List Char → Option (List Char)
  | first :: rest => if first = c then some rest else none
  | [] => none

/-- The number of days of a month. -/
def daysIn (year month : Nat) : Nat :=
  match month with
  | 2 => if (year % 4 = 0 ∧ year % 100 ≠ 0) ∨ year % 400 = 0 then 29 else 28
  | 4 | 6 | 9 | 11 => 30
  | _ => 31

/-- Drops a date. -/
def date? (text : List Char) : Option (List Char) := do
  let (year, rest) ← fixedNumber 4 0 9999 text
  let rest ← mark? '-' rest
  let (month, rest) ← fixedNumber 2 1 12 rest
  let rest ← mark? '-' rest
  let (_, rest) ← fixedNumber 2 1 (daysIn year month) rest
  return rest

/-- Drops an hour and a minute. -/
def hourMinute? (text : List Char) : Option (List Char) := do
  let (_, rest) ← fixedNumber 2 0 23 text
  let rest ← mark? ':' rest
  let (_, rest) ← fixedNumber 2 0 59 rest
  return rest

/-- Drops a time. A minute may have a leap second. -/
def time? (text : List Char) : Option (List Char) := do
  let rest ← hourMinute? text
  let rest ← mark? ':' rest
  let (_, rest) ← fixedNumber 2 0 60 rest
  match rest with
  | '.' :: places =>
    let digits := places.takeWhile Char.isDigit
    return if digits.isEmpty then rest else places.drop digits.length
  | _ => return rest

/-- Drops an offset from the time of day, if there is one. -/
def skipOffset : List Char → Option (List Char)
  | c :: rest =>
    if c = 'Z' ∨ c = 'z' then some rest
    else if c = '+' ∨ c = '-' then hourMinute? rest
    else some (c :: rest)
  | [] => some []

/-- Drops the time of day after a date, with the mark before it, if there is one. -/
def skipTimeOfDay : List Char → Option (List Char)
  | c :: rest =>
    if c = 'T' ∨ c = 't' ∨ c = ' ' then
      match time? rest with
      | some rest => skipOffset rest
      | none => some (c :: rest)
    else some (c :: rest)
  | [] => some []

/-- Reads a date, a time, or both. -/
def dateTime (text : List Char) : Option (Value × List Char) := do
  let rest ← match date? text with
    | some rest => skipTimeOfDay rest
    | none => time? text
  return (.dateTime (between text rest), rest)

/-! ## All of them -/

/-- Reads a number, a date or a truth value. -/
def scalar (text : List Char) : Option (Value × List Char) :=
  match text with
  | 't' :: _ => (word ['t', 'r', 'u', 'e'] text).map fun (_, rest) => (.boolean true, rest)
  | 'f' :: _ => (word ['f', 'a', 'l', 's', 'e'] text).map fun (_, rest) => (.boolean false, rest)
  | _ =>
    (dateTime text).or <| (decimalFloat text).or <| (specialFloat text).or <| integer text

end TaskScript.Toml
