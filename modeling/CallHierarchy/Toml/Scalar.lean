import CallHierarchy.Toml.Lexical
import CallHierarchy.Toml.Value

/-!
TOML scalars without quotes: truth values, numbers, dates and times. Such a scalar is a run of
letters, digits and a few marks; only a date may be followed by a blank and a time.
-/

namespace CallHierarchy.Toml

/-- The value of digits in a base, in which an underscore may stand between two digits. -/
def digits? (isDigit : Char → Bool) (base : Nat) (text : Text) : Option Nat :=
  let rec go (value : Nat) (afterDigit : Bool) : Text → Option Nat
    | [] => if afterDigit then some value else none
    | first :: rest =>
        if first = '_' then
          if afterDigit then go value false rest else none
        else if isDigit first then do
          go (base * value + (← Text.hexDigit? first)) true rest
        else
          none
  go 0 false text

def decimal? (text : Text) : Option Nat :=
  digits? Char.isDigit 10 text

def cutSign : Text → Bool × Text
  | '-' :: rest => (true, rest)
  | '+' :: rest => (false, rest)
  | text => (false, text)

def isDigitMark (character : Char) : Bool :=
  character.isDigit || character == '_'

def hasLeadingZero : Text → Bool
  | '0' :: _ :: _ => true
  | _ => false

/-- An integer of 64 bits: decimal with a sign, or in another base without one. -/
def integer? (text : Text) : Option Int := do
  let number ← match text with
    | '0' :: 'x' :: rest => (digits? Text.isHexDigit 16 rest).map Int.ofNat
    | '0' :: 'o' :: rest => (digits? (fun digit => '0' ≤ digit && digit ≤ '7') 8 rest).map Int.ofNat
    | '0' :: 'b' :: rest => (digits? (fun digit => digit = '0' || digit = '1') 2 rest).map Int.ofNat
    | _ =>
        let (negative, digits) := cutSign text
        if hasLeadingZero digits then none
        else (decimal? digits).map fun value => if negative then -(value : Int) else value
  if -0x8000000000000000 ≤ number && number < 0x8000000000000000 then some number else none

/-- Whether `digits · 10 ^ exponent` is beyond the largest number of 64-bit floating point, halfway
to the next one included. -/
def overflows (digits : Nat) (exponent : Int) : Bool :=
  let size := (Nat.toDigits 10 digits).length + exponent
  let bound := Nat.pow 2 1024 - Nat.pow 2 970
  if digits = 0 || size < 300 then false
  else if 320 < size then true
  else bound * Nat.pow 10 (-exponent).toNat ≤ digits * Nat.pow 10 exponent.toNat

/-- Whether a text is a float: a decimal number with a fraction, an exponent or both. One that is
too large is refused unless it is negative. -/
def isFloat (text : Text) : Bool :=
  let (negative, rest) := cutSign text
  if rest = ['i', 'n', 'f'] || rest = ['n', 'a', 'n'] then
    true
  else
    let whole := rest.takeWhile isDigitMark
    let (fraction, tail) := match rest.drop whole.length with
      | '.' :: tail =>
          let fraction := tail.takeWhile isDigitMark
          (some fraction, tail.drop fraction.length)
      | tail => (none, tail)
    let exponent : Option (Option Int) := match tail with
      | [] => some none
      | mark :: tail =>
          if mark = 'e' || mark = 'E' then
            let (negative, digits) := cutSign tail
            (decimal? digits).map fun value => some (if negative then -(value : Int) else value)
          else
            none
    let places := (fraction.getD []).countP Char.isDigit
    match decimal? whole, fraction.elim (some 0) decimal?, exponent with
    | some value, some part, some exponent =>
        !hasLeadingZero whole && (fraction.isSome || exponent.isSome) &&
          (negative || !overflows (value * Nat.pow 10 places + part) (exponent.getD 0 - places))
    | _, _, _ => false

/-- The number written with exactly `count` digits at the start of a text. -/
def number? (count : Nat) (text : Text) : Option (Nat × Text) :=
  let digits := text.take count
  if digits.length = count && digits.all Char.isDigit then
    some (digits.foldl (fun value digit => 10 * value + (digit.toNat - 48)) 0, text.drop count)
  else
    none

def daysIn (year month : Nat) : Nat :=
  if month = 2 then
    if year % 4 = 0 && (year % 100 ≠ 0 || year % 400 = 0) then 29 else 28
  else if month = 4 || month = 6 || month = 9 || month = 11 then 30
  else 31

/-- The text after a date that the calendar has. -/
def afterDate? (text : Text) : Option Text := do
  let (year, text) ← number? 4 text
  let (month, text) ← number? 2 (← Text.after? ['-'] text)
  let (day, text) ← number? 2 (← Text.after? ['-'] text)
  if 1 ≤ month && month ≤ 12 && 1 ≤ day && day ≤ daysIn year month then some text else none

/-- The text after a time of the day; a minute may have a leap second. -/
def afterTime? (text : Text) : Option Text := do
  let (hour, text) ← number? 2 text
  let (minute, text) ← number? 2 (← Text.after? [':'] text)
  let (second, text) ← number? 2 (← Text.after? [':'] text)
  if hour ≤ 23 && minute ≤ 59 && second ≤ 60 then
    match text with
    | '.' :: rest =>
        if rest.head?.any Char.isDigit then some (rest.dropWhile Char.isDigit) else none
    | _ => some text
  else
    none

/-- Whether a text is an offset from universal time, or empty. -/
def isOffset : Text → Bool
  | [] | ['Z'] | ['z'] => true
  | sign :: rest =>
      (sign = '+' || sign = '-') &&
        match number? 2 rest with
        | some (hour, ':' :: rest) =>
            match number? 2 rest with
            | some (minute, []) => hour ≤ 23 && minute ≤ 59
            | _ => false
        | _ => false

def isOffsetTime (text : Text) : Bool :=
  (afterTime? text).any isOffset

/-- Whether a text is a date, a time, or both with an optional offset. -/
def isDatetime (text : Text) : Bool :=
  match afterDate? text with
  | some [] => true
  | some (mark :: time) => (mark = 'T' || mark = 't') && isOffsetTime time
  | none => afterTime? text = some []

def isScalarCharacter (character : Char) : Bool :=
  character.isAlphanum || ['+', '-', '.', ':', '_'].contains character

def scalarValue? (text : Text) : Option Value :=
  if text = ['t', 'r', 'u', 'e'] then some (.boolean true)
  else if text = ['f', 'a', 'l', 's', 'e'] then some (.boolean false)
  else
    match integer? text with
    | some number => some (.integer number)
    | none =>
        if isFloat text then some (.float text)
        else if isDatetime text then some (.datetime text)
        else none

/-- Reads a scalar without quotes. A date may be followed by a blank and a time. -/
def scalar? (text : Text) : Option (Value × Text) := do
  let token := text.takeWhile isScalarCharacter
  let rest := text.dropWhile isScalarCharacter
  let value ← scalarValue? token
  match rest with
  | ' ' :: later =>
      if afterDate? token = some [] && later.head?.any Char.isDigit then
        let time := later.takeWhile isScalarCharacter
        if isOffsetTime time then
          some (.datetime (token ++ [' '] ++ time), later.dropWhile isScalarCharacter)
        else
          none
      else
        some (value, rest)
  | _ => some (value, rest)

end CallHierarchy.Toml
