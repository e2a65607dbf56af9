import CallHierarchy.Text.Basic

/-!
Characters in ASCII letters and digits. The ASCII characters of a text come first, then, behind a
dash, the others in the order of their codes: each is a number that says how far its code and its
place lie behind those of the last one, in digits of base 36 that adapt to the size of the
numbers.
-/

namespace CallHierarchy.DomainName.Punycode

/-- The value of a digit: letters come before the digits. -/
def digitValue? (digit : Char) : Option Nat :=
  if 'a' ≤ digit && digit ≤ 'z' then some (digit.toNat - 97)
  else if '0' ≤ digit && digit ≤ '9' then some (digit.toNat - 22)
  else none

/-- A digit below the threshold is the last one of its number. -/
def threshold (place bias : Nat) : Nat :=
  if place ≤ bias then 1 else if bias + 26 ≤ place then 26 else place - bias

/-- The bias for a number after it was divided by 35 until it is small. -/
def settle : (fuel : Nat) → (number place : Nat) → Nat
  | 0, _, place => place
  | fuel + 1, number, place =>
      if 455 < number then settle fuel (number / 35) (place + 36)
      else place + 36 * number / (number + 38)

/-- The bias for the next number, given the last one and how many characters there are now. -/
def adapt (number count : Nat) (isFirst : Bool) : Nat :=
  let scaled := if isFirst then number / 700 else number / 2
  settle scaled (scaled + scaled / count) 0

/-- Numbers are kept in 32 bits. -/
def numberLimit : Nat := 4294967295

def number? (bias : Nat) : Text → (place weight sum : Nat) → Option (Nat × Text)
  | [], _, _, _ => none
  | first :: rest, place, weight, sum => do
      let digit ← digitValue? first
      let total := sum + digit * weight
      if numberLimit < total then none
      else if digit < threshold place bias then some (total, rest)
      else
        let next := weight * (36 - threshold place bias)
        if numberLimit < next then none else number? bias rest (place + 36) next total

def insertAll : (fuel : Nat) → (bias code start : Nat) → (decoded : Text) → Text → Option Text
  | 0, _, _, _, decoded, rest => if rest.isEmpty then some decoded else none
  | _ + 1, _, _, _, decoded, [] => some decoded
  | fuel + 1, bias, code, start, decoded, text => do
      let (sum, rest) ← number? bias text 36 1 start
      let count := decoded.length + 1
      let next := code + sum / count
      let place := sum % count
      if next.isValidChar then
        insertAll fuel (adapt (sum - start) count (start = 0)) next (place + 1)
          (decoded.take place ++ Char.ofNat next :: decoded.drop place) rest
      else
        none

/-- The text that an ASCII text stands for. The last dash divides it, unless it comes first. -/
def decode? (text : Text) : Option Text :=
  match Text.cut '-' text.reverse with
  | (_, none) | (_, some []) => insertAll text.length 72 128 0 [] text
  | (numbers, some ascii) => insertAll text.length 72 128 0 ascii.reverse numbers.reverse

end CallHierarchy.DomainName.Punycode
