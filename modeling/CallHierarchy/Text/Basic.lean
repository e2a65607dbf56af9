/-!
Text, its two measures, and what is found in it. A text is a list of characters; an offset into it
counts the bytes of its UTF-8 form, and a column counts the units of its UTF-16 form. Cutting is
partial: an offset inside a character, or past the end, is not a place to cut. Occurrences of a word
are found from left to right without overlap, and are given by offsets too. Blanks are the characters
with the Unicode property `White_Space`, and hexadecimal digits may be of either case.
-/

namespace CallHierarchy

abbrev Text := List Char

namespace Text

/-- The number of bytes of the UTF-8 form. -/
def byteLength (text : Text) : Nat :=
  text.foldr (fun character length => character.utf8Size + length) 0

/-- The two parts before and after a byte offset, if the offset falls between characters. -/
def splitAtByte? : Text → Nat → Option (Text × Text)
  | text, 0 => some ([], text)
  | [], _ + 1 => none
  | first :: rest, offset + 1 =>
      if first.utf8Size ≤ offset + 1 then
        (splitAtByte? rest (offset + 1 - first.utf8Size)).map fun parts =>
          (first :: parts.1, parts.2)
      else
        none

@[simp] theorem byteLength_nil : byteLength [] = 0 :=
  rfl

@[simp] theorem byteLength_cons
    (first : Char) (rest : Text) :
    byteLength (first :: rest) = first.utf8Size + byteLength rest :=
  rfl

@[simp] theorem byteLength_append
    (left right : Text) :
    byteLength (left ++ right) = byteLength left + byteLength right := by
  induction left with
  | nil => rw [List.nil_append, byteLength_nil, Nat.zero_add]
  | cons first rest inductionHypothesis =>
      rw [List.cons_append, byteLength_cons, byteLength_cons, inductionHypothesis, Nat.add_assoc]

/-- A text is cut in two after the bytes of its first part. -/
theorem splitAtByte?_append
    (left right : Text) :
    splitAtByte? (left ++ right) (byteLength left) = some (left, right) := by
  induction left with
  | nil => cases right <;> rfl
  | cons first rest inductionHypothesis =>
      have positive : 0 < first.utf8Size := Char.utf8Size_pos first
      obtain ⟨size, sizeEq⟩ : ∃ size, first.utf8Size + byteLength rest = size + 1 :=
        ⟨first.utf8Size + byteLength rest - 1, by omega⟩
      rw [List.cons_append, byteLength_cons, sizeEq, splitAtByte?, if_pos (by omega)]
      have restEq : size + 1 - first.utf8Size = byteLength rest := by omega
      rw [restEq, inductionHypothesis]
      rfl

/-- The two parts of a cut make up the text, and the first one fills the offset. -/
theorem eq_append_of_splitAtByte?
    {text left right : Text} {offset : Nat}
    (split : splitAtByte? text offset = some (left, right)) :
    text = left ++ right ∧ byteLength left = offset := by
  induction text, offset using splitAtByte?.induct generalizing left with
  | case1 text =>
      rw [splitAtByte?] at split
      cases split
      exact ⟨rfl, rfl⟩
  | case2 offset =>
      rw [splitAtByte?] at split
      cases split
  | case3 first rest offset fits inductionHypothesis =>
      rw [splitAtByte?, if_pos fits] at split
      obtain ⟨⟨before, behind⟩, splitRest, parts⟩ := Option.map_eq_some_iff.1 split
      cases parts
      obtain ⟨restEq, lengthEq⟩ := inductionHypothesis splitRest
      refine ⟨?_, ?_⟩
      · rw [List.cons_append, ← restEq]
      · rw [byteLength_cons, lengthEq]
        omega
  | case4 first rest offset tooShort =>
      rw [splitAtByte?, if_neg tooShort] at split
      cases split

/-- An offset is a boundary when it falls between characters, or at either end. -/
def isBoundary (text : Text) (offset : Nat) : Bool :=
  (splitAtByte? text offset).isSome

/-- The part from `start` up to `stop`, if both are boundaries in this order. -/
def slice? (text : Text) (start stop : Nat) : Option Text :=
  if start ≤ stop then do
    let (_, tail) ← splitAtByte? text start
    let (middle, _) ← splitAtByte? tail (stop - start)
    some middle
  else
    none

/-- The largest boundary that is not above `offset`. -/
def floorBoundary : Text → Nat → Nat
  | [], _ => 0
  | first :: rest, offset =>
      if first.utf8Size ≤ offset then
        first.utf8Size + floorBoundary rest (offset - first.utf8Size)
      else
        0

/-- The largest line or column that a position holds. -/
def countLimit : Nat := 4294967295

def saturate (count : Nat) : Nat :=
  min count countLimit

/-- The number of UTF-16 units of a character: two outside the basic plane. -/
def unitCount (character : Char) : Nat :=
  if character.toNat < 0x10000 then 1 else 2

def unitLength (text : Text) : Nat :=
  text.foldr (fun character length => unitCount character + length) 0

/-- The UTF-16 length as it is stored in a position. -/
def columnCount (text : Text) : Nat :=
  saturate (unitLength text)

/-- The byte offset of the first boundary with at least `column` units before it, or the end. -/
def columnOffset : Text → Nat → Nat
  | [], _ => 0
  | _ :: _, 0 => 0
  | first :: rest, column + 1 =>
      first.utf8Size + columnOffset rest (column + 1 - unitCount first)

def dropFinal (character : Char) (text : Text) : Text :=
  if text.getLast? = some character then text.dropLast else text

/-- Whether `beginning` starts the text, and what follows it. -/
def after? : (beginning : Text) → Text → Option Text
  | [], text => some text
  | _ :: _, [] => none
  | expected :: beginning, first :: rest =>
      if expected = first then after? beginning rest else none

def splitOn (separator : Char) : Text → List Text
  | [] => [[]]
  | first :: rest =>
      if first = separator then
        [] :: splitOn separator rest
      else
        match splitOn separator rest with
        | [] => [[first]]
        | piece :: pieces => (first :: piece) :: pieces

/-- The text before the first `separator`, and the text after it if there is one. -/
def cut (separator : Char) (text : Text) : Text × Option Text :=
  match text.dropWhile (· ≠ separator) with
  | [] => (text, none)
  | _ :: rest => (text.takeWhile (· ≠ separator), some rest)

/-- The offsets of `word` in `text`, the first character of which stands at `offset`. While an
occurrence is being passed, `skipped` counts the characters of it that are still ahead. -/
def occurrencesFrom (word : Text) : (text : Text) → (offset skipped : Nat) → List Nat
  | [], _, _ => []
  | first :: rest, offset, skipped + 1 =>
      occurrencesFrom word rest (offset + first.utf8Size) skipped
  | first :: rest, offset, 0 =>
      if word.isPrefixOf (first :: rest) then
        offset :: occurrencesFrom word rest (offset + first.utf8Size) (word.length - 1)
      else
        occurrencesFrom word rest (offset + first.utf8Size) 0

/-- The offsets of the leftmost occurrences of a non-empty `word` that do not overlap. -/
def occurrences (word text : Text) : List Nat :=
  occurrencesFrom word text 0 0

def inRanges (ranges : List (Nat × Nat)) (code : Nat) : Bool :=
  ranges.any fun range => range.1 ≤ code && code ≤ range.2

/-- The characters with the property `White_Space`. -/
def isBlank (character : Char) : Bool :=
  let code := character.toNat
  (0x09 ≤ code && code ≤ 0x0D) || code == 0x20 || code == 0x85 || code == 0xA0 ||
    code == 0x1680 || (0x2000 ≤ code && code ≤ 0x200A) || code == 0x2028 || code == 0x2029 ||
    code == 0x202F || code == 0x205F || code == 0x3000

def trim (text : Text) : Text :=
  ((text.dropWhile isBlank).reverse.dropWhile isBlank).reverse

def hexDigit? (digit : Char) : Option Nat :=
  if digit.isDigit then some (digit.toNat - 48)
  else if 'a' ≤ digit && digit ≤ 'f' then some (digit.toNat - 87)
  else if 'A' ≤ digit && digit ≤ 'F' then some (digit.toNat - 55)
  else none

def isHexDigit (character : Char) : Bool :=
  (hexDigit? character).isSome

def hexValue (digit : Char) : Nat :=
  (hexDigit? digit).getD 0

def hexCharacter? (digits : Text) : Option Char := do
  let values ← digits.mapM hexDigit?
  let code := values.foldl (fun code value => 16 * code + value) 0
  if code.isValidChar then some (Char.ofNat code) else none

end Text

end CallHierarchy
