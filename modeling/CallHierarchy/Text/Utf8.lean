import CallHierarchy.Text.Basic

/-!
Reading text from its UTF-8 form. Overlong forms, surrogates and codes past U+10FFFF are refused.
-/

namespace CallHierarchy.Text

/-- The six payload bits of a continuation byte. -/
def continuation? (byte : UInt8) : Option Nat :=
  if 0x80 ≤ byte && byte < 0xC0 then some (byte.toNat - 0x80) else none

/-- The character with this code, if the code is one that a sequence of this length may have. -/
def charOf? (least code : Nat) : Option Char :=
  if least ≤ code && code.isValidChar then some (Char.ofNat code) else none

/-- The text whose UTF-8 form is the given list of bytes, if there is one. -/
def ofUtf8? : List UInt8 → Option Text
  | [] => some []
  | first :: rest =>
      if first < 0x80 then
        (ofUtf8? rest).map (Char.ofNat first.toNat :: ·)
      else if first < 0xC0 then
        none
      else if first < 0xE0 then
        match rest with
        | second :: rest => do
            let low ← continuation? second
            let character ← charOf? 0x80 ((first.toNat - 0xC0) * 64 + low)
            (ofUtf8? rest).map (character :: ·)
        | _ => none
      else if first < 0xF0 then
        match rest with
        | second :: third :: rest => do
            let high ← continuation? second
            let low ← continuation? third
            let character ← charOf? 0x800 (((first.toNat - 0xE0) * 64 + high) * 64 + low)
            (ofUtf8? rest).map (character :: ·)
        | _ => none
      else if first < 0xF8 then
        match rest with
        | second :: third :: fourth :: rest => do
            let high ← continuation? second
            let middle ← continuation? third
            let low ← continuation? fourth
            let character ←
              charOf? 0x10000 ((((first.toNat - 0xF0) * 64 + high) * 64 + middle) * 64 + low)
            (ofUtf8? rest).map (character :: ·)
        | _ => none
      else
        none

end CallHierarchy.Text
