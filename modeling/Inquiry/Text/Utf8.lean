/-!
Bytes as text. Strict reading refuses bytes that are not UTF-8; lossy reading puts a replacement
character in the place of each longest run of bytes that begins a character and does not end it.
-/
namespace Inquiry.Utf8

def encode (text : String) : ByteArray := text.toUTF8

def decode? (bytes : ByteArray) : Option String := String.fromUTF8? bytes

/-- A character begun: its bits so far, the bytes still to come and the bounds of the next one. -/
structure Begun where
  bits : Nat
  missing : Nat
  low : UInt8
  high : UInt8

def replacement : Char := '\uFFFD'

inductive First where
  | whole (c : Char)
  | begins (state : Begun)
  | invalid

def first (byte : UInt8) : First :=
  let n := byte.toNat
  if n < 0x80 then .whole (Char.ofNat n)
  else if n < 0xC2 then .invalid
  else if n < 0xE0 then .begins ⟨n - 0xC0, 1, 0x80, 0xBF⟩
  else if n = 0xE0 then .begins ⟨0, 2, 0xA0, 0xBF⟩
  else if n = 0xED then .begins ⟨0xD, 2, 0x80, 0x9F⟩
  else if n < 0xF0 then .begins ⟨n - 0xE0, 2, 0x80, 0xBF⟩
  else if n = 0xF0 then .begins ⟨0, 3, 0x90, 0xBF⟩
  else if n < 0xF4 then .begins ⟨n - 0xF0, 3, 0x80, 0xBF⟩
  else if n = 0xF4 then .begins ⟨4, 3, 0x80, 0x8F⟩
  else .invalid

def lossyAfter (state : Option Begun) : List UInt8 → List Char
  | [] => if state.isSome then [replacement] else []
  | byte :: rest =>
    let restart :=
      match first byte with
      | .whole c => c :: lossyAfter none rest
      | .begins next => lossyAfter (some next) rest
      | .invalid => replacement :: lossyAfter none rest
    match state with
    | none => restart
    | some begun =>
      if begun.low ≤ byte && byte ≤ begun.high then
        let bits := 64 * begun.bits + byte.toNat % 64
        if begun.missing ≤ 1 then Char.ofNat bits :: lossyAfter none rest
        else lossyAfter (some ⟨bits, begun.missing - 1, 0x80, 0xBF⟩) rest
      else replacement :: restart

def lossy (bytes : ByteArray) : String := String.ofList (lossyAfter none bytes.toList)

end Inquiry.Utf8
