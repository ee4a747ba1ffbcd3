/-!
# Bytes as text

`Utf8.decode` reads bytes one by one. A byte that cannot continue the character begun before it ends
that character's part of the text as ill-formed and is then read as a first byte; an unfinished
character at the end is ill-formed too. The strict reading `Utf8.decode?` refuses ill-formed parts
and the lenient `Utf8.decodeLossy` puts the replacement character `U+FFFD` for each.
-/

namespace VolumeBroker

namespace Utf8

/-- The bytes of a text. -/
def bytes (text : String) : List UInt8 := text.toUTF8.data.toList

/-- A character of which bytes are missing. -/
structure Pending where
  /-- How many bytes are missing. -/
  missing : Nat
  /-- The bits of the bytes so far. -/
  code : Nat
  /-- The least next byte. -/
  low : Nat
  /-- The greatest next byte. -/
  high : Nat

/-- Reads a byte between characters: what it completes, and what it begins. -/
def first (byte : Nat) : List (Option Char) × Option Pending :=
  if byte < 0x80 then ([some (Char.ofNat byte)], none)
  else if byte < 0xC2 then ([none], none)
  else if byte < 0xE0 then ([], some ⟨1, byte - 0xC0, 0x80, 0xBF⟩)
  else if byte = 0xE0 then ([], some ⟨2, 0, 0xA0, 0xBF⟩)
  else if byte = 0xED then ([], some ⟨2, 0xD, 0x80, 0x9F⟩)
  else if byte < 0xF0 then ([], some ⟨2, byte - 0xE0, 0x80, 0xBF⟩)
  else if byte = 0xF0 then ([], some ⟨3, 0, 0x90, 0xBF⟩)
  else if byte < 0xF4 then ([], some ⟨3, byte - 0xF0, 0x80, 0xBF⟩)
  else if byte = 0xF4 then ([], some ⟨3, 4, 0x80, 0x8F⟩)
  else ([none], none)

/-- Reads a byte: what it completes, and what is pending behind it. -/
def next (pending : Option Pending) (byte : Nat) : List (Option Char) × Option Pending :=
  match pending with
  | none => first byte
  | some p =>
    if p.low ≤ byte ∧ byte ≤ p.high then
      let code := p.code * 64 + (byte - 0x80)
      if p.missing ≤ 1 then ([some (Char.ofNat code)], none)
      else ([], some ⟨p.missing - 1, code, 0x80, 0xBF⟩)
    else
      let (parts, pending) := first byte
      (none :: parts, pending)

/-- The characters of bytes, with `none` for each ill-formed part. -/
def decodeFrom (pending : Option Pending) : List UInt8 → List (Option Char)
  | [] => if pending.isSome then [none] else []
  | byte :: rest =>
    let (parts, pending) := next pending byte.toNat
    parts ++ decodeFrom pending rest

/-- The characters of bytes, with `none` for each ill-formed part. -/
def decode (bytes : List UInt8) : List (Option Char) := decodeFrom none bytes

/-- The text of bytes without ill-formed parts. -/
def decode? (bytes : List UInt8) : Option String :=
  ((decode bytes).mapM id).map String.ofList

/-- The text of bytes, each ill-formed part replaced. -/
def decodeLossy (bytes : List UInt8) : String :=
  String.ofList ((decode bytes).map fun c => c.getD '\uFFFD')

end Utf8

end VolumeBroker
