import VolumeBroker.Text.Split
import VolumeBroker.Text.Utf8
/-!
# Percent-encoded text

In a path segment `%` and two hexadecimal digits stand for a byte; a `%` without them stands for
itself. The bytes must be text. A query is a list of pairs `name=value` between ampersands, in which
a plus sign also stands for a blank and bytes that are no text are replaced.
-/

namespace VolumeBroker

namespace Percent

/-- The value of a hexadecimal digit. -/
def digit? (byte : UInt8) : Option UInt8 :=
  if '0'.toUInt8 ≤ byte ∧ byte ≤ '9'.toUInt8 then some (byte - '0'.toUInt8)
  else if 'a'.toUInt8 ≤ byte ∧ byte ≤ 'f'.toUInt8 then some (byte - 'a'.toUInt8 + 10)
  else if 'A'.toUInt8 ≤ byte ∧ byte ≤ 'F'.toUInt8 then some (byte - 'A'.toUInt8 + 10)
  else none

/-- The byte that an escape at the front stands for, if there is one. -/
def escape? (byte : UInt8) : List UInt8 → Option UInt8
  | high :: low :: _ => do
    if byte ≠ '%'.toUInt8 then none
    let high ← digit? high
    let low ← digit? low
    some (high * 16 + low)
  | _ => none

/-- The bytes that percent-encoded bytes stand for, behind `used` bytes that are read already. -/
def decodeBehind : Nat → List UInt8 → List UInt8
  | _, [] => []
  | used + 1, _ :: rest => decodeBehind used rest
  | 0, byte :: rest =>
    match escape? byte rest with
    | some value => value :: decodeBehind 2 rest
    | none => byte :: decodeBehind 0 rest

/-- The bytes that percent-encoded bytes stand for. -/
def decode (encoded : List UInt8) : List UInt8 := decodeBehind 0 encoded

/-- The text of a path segment, if its bytes are text. -/
def segment? (s : String) : Option String := Utf8.decode? (decode (Utf8.bytes s))

/-- The text of a name or value in a query. -/
def formText (s : List Char) : String :=
  Utf8.decodeLossy (decode (Utf8.bytes (String.ofList (s.map fun c => if c = '+' then ' ' else c))))

/-- The pairs of a query in their order; a pair without an equals sign has an empty value. -/
def queryPairs (query : String) : List (String × String) :=
  ((Split.splitAt '&' query.toList).filter fun pair => !pair.isEmpty).map fun pair =>
    let (name, value) := Split.cut '=' pair
    (formText name, formText (value.getD []))

end Percent

end VolumeBroker
