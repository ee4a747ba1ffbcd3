import VolumeBroker.Json.Basic
import VolumeBroker.Number.Shortest
/-!
# JSON text

`Json.compact` writes a value without blanks and `Json.pretty` over several lines, each level
indented by two blanks. In strings only the quote, the backslash and the control characters below
`U+0020` are escaped. A float is written with the fewest digits that read back: positionally, with
at least one decimal place, from `1e-5` to below `1e16`, and with an exponent otherwise.
-/

namespace VolumeBroker

namespace Json

/-- The four lower-case hexadecimal digits of a code below `2 ^ 16`. -/
def hexQuad (code : Nat) : String :=
  let digits := Nat.toDigits 16 code
  String.ofList (List.replicate (4 - digits.length) '0' ++ digits)

/-- A character inside a quoted string. -/
def escapeChar (c : Char) : String :=
  if c = '"' then "\\\""
  else if c = '\\' then "\\\\"
  else if c = '\n' then "\\n"
  else if c = '\r' then "\\r"
  else if c = '\t' then "\\t"
  else if c = '\x08' then "\\b"
  else if c = '\x0c' then "\\f"
  else if c.toNat < 0x20 then "\\u" ++ hexQuad c.toNat
  else c.toString

/-- A string between quotes. -/
def quote (s : String) : String :=
  "\"" ++ s.toList.foldl (fun text c => text ++ escapeChar c) "" ++ "\""

end Json

/-! ### Numbers -/

namespace Binary64

/-- The digits of a decimal as text, positional or with an exponent by its magnitude. -/
def renderDecimal (d : Decimal) : String :=
  let digits := (Nat.repr d.digits).toList
  let length : Int := digits.length
  let point := length + d.exponent
  if 0 ≤ d.exponent ∧ point ≤ 16 then
    String.ofList (digits ++ List.replicate d.exponent.toNat '0' ++ ['.', '0'])
  else if 0 < point ∧ point ≤ 16 then
    String.ofList (digits.take point.toNat ++ ['.'] ++ digits.drop point.toNat)
  else if -5 < point ∧ point ≤ 0 then
    String.ofList (['0', '.'] ++ List.replicate (-point).toNat '0' ++ digits)
  else
    let mantissa := match digits with
      | first :: second :: rest => first :: '.' :: second :: rest
      | short => short
    String.ofList mantissa ++ "e" ++ toString (point - 1)

/-- The text of a float. -/
def render (x : Binary64) : String :=
  (if x.negative then "-" else "") ++ if x.isZero then "0.0" else renderDecimal x.shortest

end Binary64

/-- The text of a number. -/
def Number.render : Number → String
  | .int value => toString value
  | .real value => value.render

namespace Json

/-! ### Compact text -/

mutual

/-- The text of a value without blanks. -/
def compact : Json → String
  | .null => "null"
  | .bool true => "true"
  | .bool false => "false"
  | .number n => n.render
  | .str s => quote s
  | .arr items => "[" ++ compactItems items ++ "]"
  | .obj members => "\x7b" ++ compactMembers members ++ "\x7d"

/-- The items of an array, separated by commas. -/
def compactItems : List Json → String
  | [] => ""
  | [item] => compact item
  | item :: rest => compact item ++ "," ++ compactItems rest

/-- The members of an object, separated by commas. -/
def compactMembers : List (String × Json) → String
  | [] => ""
  | [(key, value)] => quote key ++ ":" ++ compact value
  | (key, value) :: rest => quote key ++ ":" ++ compact value ++ "," ++ compactMembers rest

end

/-! ### Text over several lines -/

/-- A line break and the indentation of a level. -/
def lineBreak (level : Nat) : String := "\n" ++ String.ofList (List.replicate (2 * level) ' ')

mutual

/-- The text of a value on a level, its containers spread over several lines. -/
def prettyAt (level : Nat) : Json → String
  | .arr [] => "[]"
  | .obj [] => "\x7b\x7d"
  | .arr items => "[" ++ prettyItems (level + 1) items ++ lineBreak level ++ "]"
  | .obj members => "\x7b" ++ prettyMembers (level + 1) members ++ lineBreak level ++ "\x7d"
  | .null => "null"
  | .bool true => "true"
  | .bool false => "false"
  | .number n => n.render
  | .str s => quote s

/-- The items of an array, each on a line of its own. -/
def prettyItems (level : Nat) : List Json → String
  | [] => ""
  | [item] => lineBreak level ++ prettyAt level item
  | item :: rest => lineBreak level ++ prettyAt level item ++ "," ++ prettyItems level rest

/-- The members of an object, each on a line of its own. -/
def prettyMembers (level : Nat) : List (String × Json) → String
  | [] => ""
  | [(key, value)] => lineBreak level ++ quote key ++ ": " ++ prettyAt level value
  | (key, value) :: rest =>
    lineBreak level ++ quote key ++ ": " ++ prettyAt level value ++ "," ++ prettyMembers level rest

end

@[simp] theorem prettyAt_null (level : Nat) : prettyAt level .null = "null" := by rw [prettyAt]

/-- The text of a value over several lines. -/
def pretty (value : Json) : String := prettyAt 0 value

end Json

end VolumeBroker
