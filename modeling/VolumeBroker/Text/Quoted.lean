import VolumeBroker.Text.Visible
/-!
# Quoted text in messages

`quoted` shows a string inside a message: between quotes, with the quote, the backslash and the
common control characters escaped by a letter and every other invisible character by its number.
-/

namespace VolumeBroker

/-- A character inside quoted text. -/
def quotedChar (c : Char) : String :=
  if c = '"' then "\\\""
  else if c = '\\' then "\\\\"
  else if c = '\n' then "\\n"
  else if c = '\r' then "\\r"
  else if c = '\t' then "\\t"
  else if c = '\x00' then "\\0"
  else if isVisible c then c.toString
  else "\\u\x7b" ++ String.ofList (Nat.toDigits 16 c.toNat) ++ "\x7d"

/-- A string as it is shown inside a message. -/
def quoted (s : String) : String :=
  "\"" ++ s.toList.foldl (fun text c => text ++ quotedChar c) "" ++ "\""

end VolumeBroker
