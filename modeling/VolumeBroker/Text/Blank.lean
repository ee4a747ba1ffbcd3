/-!
# Blank text

A text is blank when it holds nothing but characters with the Unicode property `White_Space`.
-/

namespace VolumeBroker

/-- Whether a character is white space. -/
def isSpace (c : Char) : Bool :=
  let code := c.toNat
  (0x09 ≤ code && code ≤ 0x0D) || code == 0x20 || code == 0x85 || code == 0xA0 || code == 0x1680 ||
  (0x2000 ≤ code && code ≤ 0x200A) || code == 0x2028 || code == 0x2029 || code == 0x202F ||
  code == 0x205F || code == 0x3000

/-- Whether a text is empty or holds white space only. -/
def isBlankText (s : String) : Bool := s.toList.all isSpace

@[simp] theorem isBlankText_empty : isBlankText "" = true := by simp [isBlankText]

end VolumeBroker
