import VolumeBroker.Text.Utf8
/-!
# Contents

What a file or the body of a message holds. Most of it is text, and text is taken as it is; whoever
reads the rest decides what bytes that are no text are worth.
-/

namespace VolumeBroker

/-- What a file or a body holds. -/
inductive Content where
  | text (text : String)
  /-- Bytes that are no text. -/
  | bytes (bytes : List UInt8)
deriving DecidableEq, Repr

namespace Content

instance : Coe String Content := ⟨.text⟩

/-- How many bytes there are. -/
def size : Content → Nat
  | text s => s.utf8ByteSize
  | bytes b => b.length

end Content

end VolumeBroker
