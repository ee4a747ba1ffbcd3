import VolumeBroker.Json.Numeral
import VolumeBroker.Json.Source
import VolumeBroker.Text.Content
/-!
# Reading JSON text

`Document.ofText` turns any text into a `Source`, keeping each failure at the place where it is met.
Behind a failure that also stops a skipping reader nothing is read: the functions here return the
rest of the text only while there is something left to read. `Document.ofText` limits nesting to 127
containers, as readers of untrusted text do; `Json.ofText?` has no such limit. `Document.ofContent`
reads bytes as well: of those that are no text the ill-formed parts are failures like any other.
-/

namespace VolumeBroker

namespace Reader

/-- Whether a character is blank in JSON text. -/
def isBlank (c : Char) : Bool := c == ' ' || c == '\n' || c == '\t' || c == '\r'

/-- The text without leading blanks. -/
def skipBlanks : List Char → List Char
  | [] => []
  | c :: rest => if isBlank c then skipBlanks rest else c :: rest

/-- What was read, and the text behind it unless a failure stops all reading there. -/
structure Step where
  /-- The node that was read. -/
  node : Source
  /-- The rest of the text; `none` behind a failure. -/
  rest : Option (List Char)

/-- A step that stops all reading. -/
def halt (fault : Fault) : Step := ⟨.stop fault, none⟩

/-! ### Words -/

/-- Reads the remaining characters of a word and gives its node. -/
def readWord (node : Source) : List Char → List Char → Step
  | [], rest => ⟨node, some rest⟩
  | _ :: _, [] => halt .truncated
  | expected :: word, c :: rest => if c = expected then readWord node word rest else halt .malformed

/-! ### Strings -/

/-- The value of a hexadecimal digit. -/
def hexDigit? (c : Char) : Option Nat :=
  if '0' ≤ c ∧ c ≤ '9' then some (c.toNat - '0'.toNat)
  else if 'a' ≤ c ∧ c ≤ 'f' then some (c.toNat - 'a'.toNat + 10)
  else if 'A' ≤ c ∧ c ≤ 'F' then some (c.toNat - 'A'.toNat + 10)
  else none

/-- The value of four hexadecimal digits. -/
def hexQuad? (a b c d : Char) : Option Nat := do
  let a ← hexDigit? a
  let b ← hexDigit? b
  let c ← hexDigit? c
  let d ← hexDigit? d
  some (((a * 16 + b) * 16 + c) * 16 + d)

/-- The number of bytes that characters take up. -/
def byteLength (text : List Char) : Nat := text.foldl (fun n c => n + c.utf8Size) 0

/-- The failure of a hexadecimal escape that fewer than four characters follow. -/
def shortEscape (text : List Char) : Fault :=
  if byteLength text < 4 then .truncated else .malformed

/-- The character of an escape letter. -/
def escapeLetter? (c : Char) : Option Char :=
  if c = '"' ∨ c = '\\' ∨ c = '/' then some c
  else if c = 'b' then some '\x08'
  else if c = 'f' then some '\x0c'
  else if c = 'n' then some '\n'
  else if c = 'r' then some '\r'
  else if c = 't' then some '\t'
  else none

/-- Skips to the end of a string; surrogates need no partner here. -/
def skipString : List Char → Except Fault (List Char)
  | [] => .error .truncated
  | '"' :: rest => .ok rest
  | '\\' :: 'u' :: a :: b :: c :: d :: rest =>
    if (hexQuad? a b c d).isSome then skipString rest else .error .malformed
  | '\\' :: 'u' :: rest => .error (shortEscape rest)
  | '\\' :: c :: rest => if (escapeLetter? c).isSome then skipString rest else .error .malformed
  | ['\\'] => .error .truncated
  | c :: rest => if c.toNat < 0x20 then .error .malformed else skipString rest

/-- The outcome of reading a string. -/
inductive Scanned where
  /-- Its characters, and the rest of the text. -/
  | done (characters : List Char) (rest : List Char)
  /-- It cannot be read; skipping it reaches the rest of the text. -/
  | garbled (rest : List Char)
  /-- It cannot be read, nor skipped. -/
  | stopped (onRead onSkip : Fault)

/-- A string that cannot be read, from the place on where only skipping goes on. -/
def Scanned.spoilt (onRead : Fault) (rest : List Char) : Scanned :=
  match skipString rest, onRead with
  | .ok rest, _ => .garbled rest
  | .error onSkip, onRead => .stopped onRead onSkip

/-- The character of a surrogate pair. -/
def pairedSurrogates (high low : Nat) : Char :=
  Char.ofNat ((high - 0xD800) * 0x400 + (low - 0xDC00) + 0x10000)

/-- Reads a string up to its closing quote; `read` holds its characters so far, last first. -/
def readString (read : List Char) : List Char → Scanned
  | [] => .stopped .truncated .truncated
  | '"' :: rest => .done read.reverse rest
  | '\\' :: 'u' :: a :: b :: c :: d :: rest =>
    match hexQuad? a b c d with
    | none => .stopped .malformed .malformed
    | some code =>
      -- a low surrogate stands alone only if no high one has been read
      if 0xDC00 ≤ code ∧ code ≤ 0xDFFF then .spoilt .malformed rest
      else if 0xD800 ≤ code ∧ code ≤ 0xDBFF then
        match rest with
        -- behind a high surrogate only an escaped low one may stand
        | '\\' :: 'u' :: e :: f :: g :: h :: behind =>
          match hexQuad? e f g h with
          | none => .spoilt .malformed rest
          | some low =>
            if 0xDC00 ≤ low ∧ low ≤ 0xDFFF then readString (pairedSurrogates code low :: read) behind
            else .spoilt .malformed rest
        | '\\' :: 'u' :: short => .spoilt (shortEscape short) rest
        | [] => .spoilt .truncated rest
        | ['\\'] => .spoilt .truncated rest
        | _ => .spoilt .malformed rest
      else readString (Char.ofNat code :: read) rest
  | '\\' :: 'u' :: rest => .stopped (shortEscape rest) (shortEscape rest)
  | '\\' :: c :: rest =>
    match escapeLetter? c with
    | some c => readString (c :: read) rest
    | none => .stopped .malformed .malformed
  | ['\\'] => .stopped .truncated .truncated
  | c :: rest => if c.toNat < 0x20 then .stopped .malformed .malformed else readString (c :: read) rest

/-! ### Numbers -/

/-- Whether a character is a decimal digit. -/
def isDigit (c : Char) : Bool := '0' ≤ c && c ≤ '9'

/-- The leading digits of a text, and the rest. -/
def takeDigits : List Char → List Nat × List Char
  | [] => ([], [])
  | c :: rest =>
    if isDigit c then
      let (digits, rest) := takeDigits rest
      ((c.toNat - '0'.toNat) :: digits, rest)
    else ([], c :: rest)

/-- A failure where a digit is missing: the end of the text counts as such only for readers. -/
def missingDigit (rest : List Char) : Step :=
  if rest.isEmpty then ⟨.broken .truncated (some .malformed), none⟩ else halt .malformed

/-- The node of a numeral. -/
def numeralStep (n : Numeral) (rest : List Char) : Step :=
  match n.value? with
  | some value => ⟨.number value, some rest⟩
  | none => ⟨.broken .malformed none, some rest⟩

/-- Reads the exponent of a numeral, if it has one. -/
def readExponent (n : Numeral) : List Char → Step
  | c :: rest =>
    if c = 'e' ∨ c = 'E' then
      -- a plus sign is the same as none
      let (down, rest) := match rest with
        | '-' :: rest => (true, rest)
        | '+' :: rest => (false, rest)
        | rest => (false, rest)
      let (digits, rest) := takeDigits rest
      if digits.isEmpty then missingDigit rest
      else numeralStep { n with exponent := some (down, digits) } rest
    else numeralStep n (c :: rest)
  | [] => numeralStep n []

/-- Reads the fraction of a numeral, if it has one, and its exponent. -/
def readFraction (n : Numeral) : List Char → Step
  | '.' :: rest =>
    let (digits, rest) := takeDigits rest
    if digits.isEmpty then missingDigit rest
    else readExponent { n with fraction := some digits } rest
  | rest => readExponent n rest

/-- Reads a numeral behind its sign. -/
def readUnsigned (negative : Bool) (text : List Char) : Step :=
  let (digits, rest) := takeDigits text
  match digits with
  | [] => missingDigit rest
  -- no digit follows a leading zero
  | 0 :: _ :: _ => halt .malformed
  | whole => readFraction ⟨negative, whole, none, none⟩ rest

/-- Reads a numeral. -/
def readNumeral : List Char → Step
  | '-' :: rest => readUnsigned true rest
  | text => readUnsigned false text

/-! ### Values -/

/-- The items of an array or the members of an object, the failure behind them, and the rest. -/
structure Sequence (α : Type) where
  /-- What was read. -/
  entries : List α
  /-- How the text fails behind the entries. -/
  failure : Option Fault
  /-- The rest of the text; `none` behind a failure. -/
  rest : Option (List Char)

/-- One more entry in front. -/
def Sequence.cons {α : Type} (entry : α) (s : Sequence α) : Sequence α :=
  { s with entries := entry :: s.entries }

mutual

/-- Reads a value. -/
def readValue : Nat → List Char → Step
  | 0, _ => halt .truncated
  | fuel + 1, text =>
    match skipBlanks text with
    | [] => halt .truncated
    | 'n' :: rest => readWord .null ['u', 'l', 'l'] rest
    | 't' :: rest => readWord (.bool true) ['r', 'u', 'e'] rest
    | 'f' :: rest => readWord (.bool false) ['a', 'l', 's', 'e'] rest
    | '"' :: rest =>
      match readString [] rest with
      | .done characters rest => ⟨.str (String.ofList characters), some rest⟩
      | .garbled rest => ⟨.broken .malformed none, some rest⟩
      | .stopped onRead onSkip => ⟨.broken onRead (some onSkip), none⟩
    | '[' :: rest =>
      match skipBlanks rest with
      | ']' :: rest => ⟨.arr [] none, some rest⟩
      | [] => ⟨.arr [] (some .truncated), none⟩
      | rest =>
        let items := readItems fuel rest
        ⟨.arr items.entries items.failure, items.rest⟩
    | '\x7b' :: rest =>
      match skipBlanks rest with
      | '\x7d' :: rest => ⟨.obj [] none, some rest⟩
      | [] => ⟨.obj [] (some .truncated), none⟩
      | '"' :: rest =>
        let members := readMembers fuel rest
        ⟨.obj members.entries members.failure, members.rest⟩
      -- readers ask for a key first and fail at whatever stands there
      | rest => ⟨.keyless (readValue fuel rest).node, none⟩
    | c :: rest => if c = '-' ∨ isDigit c then readNumeral (c :: rest) else halt .malformed

/-- Reads the items of an array from the first one on. -/
def readItems : Nat → List Char → Sequence Source
  | 0, _ => ⟨[], some .truncated, none⟩
  | fuel + 1, text =>
    let step := readValue fuel text
    match step.rest with
    | none => ⟨[step.node], none, none⟩
    | some rest =>
      match skipBlanks rest with
      | [] => ⟨[step.node], some .truncated, none⟩
      | ']' :: rest => ⟨[step.node], none, some rest⟩
      | ',' :: rest => (readItems fuel rest).cons step.node
      | _ => ⟨[step.node], some .malformed, none⟩

/-- Reads the members of an object, the quote of the first key being read. -/
def readMembers : Nat → List Char → Sequence (Key × Source)
  | 0, _ => ⟨[], some .truncated, none⟩
  | fuel + 1, text =>
    match readString [] text with
    | .done characters rest => readMember fuel (.text (String.ofList characters)) rest
    | .garbled rest => readMember fuel (.garbled .malformed) rest
    | .stopped onRead onSkip => ⟨[(.garbled onRead, .stop onSkip)], none, none⟩

/-- Reads the value of a member behind its key, and the members behind it: behind a comma there is
always one more, if need be one that cannot be read. -/
def readMember : Nat → Key → List Char → Sequence (Key × Source)
  | 0, _, _ => ⟨[], some .truncated, none⟩
  | fuel + 1, key, text =>
    match skipBlanks text with
    | [] => ⟨[(key, .stop .truncated)], none, none⟩
    | ':' :: rest =>
      let step := readValue fuel rest
      match step.rest with
      | none => ⟨[(key, step.node)], none, none⟩
      | some rest =>
        match skipBlanks rest with
        | [] => ⟨[(key, step.node)], some .truncated, none⟩
        | '\x7d' :: rest => ⟨[(key, step.node)], none, some rest⟩
        | ',' :: rest =>
          match skipBlanks rest with
          | '"' :: rest => (readMembers fuel rest).cons (key, step.node)
          | [] => ⟨[(key, step.node), (.garbled .truncated, .stop .truncated)], none, none⟩
          | _ => ⟨[(key, step.node), (.garbled .malformed, .stop .malformed)], none, none⟩
        | _ => ⟨[(key, step.node)], some .malformed, none⟩
    | _ => ⟨[(key, .stop .malformed)], none, none⟩

end

/-! ### Bytes -/

/-- The characters in place of an ill-formed part of some bytes. It spoils a string only for those who
want its value, as half a surrogate pair does, and is out of place everywhere else. -/
def illFormed : List Char :=
  -- behind a backslash the first character makes an escape that has no digits
  ['u', '\\', 'u', 'd', 'c', '0', '0']

/-- The characters as which bytes are read. -/
def charactersOf (bytes : List UInt8) : List Char :=
  (Utf8.decode bytes).flatMap fun c => (c.map ([·])).getD illFormed

end Reader

/-- A text read as JSON. -/
structure Document where
  /-- The value at its front. -/
  root : Source
  /-- Whether anything but blanks stands behind the value. -/
  trailing : Bool

namespace Document

/-- How many containers may be nested in text from outside. -/
def nestingLimit : Nat := 127

/-- Reads the front of a text without a nesting limit; each nested call reads at least a character. -/
def ofTextUnlimited (text : String) : Document :=
  let characters := text.toList
  let step := Reader.readValue (3 * characters.length + 3) characters
  let trailing := match step.rest with
    | some rest => !(Reader.skipBlanks rest).isEmpty
    | none => false
  ⟨step.node, trailing⟩

/-- Reads the front of a text within the nesting limit. -/
def ofText (text : String) : Document :=
  let document := ofTextUnlimited text
  { document with root := document.root.limitNesting nestingLimit }

/-- Reads the front of what a body holds within the nesting limit. -/
def ofContent : Content → Document
  | .text text => ofText text
  | .bytes bytes => ofText (String.ofList (Reader.charactersOf bytes))

@[simp] theorem ofContent_text (text : String) : ofContent (.text text) = ofText text := rfl

end Document

/-- The canonical value of a text of any nesting, if it is JSON. -/
def Json.ofText? (text : String) : Except Fault Json :=
  let document := Document.ofTextUnlimited text
  match document.root.toJson with
  | .ok value => if document.trailing then .error .malformed else .ok value
  | .error fault => .error fault

end VolumeBroker
