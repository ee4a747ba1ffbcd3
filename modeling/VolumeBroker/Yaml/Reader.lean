import VolumeBroker.Yaml.Scalar
/-!
# Reading YAML

The YAML of specification files: block lists and maps by indentation, flow lists and maps, plain and
quoted scalars, comments, and a leading document mark. Anchors, tags and block scalars are refused.
A `Node` keeps scalars as they were written; `Node.toSource` gives them their meaning.
-/

namespace VolumeBroker

namespace Yaml

/-- A YAML document. -/
inductive Node where
  /-- A scalar without quotes. -/
  | plain (text : String)
  | quoted (text : String)
  | list (items : List Node)
  /-- A map in written order. -/
  | map (entries : List (Node × Node))

/-! ### Meaning -/

/-- A node as the key of a map: only strings are keys. -/
def Node.key : Node → Key
  | .quoted text => .text text
  | .plain text =>
    match plainScalar text with
    | .str text => .text text
    | _ => .garbled .malformed
  | _ => .garbled .malformed

mutual

/-- A node as a document. -/
def Node.toSource : Node → Source
  | .plain text => plainScalar text
  | .quoted text => .str text
  | .list items => .arr (itemsToSource items) none
  | .map entries => .obj (entriesToSource entries) none

/-- The items of a list as documents. -/
def itemsToSource : List Node → List Source
  | [] => []
  | item :: rest => item.toSource :: itemsToSource rest

/-- The entries of a map as members. -/
def entriesToSource : List (Node × Node) → List (Key × Source)
  | [] => []
  | (key, value) :: rest => (key.key, value.toSource) :: entriesToSource rest

end

/-! ### Blanks and lines -/

/-- Whether a character is a blank within a line. -/
def isBlank (c : Char) : Bool := c == ' ' || c == '\t'

/-- Whether a text is at the end of a line. -/
def atLineEnd : List Char → Bool
  | [] => true
  | c :: _ => c == '\n'

/-- The text behind the blanks at its front. -/
def dropBlanks (text : List Char) : List Char := text.dropWhile isBlank

/-- The text of the line behind the current one. -/
def nextLine (text : List Char) : List Char := (text.dropWhile (· != '\n')).drop 1

/-- Whether only blanks and a comment are left on the line; a comment follows a blank. -/
def restIsEmpty (behindBlank : Bool) (text : List Char) : Bool :=
  let rest := dropBlanks text
  atLineEnd rest ||
    (rest.head? == some '#' && (behindBlank || text.head?.any isBlank))

/-- The next line, if nothing but blanks and a comment is left on this one. -/
def endLine? (text : List Char) : Option (List Char) :=
  if restIsEmpty false text then some (nextLine text) else none

/-- The next line with content: its column and its text there. Lines are counted down by `fuel`. -/
def nextContent : Nat → List Char → Option (Nat × List Char)
  | 0, _ => none
  | fuel + 1, text =>
    if text.isEmpty then none
    else
      let content := text.dropWhile (· == ' ')
      if restIsEmpty true content then nextContent fuel (nextLine content)
      else some (text.length - content.length, content)

/-- Whether a text starts with a mark that stands alone: a blank or the end of the line follows. -/
def startsWithMark (mark : Char) : List Char → Bool
  | c :: rest => c == mark && (atLineEnd rest || rest.head?.any isBlank)
  | [] => false

/-! ### Quoted scalars -/

/-- The character of an escape letter in double quotes. -/
def escapeLetter? (c : Char) : Option Char :=
  [('0', '\x00'), ('a', '\x07'), ('b', '\x08'), ('t', '\t'), ('\t', '\t'), ('n', '\n'),
    ('v', '\x0b'), ('f', '\x0c'), ('r', '\r'), ('e', '\x1b'), (' ', ' '), ('"', '"'), ('/', '/'),
    ('\\', '\\'), ('N', '\u0085'), ('_', '\u00a0'), ('L', '\u2028'), ('P', '\u2029')].lookup c

/-- The number of digits of a numeric escape. -/
def escapeDigits? (c : Char) : Option Nat := [('x', 2), ('u', 4), ('U', 8)].lookup c

/-- The character of a numeric escape. -/
def escapedCode? (digits : List Char) : Option Char := do
  let code ← radixValue? 16 digits
  if code < 0xD800 ∨ (0xDFFF < code ∧ code ≤ 0x10FFFF) then some (Char.ofNat code) else none

/-- A line break inside a quoted scalar: the characters it stands for, and the text behind it. -/
def foldBreak (text : List Char) : List Char × List Char :=
  let gap := text.takeWhile fun c => isBlank c || c == '\n'
  let breaks := gap.filter (· == '\n')
  -- a single break is a space, each further one a line break
  (if breaks.length ≤ 1 then [' '] else List.replicate (breaks.length - 1) '\n',
    text.drop gap.length)

/-- Reads a scalar up to its closing single quote. -/
def readSingle : Nat → List Char → Option (List Char × List Char)
  | 0, _ => none
  | fuel + 1, text =>
    match text with
    | [] => none
    -- a doubled quote is a quote
    | '\'' :: '\'' :: rest => (readSingle fuel rest).map fun (read, rest) => ('\'' :: read, rest)
    | '\'' :: rest => some ([], rest)
    | c :: rest =>
      if (dropBlanks text).head? == some '\n' then
        let (folded, rest) := foldBreak text
        (readSingle fuel rest).map fun (read, rest) => (folded ++ read, rest)
      else (readSingle fuel rest).map fun (read, rest) => (c :: read, rest)

/-- Reads a scalar up to its closing double quote. -/
def readDouble : Nat → List Char → Option (List Char × List Char)
  | 0, _ => none
  | fuel + 1, text =>
    match text with
    | [] => none
    | '"' :: rest => some ([], rest)
    -- an escaped line break joins the lines
    | '\\' :: '\n' :: rest => readDouble fuel (dropBlanks rest)
    | '\\' :: c :: rest =>
      match escapeLetter? c, escapeDigits? c with
      | some c, _ => (readDouble fuel rest).map fun (read, rest) => (c :: read, rest)
      | none, some count => do
        if (rest.take count).length < count then none
        let c ← escapedCode? (rest.take count)
        let (read, rest) ← readDouble fuel (rest.drop count)
        some (c :: read, rest)
      | none, none => none
    | c :: rest =>
      if (dropBlanks text).head? == some '\n' then
        let (folded, rest) := foldBreak text
        (readDouble fuel rest).map fun (read, rest) => (folded ++ read, rest)
      else (readDouble fuel rest).map fun (read, rest) => (c :: read, rest)

/-- Reads a quoted scalar, if the text starts with one. -/
def readQuoted? (fuel : Nat) : List Char → Option (Option (Node × List Char))
  | '"' :: rest =>
    some ((readDouble fuel rest).map fun (read, rest) => (.quoted (String.ofList read), rest))
  | '\'' :: rest =>
    some ((readSingle fuel rest).map fun (read, rest) => (.quoted (String.ofList read), rest))
  | _ => none

/-! ### Plain scalars -/

/-- Whether a plain scalar may start here. -/
def startsPlain (inFlow : Bool) : List Char → Bool
  | [] => false
  | c :: rest =>
    if [',', '[', ']', '\x7b', '\x7d', '#', '&', '*', '!', '|', '>', '\'', '"', '%', '@',
        '`'].contains c then false
    else if c = '-' ∨ c = '?' ∨ c = ':' then
      match rest with
      | [] => false
      | d :: _ => !isBlank d && d != '\n' && !(inFlow && [',', '[', ']', '\x7b', '\x7d'].contains d)
    else true

/-- Takes the characters of a plain scalar on one line, with what stands behind it. -/
def takePlain (inFlow : Bool) : List Char → List Char × List Char
  | [] => ([], [])
  | c :: rest =>
    let next := rest.head?
    -- a colon ends the scalar only with a blank behind it
    let endsKey := c = ':' ∧ (next.isNone ∨ next.any fun d =>
      isBlank d || d == '\n' || (inFlow && [',', '[', ']', '\x7b', '\x7d'].contains d))
    let endsFlow := inFlow ∧ [',', '[', ']', '\x7b', '\x7d'].contains c
    let endsComment := isBlank c ∧ next = some '#'
    if c = '\n' ∨ endsKey ∨ endsFlow ∨ endsComment then ([], c :: rest)
    else
      let (read, behind) := takePlain inFlow rest
      (c :: read, behind)

/-- A text without blanks at its end. -/
def trimEnd (text : List Char) : List Char := (text.reverse.dropWhile isBlank).reverse

/-! ### Flow collections -/

/-- The text behind blanks, line breaks and comments. -/
def skipFlow : Nat → Bool → List Char → List Char
  | 0, _, text => text
  | fuel + 1, behindBlank, text =>
    match text with
    | c :: rest =>
      if isBlank c ∨ c = '\n' then skipFlow fuel true rest
      else if c = '#' ∧ behindBlank then skipFlow fuel true (text.dropWhile (· != '\n'))
      else text
    | [] => []

mutual

/-- Reads a node inside a flow collection. -/
def readFlow : Nat → List Char → Option (Node × List Char)
  | 0, _ => none
  | fuel + 1, text =>
    match text with
    | '[' :: rest => do
      let (items, rest) ← readFlowItems fuel (skipFlow fuel false rest)
      some (.list items, rest)
    | '\x7b' :: rest => do
      let (entries, rest) ← readFlowEntries fuel (skipFlow fuel false rest)
      some (.map entries, rest)
    | text =>
      match readQuoted? fuel text with
      | some quoted => quoted
      | none =>
        if startsPlain true text then
          let (read, rest) := takePlain true text
          some (.plain (String.ofList (trimEnd read)), rest)
        else none

/-- Reads the items of a flow list up to its bracket. -/
def readFlowItems : Nat → List Char → Option (List Node × List Char)
  | 0, _ => none
  | fuel + 1, text =>
    match text with
    | ']' :: rest => some ([], rest)
    | text => do
      let (item, rest) ← readFlow fuel text
      match skipFlow fuel false rest with
      | ',' :: rest =>
        let (items, rest) ← readFlowItems fuel (skipFlow fuel false rest)
        some (item :: items, rest)
      | ']' :: rest => some ([item], rest)
      | _ => none

/-- Reads the entries of a flow map up to its brace; an entry without a value has `null`. -/
def readFlowEntries : Nat → List Char → Option (List (Node × Node) × List Char)
  | 0, _ => none
  | fuel + 1, text =>
    match text with
    | '\x7d' :: rest => some ([], rest)
    | text => do
      -- an entry in braces may have a key alone
      let (key, rest) ← readFlow fuel text
      let rest := skipFlow fuel false rest
      let (value, rest) ← match rest with
        | ':' :: rest =>
          match skipFlow fuel false rest with
          | ',' :: rest => some (.plain "", ',' :: rest)
          | '\x7d' :: rest => some (.plain "", '\x7d' :: rest)
          | rest => readFlow fuel rest
        | rest => some (.plain "", rest)
      match skipFlow fuel false rest with
      | ',' :: rest =>
        let (entries, rest) ← readFlowEntries fuel (skipFlow fuel false rest)
        some ((key, value) :: entries, rest)
      | '\x7d' :: rest => some ([(key, value)], rest)
      | _ => none

end

/-! ### Blocks -/

/-- The key of a block map entry at the front of a line, and the text behind its colon. -/
def readKey? (fuel : Nat) (text : List Char) : Option (Node × List Char) :=
  let behindColon := fun (rest : List Char) => if startsWithMark ':' rest then some (rest.drop 1) else none
  match readQuoted? fuel text with
  | some none => none
  | some (some (key, rest)) => (behindColon (dropBlanks rest)).map (key, ·)
  | none =>
    if startsPlain false text then
      let (read, rest) := takePlain false text
      (behindColon rest).map (.plain (String.ofList (trimEnd read)), ·)
    else none

/-- Reads the lines that continue a plain scalar: those indented deeper than `indent`, if any. -/
def readContinuation : Nat → Nat → List Char → Option (List Char × List Char)
  | 0, _, _ => none
  | fuel + 1, indent, text =>
    match nextContent fuel text with
    | some (column, content) =>
      if indent ≤ column ∧ 0 < column then
        let (read, rest) := takePlain false content
        if rest.head? = some ':' then none
        else do
          let next ← endLine? rest
          let (more, rest) ← readContinuation fuel indent next
          some (' ' :: trimEnd read ++ more, rest)
      else some ([], text)
    | none => some ([], text)

/-- Reads a scalar or a flow collection up to the end of its line. Lines at `indent` or deeper
continue a plain scalar. -/
def readInline (fuel indent : Nat) (text : List Char) : Option (Node × List Char) :=
  match text with
  | '[' :: _ | '\x7b' :: _ => do
    let (node, rest) ← readFlow fuel text
    let next ← endLine? rest
    some (node, next)
  | text =>
    match readQuoted? fuel text with
    | some quoted => do
      let (node, rest) ← quoted
      let next ← endLine? rest
      some (node, next)
    | none =>
      if startsPlain false text then
        let (read, rest) := takePlain false text
        if rest.head? = some ':' then none
        else do
          let next ← endLine? rest
          let (more, rest) ← readContinuation fuel indent next
          some (.plain (String.ofList (trimEnd read ++ more)), rest)
      else none

mutual

/-- Reads a node whose text starts at a column; lines at `indent` or deeper belong to it. -/
def readNode : Nat → Nat → Nat → List Char → Option (Node × List Char)
  | 0, _, _, _ => none
  | fuel + 1, indent, column, text =>
    if startsWithMark '-' text then do
      let (items, rest) ← readListItems fuel column text
      some (.list items, rest)
    else
      match readKey? fuel text with
      | some _ => do
        let (entries, rest) ← readMapEntries fuel column text
        some (.map entries, rest)
      | none => readInline fuel indent text

/-- Reads the items of a block list whose dashes stand in a column. -/
def readListItems : Nat → Nat → List Char → Option (List Node × List Char)
  | 0, _, _ => none
  | fuel + 1, column, text => do
    let behind := text.drop 1
    let (item, rest) ←
      if restIsEmpty false behind then
        match nextContent fuel (nextLine behind) with
        | some (next, content) =>
          if column < next then readNode fuel (column + 1) next content
          else some (.plain "", nextLine behind)
        | none => some (.plain "", nextLine behind)
      else
        let content := dropBlanks behind
        readNode fuel (column + 1) (column + 1 + (behind.length - content.length)) content
    match nextContent fuel rest with
    | some (next, content) =>
      if next = column ∧ startsWithMark '-' content then
        let (items, rest) ← readListItems fuel column content
        some (item :: items, rest)
      else if column < next then none
      else some ([item], rest)
    | none => some ([item], rest)

/-- Reads the entries of a block map whose keys stand in a column. -/
def readMapEntries : Nat → Nat → List Char → Option (List (Node × Node) × List Char)
  | 0, _, _ => none
  | fuel + 1, column, text => do
    let (key, behind) ← readKey? fuel text
    let (value, rest) ←
      if restIsEmpty false behind then
        match nextContent fuel (nextLine behind) with
        | some (next, content) =>
          if column < next then readNode fuel (column + 1) next content
          -- the dashes of a list may stand in the column of its key
          else if next = column ∧ startsWithMark '-' content then do
            let (items, rest) ← readListItems fuel column content
            some (.list items, rest)
          else some (.plain "", nextLine behind)
        | none => some (.plain "", nextLine behind)
      else readInline fuel (column + 1) (dropBlanks behind)
    match nextContent fuel rest with
    | some (next, content) =>
      if next = column ∧ !startsWithMark '-' content then
        let (entries, rest) ← readMapEntries fuel column content
        some ((key, value) :: entries, rest)
      else if column < next then none
      else some ([(key, value)], rest)
    | none => some ([(key, value)], rest)

end

/-- The text behind a leading document mark. -/
def behindMark (fuel : Nat) (text : List Char) : List Char :=
  match nextContent fuel text with
  -- three dashes at the beginning of a line begin the document
  | some (0, '-' :: '-' :: '-' :: rest) =>
    if atLineEnd rest || rest.head?.any isBlank then rest else text
  | _ => text

/-- The node of a YAML text: `none` if it cannot be read, and no node if it is empty. -/
def ofText? (text : String) : Option (Option Node) :=
  let characters := text.toList.filter (· != '\r')
  let fuel := 4 * characters.length + 8
  match nextContent fuel (behindMark fuel characters) with
  | none => some none
  | some (column, content) => do
    let (node, rest) ← readNode fuel 0 column content
    match nextContent fuel rest with
    | none => some (some node)
    | some _ => none

end Yaml

end VolumeBroker
