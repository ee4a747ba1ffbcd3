/-!
# Media types

The grammar of a `Content-Type`: a type and a subtype between a slash, then parameters behind
semicolons. `MediaType.isJson` tells which of them announce JSON: `application/json`, and the subtypes
of `application` with the suffix `+json`, in any case and with any parameters.
-/

namespace VolumeBroker

/-- A media type without its parameters. -/
structure MediaType where
  /-- The type, in lower case. -/
  type : String
  /-- The subtype without its suffix, in lower case. -/
  subtype : String
  /-- What stands behind the last plus sign of the subtype, in lower case. -/
  suffix : Option String
deriving DecidableEq, Repr

namespace MediaType

/-- Whether a character may stand in a name. -/
def isNameChar (c : Char) : Bool :=
  ('a' ≤ c && c ≤ 'z') || ('A' ≤ c && c ≤ 'Z') || ('0' ≤ c && c ≤ '9') ||
    "!#$%&'*+-.^_`|~".toList.contains c

/-- Whether a character may stand between quotes. -/
def isQuotable (c : Char) : Bool := 0x20 ≤ c.toNat && c.toNat < 0x7F

/-! ### Parameters -/

/-- Places in the parameters. -/
inductive Place where
  /-- In front of a parameter. -/
  | start
  | name
  /-- Behind an equals sign. -/
  | valueStart
  | value
  /-- Behind an opening quote, where another quote is part of the value. -/
  | quoteStart
  /-- Between quotes. -/
  | quoted
  /-- Behind a closing quote. -/
  | quoteEnd
deriving DecidableEq, Repr

/-- The place behind a character; `none` if it may not stand there. -/
def Place.next (place : Place) (c : Char) : Option Place :=
  match place with
  | start => if c = ' ' then some start else if isNameChar c then some name else none
  | name => if c = '=' then some valueStart else if isNameChar c then some name else none
  | valueStart => if c = '"' then some quoteStart else if isNameChar c then some value else none
  | value => if c = ';' then some start else if isNameChar c then some value else none
  | quoteStart => if isQuotable c then some quoted else none
  | quoted => if c = '"' then some quoteEnd else if isQuotable c then some quoted else none
  | quoteEnd => if c = ';' then some start else if c = ' ' then some quoteEnd else none

/-- Whether the parameters may end at a place. -/
def Place.isFinal (place : Place) : Bool :=
  match place with
  | start | valueStart | value | quoteEnd => true
  | name | quoteStart | quoted => false

/-- Whether a text is a list of parameters. -/
def areParameters (text : List Char) : Bool :=
  match text.foldlM Place.next Place.start with
  | some place => place.isFinal
  | none => false

/-! ### Types -/

/-- Characters as a name in lower case. -/
def lowerCase (name : List Char) : String := String.ofList (name.map Char.toLower)

/-- The media type of a type and a subtype, which ends at its last plus sign unless it starts there. -/
def ofNames (type subtype : List Char) : MediaType :=
  let suffix := (subtype.reverse.takeWhile (· != '+')).reverse
  match subtype.reverse.dropWhile (· != '+') with
  | '+' :: before :: others =>
    ⟨lowerCase type, lowerCase (before :: others).reverse, some (lowerCase suffix)⟩
  | _ => ⟨lowerCase type, lowerCase subtype, none⟩

/-- The media type that a text names, if it names one. -/
def parse? (text : String) : Option MediaType :=
  let type := text.toList.takeWhile isNameChar
  match text.toList.dropWhile isNameChar with
  | '/' :: rest =>
    let subtype := rest.takeWhile isNameChar
    if type.isEmpty then none
    else
      match rest.dropWhile isNameChar with
      | [] => some (ofNames type subtype)
      | ';' :: parameters =>
        if !subtype.isEmpty && areParameters parameters then some (ofNames type subtype) else none
      | _ => none
  | _ => none

/-- Whether the type announces JSON. -/
def isJson (m : MediaType) : Bool :=
  m.type == "application" && (m.subtype == "json" || m.suffix == some "json")

end MediaType

end VolumeBroker
