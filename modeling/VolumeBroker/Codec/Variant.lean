import VolumeBroker.Codec.Basic
/-!
# Variants

A variant is written as its name, or as an object with its name as only key and its content as
value. `readVariant` reads either form and leaves the content to whoever knows the variant.
-/

namespace VolumeBroker

/-- Reads the name of a variant, checks that it is known, and hands its content on. -/
def readVariant {α : Type} (known : List String)
    (content : String → Option Source → Except Problem α) (origin : Origin) :
    Source → Except Problem α
  | .str name =>
    if known.contains name then content name none else mismatched (.unknownVariant name known)
  | .obj members failure =>
    match origin, members with
    | .text, (.text name, value) :: rest => do
      if known.contains name then
        let a ← content name (some value)
        if rest.isEmpty then
          endOf failure
          .ok a
        else .error (.fault .malformed)
      else mismatched (.unknownVariant name known)
    | .text, (.garbled fault, _) :: _ => .error (.fault fault)
    | .text, [] => .error (.fault (failure.getD .malformed))
    | _, [(.text name, value)] =>
      if known.contains name then content name (some value)
      else mismatched (.unknownVariant name known)
    | _, _ => mismatched (.wrongValue .map "map with a single key")
  | .keyless found =>
    match found with
    | .str _ => .error (.fault .malformed)
    | found => mistyped "variant identifier" found
  | .broken onRead _ => .error (.fault onRead)
  | other =>
    match origin with
    | .text => .error (.fault .malformed)
    | _ => mistyped "string or map" other

/-- Reads the content of a variant without content: none at all, or `null`; content that was set
aside may also be an empty object. -/
def readNoContent (origin : Origin) : Option Source → Except Problem Unit
  | none => .ok ()
  | some .null => .ok ()
  | some (.obj [] none) =>
    if origin = .buffered then .ok () else mismatched (.wrongType .map "unit")
  | some other => mistyped "unit" other

/-- Reads the content of a variant that has some. -/
def readContent {α : Type} (c : Codec α) (origin : Origin) : Option Source → Except Problem α
  | none => mismatched (.wrongType .bareName "newtype variant")
  | some source => c.read origin source

namespace Codec

/-- A choice between values that are written as their names. -/
def names {α : Type} (choices : List α) (name : α → String) : Codec α where
  read origin source :=
    let known := choices.map name
    readVariant known (fun written content => do
      readNoContent origin content
      match choices.find? fun a => name a == written with
      | some a => .ok a
      | none => mismatched (.unknownVariant written known)) origin source
  write a := .str (name a)

end Codec

end VolumeBroker
