import VolumeBroker.Plugin.Volume
/-!
# Fingerprints and the slots that hold them

A record store keeps, for each instance, a value that it does not understand: the `Fingerprint` of
the instance's volume. Within the process that stored it the slot holds the live value; after a
reload it holds the document that was written. `Fingerprint.ofSlot` reads both forms.
-/

namespace VolumeBroker

/-- What identifies the volume of an instance. -/
structure Fingerprint where
  /-- The name under which the volume was requested. -/
  name : String
  /-- The volume as its plugin described it. -/
  volume : Volume

/-- How a fingerprint is written; capitalised names are read as well. -/
def Fingerprint.shape : Shape Fingerprint where
  title := "ServiceFingerprint"
  types := [String, Volume]
  fields :=
    .cons ((Field.required "name" .string).spelled ["Name", "name"]) <|
    .cons ((Field.required "volume" Volume.shape.codec).spelled ["Volume", "volume"]) .nil
  strict := false
  build := fun (name, volume, ()) => ⟨name, volume⟩
  parts f := (f.name, f.volume, ())

/-- A value that this process has put into a slot. -/
inductive Live where
  | fingerprint (fingerprint : Fingerprint)
  /-- A volume alone. -/
  | volume (volume : Volume)
  | json (value : Json)
  /-- A value that cannot be written as JSON, and why. -/
  | unwritable (reason : String)

/-- A place in a record for a value that the store does not understand. -/
inductive Slot where
  /-- A value of this process. -/
  | live (value : Live)
  /-- A document that was read back. -/
  | document (value : Json)

namespace Slot

/-- The slot of a live fingerprint. -/
def ofFingerprint (f : Fingerprint) : Slot := .live (.fingerprint f)

/-- Whether the value was put in by this process. -/
def isLive : Slot → Bool
  | live _ => true
  | document _ => false

/-- The live fingerprint in the slot, if that is what it holds. -/
def fingerprint? : Slot → Option Fingerprint
  | live (.fingerprint f) => some f
  | _ => none

/-- The live volume in the slot, if that is what it holds. -/
def volume? : Slot → Option Volume
  | live (.volume v) => some v
  | _ => none

/-- The canonical document of the slot, or why it has none. -/
def toDocument : Slot → Except String Json
  | live (.fingerprint f) => .ok (Fingerprint.shape.codec.toJson f)
  | live (.volume v) => .ok (Volume.shape.codec.toJson v)
  | live (.json value) => .ok value
  | live (.unwritable reason) => .error reason
  | document value => .ok value

/-- Why the slot cannot be written, if it cannot. -/
def unwritable? (slot : Slot) : Option String :=
  match slot.toDocument with
  | .ok _ => none
  | .error reason => some reason

/-- Slots as documents. A slot that cannot be written has to be refused beforehand. -/
def codec : Codec Slot where
  read origin source := (Codec.json.read origin source).map .document
  write slot :=
    match slot.toDocument with
    | .ok value => value
    | .error _ => .null

@[simp] theorem toDocument_document (value : Json) : (document value).toDocument = .ok value := rfl

@[simp] theorem fingerprint?_ofFingerprint (f : Fingerprint) :
    (ofFingerprint f).fingerprint? = some f := rfl

end Slot

/-- The fingerprint in a slot: the live one, or the one that the slot's document describes. -/
def Fingerprint.ofSlot (slot : Slot) : Except Mismatch Fingerprint :=
  match slot.fingerprint? with
  | some f => .ok f
  | none =>
    match slot.toDocument with
    | .error reason => .error (.refused reason)
    | .ok value =>
      match Fingerprint.shape.codec.ofJson value with
      | .ok f => .ok f
      | .error (.mismatch m) => .error m
      | .error (.fault _) => .error (.refused "malformed document")

end VolumeBroker
