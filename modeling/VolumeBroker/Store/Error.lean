import VolumeBroker.Codec.Basic
/-!
# Errors of a record store
-/

namespace VolumeBroker

/-- The kinds of records. -/
inductive RecordKind where
  | serviceInstance
  | serviceBinding
deriving DecidableEq, Repr

/-- The name of a kind of records. -/
def RecordKind.name : RecordKind → String
  | .serviceInstance => "instance"
  | .serviceBinding => "binding"

/-- Why a store operation failed. -/
inductive StoreError where
  | notFound (kind : RecordKind) (id : String)
  /-- A file could not be read or written. -/
  | io (path : String) (reason : String)
  /-- The records cannot be written as JSON. -/
  | encode (reason : String)
  /-- The record file does not hold records. -/
  | decode (path : String) (problem : Problem)
deriving DecidableEq

namespace StoreError

/-- Whether the error says that a record is absent. -/
def isNotFound : StoreError → Bool
  | notFound _ _ => true
  | _ => false

/-- The text of an error without the cause that it carries. -/
def message : StoreError → String
  | notFound kind id => kind.name ++ " record " ++ id ++ " not found"
  | io path reason => "IO error on " ++ path ++ ": " ++ reason
  | encode reason => "Failed to encode records: " ++ reason
  | decode path problem => "Corrupted record file " ++ path ++ ": " ++ problem.message

/-- The text of the cause of an error, if it has one. -/
def cause? : StoreError → Option String
  | notFound _ _ => none
  | io _ reason => some reason
  | encode reason => some reason
  | decode _ problem => some problem.message

end StoreError

end VolumeBroker
