import VolumeBroker.Catalog.Registry
import VolumeBroker.Files.FileSystem
import VolumeBroker.Json.Reader
import VolumeBroker.Yaml.Reader
/-!
# Specification files

A specification is a list of service entries, in YAML if the name of its file ends in `.yml` or
`.yaml` and in JSON otherwise. An empty YAML document is an empty list.
-/

namespace VolumeBroker

namespace SpecFile

/-- The specification format that the name of a file asks for. -/
def isYaml (path : String) : Bool :=
  match FilePath.extension? path with
  | some ending => ending == "yml" || ending == "yaml"
  | none => false

/-- Entries as documents. -/
def codec : Codec (List ServiceSpec) := ServiceSpec.codec.list

/-- Reads entries from JSON text. -/
def ofJsonText (text : String) : Except Problem (List ServiceSpec) :=
  let document := Document.ofText text
  match codec.read .text document.root with
  | .error problem => .error problem
  | .ok specs => if document.trailing then .error (.fault .malformed) else .ok specs

/-- The name of a driver and the address of a plugin are taken as they are written. -/
def literalEntry (entry : Yaml.Node × Yaml.Node) : Yaml.Node × Yaml.Node :=
  match entry with
  | (key, .plain text) =>
    match key.key with
    | .text name =>
      if name = "driver_name" ∨ name = "connection_address" then (key, .quoted text) else entry
    | .garbled _ => entry
  | _ => entry

/-- The list of entries in which texts are taken as they are written. -/
def literalTexts : Yaml.Node → Yaml.Node
  | .list items => .list (items.map fun
    | .map entries => .map (entries.map literalEntry)
    | item => item)
  | node => node

/-- Reads entries from YAML text. -/
def ofYamlText (text : String) : Except Problem (List ServiceSpec) :=
  match Yaml.ofText? text with
  | none => .error (.fault .malformed)
  | some none => .ok []
  | some (some node) => codec.read .value (literalTexts node).toSource

/-- Reads the entries of a specification file. -/
def load (files : FileSystem) (path : String) : Except RegistryError (List ServiceSpec) :=
  match files.readText? path with
  | none => .error (.invalidSpecFile path "not a readable text file")
  | some text =>
    match if isYaml path then ofYamlText text else ofJsonText text with
    | .ok specs => .ok specs
    | .error problem => .error (.invalidSpecFile path problem.message)

end SpecFile

/-- Builds the registry of a specification file. -/
def Registry.ofFile (files : FileSystem) (path : String) (connect : Connector) : Construction :=
  match SpecFile.load files path with
  | .error e => ⟨[], .error e⟩
  | .ok specs => build specs connect

end VolumeBroker
