import Traceability.Value.Coerce
import Traceability.Yaml.Load

/-! # Settings of a project

A project may set where its matrix and its rule documents are, how its reports are judged and how
its markers are called. A setting of the wrong kind keeps its default, and so do all settings when
the file is no mapping or breaks the grammar.
-/
namespace Traceability

open Text

/-- The settings of a project; the paths start at its root. -/
structure Settings where
  matrixPath : String := "schema/DCM.yaml"
  rulesDir : String := "rules"
  strict : Bool := false
  markerKey : String := "data-matrix-meta"
  deriving DecidableEq, Repr

namespace Settings

/-- A text without the blanks at both ends, and then without the slashes at its end. -/
def trimmedPath (s : String) : String :=
  String.ofList (dropTrailingWhere (· == '/') (trim s.toList))

/-- A setting that is a text; a blank one keeps its default. -/
def textSetting (entries : Entries) (name default : String) : String :=
  match entries.get? name with
  | some (.text s) => if isBlankText s then default else trimmedPath s
  | _ => default

def truthSetting (entries : Entries) (name : String) (default : Bool) : Bool :=
  match entries.get? name with
  | some (.bool b) => b
  | _ => default

def ofEntries (entries : Entries) : Settings :=
  let defaults : Settings := {}
  { matrixPath := textSetting entries "matrix_path" defaults.matrixPath
    rulesDir := textSetting entries "rules_dir" defaults.rulesDir
    strict := truthSetting entries "strict" defaults.strict
    markerKey := textSetting entries "meta_attribute" defaults.markerKey }

def ofContent : Option (List UInt8) → Except Yaml.LoadError Settings
  | none => .ok {}
  | some bytes =>
    match Yaml.loadBytes bytes with
    | .error .malformed => .ok {}
    | .error e => .error e
    | .ok v => .ok (ofEntries v.entries)

end Settings

end Traceability
