import WorkloadLogin.Config.Codec
import WorkloadLogin.Config.Variables
import WorkloadLogin.Yaml.Value

/-! # Loading the module configuration

The document of a file is one tree and the environment another, which is put over the first before
anything is decoded. -/
namespace WorkloadLogin

namespace ModuleConfig

inductive LoadError where
  /-- There is no file at that path. -/
  | noFile (path : String)
  /-- The document is not a mapping or does not read at all. -/
  | document
  | decode (e : Json.DecodeError)
  deriving DecidableEq, Repr

/-- Where the configuration comes from besides the environment. -/
inductive File where
  | none
  | missing (path : String)
  | document (text : String)

def fileTree : File → Except LoadError Json
  | .none => .ok (.object [])
  | .missing path => .error (.noFile path)
  | .document text =>
    match Yaml.readMapping? text with
    | some v => .ok v.normalize
    | none => .error .document

/-- Decodes a merged tree; records written as arrays may be too long. -/
def ofTree (v : Json) : Except LoadError ModuleConfig :=
  (shape.decode .ignored v).mapError .decode

def load (file : File) (environment : List (String × String)) : Except LoadError ModuleConfig :=
  match fileTree file with
  | .error e => .error e
  | .ok tree =>
    ofTree (tree.merge (Variables.tree environment))

end ModuleConfig
end WorkloadLogin
