import LintBridge.Yaml.Load
import LintBridge.FileSystem
/-!
A configuration file as a mapping. A file that is not there counts as an empty one; a
document that is empty, false or zero counts as an empty mapping.
-/
namespace LintBridge.Config

/-- The mapping that the text of a configuration file holds. -/
def mappingOf (path text : String) : Except Failure Value.Entries :=
  match Yaml.load text with
  | .error .refused => .error (.fault (Cause.unreadableConfig path "not a YAML document").toFault)
  | .error (.scalar s) => .error (.scalar s)
  | .ok v =>
    if v.isFalsy then .ok []
    else match v with
      | .map es => .ok es
      | _ =>
        .error (.fault (Cause.unreadableConfig path "top level must be a mapping").toFault)

/-- The mapping in a configuration file. -/
def readMapping (fs : FileSystem) (p : FilePath) : Except Failure Value.Entries :=
  match fs.exists_ p with
  | .error e => .error (.system e)
  | .ok false => .ok []
  | .ok true =>
    match fs.readText p with
    | .error e => .error e
    | .ok text => mappingOf p.text text

end LintBridge.Config
