import LintBridge.Config.Merge
import LintBridge.Json.Decode
import LintBridge.Text.Pieces
import LintBridge.Assoc
/-!
Settings from environment variables. A variable names a section, or a field inside it
after a double underscore; names are compared without case. A section and fields that
hold lists are written as JSON, and a bad document there is an error of the section.
-/
namespace LintBridge.Config

open Value

/-- Environment variables by name. -/
abbrev Environment := List (String × String)

/-- What the names of this program's variables begin with, in lower case. -/
def variableLead : String := "lutels__"

/-- Lower-case names; of two variables with one name the later counts. -/
def lowered (env : Environment) : Environment :=
  env.foldl (fun m (name, value) => Assoc.put m name.toLower value) []

/-- Cut a text at every double underscore. -/
def splitNested (current : List Char) : List Char → List (List Char)
  | '_' :: '_' :: rest => current.reverse :: splitNested [] rest
  | c :: rest => splitNested (c :: current) rest
  | [] => [current.reverse]

/-- The fields of a section by name, each with a sign whether it holds a list. -/
def sectionFields : String → List (String × Bool)
  | "logging" => [("level", false), ("outputs", true)]
  | "lint" => [("executable_path", false), ("rule_config_path", false),
      ("toolchain_manifest_directory", false), ("bundled_executable", false),
      ("languages", true), ("timeout_sec", false)]
  | _ => []

/-- Does a path of names end at a field that holds a list? -/
def endsAtList (name : String) : List String → Bool
  | [field] => ((sectionFields name).lookup field).getD false
  | _ => false

/-- Write a value below a mapping. Mappings are created on the way; where something else
stands in the way nothing is written. -/
def plant : Entries → List String → Value → Entries
  | es, [], _ => es
  | es, [last], v => es.put (.text last) v
  | es, key :: rest, v =>
    match Entries.field? es key with
    | none => es.put (.text key) (.map (plant [] rest v))
    | some (.map inner) => es.put (.text key) (.map (plant inner rest v))
    | some _ => es

/-- The fields of a section that have variables of their own; `none` if a list is no JSON. -/
def plantAll (name : String) : Environment → Entries → Option Entries
  | [], es => some es
  | (key, value) :: rest, es =>
    match Text.dropLead? (variableLead ++ name ++ "__").toList key.toList with
    | none => plantAll name rest es
    | some tail =>
      let path := (splitNested [] tail).map String.ofList
      if endsAtList name path && !value.isEmpty then
        match Json.decode value with
        | .ok v => plantAll name rest (plant es path v)
        | .error _ => none
      else plantAll name rest (plant es path (.text value))

/-- Give fields that differ from a declared one only in case the declared name. -/
def renameFields (name : String) (es : Entries) : Entries :=
  es.foldl (fun out (k, v) =>
    match k with
    | .text key =>
      match (sectionFields name).find? fun f => f.1 = key.toLower with
      | some (field, _) => Entries.put out (.text field) v
      | none => Entries.put out k v
    | _ => Entries.put out k v) []

/-- The value that the environment gives a section: `none` for no value, and an error if a
variable is no JSON. -/
def sectionValue (env : Environment) (name : String) : Except Unit (Option Value) :=
  let fields := plantAll name env []
  match Assoc.get? env (variableLead ++ name) with
  | none =>
    match fields with
    | none => .error ()
    | some [] => .ok none
    | some es => .ok (some (.map (renameFields name es)))
  | some written =>
    match Json.decode written with
    | .error _ => .error ()
    | .ok .null => .ok none
    | .ok (.map es) =>
      match fields with
      | none => .error ()
      | some more => .ok (some (.map (renameFields name (merge es more))))
    | .ok v => .ok (some v)

/-- The settings that the environment makes, or the name of the first section with an
error. -/
def environmentLayer (env : Environment) : List String → Except String Entries
  | [] => .ok []
  | name :: rest =>
    match sectionValue (lowered env) name with
    | .error () => .error name
    | .ok none => environmentLayer env rest
    | .ok (some v) => (environmentLayer env rest).map ((.text name, v) :: ·)

end LintBridge.Config
