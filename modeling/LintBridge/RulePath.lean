import LintBridge.Path.Lexical
/-!
The rule file of the second pass. A path may name the workspace folder by a placeholder
and may be relative to it; no file is looked at.
-/
namespace LintBridge.RulePath

/-- The text that stands for the workspace folder. -/
def placeholder : String := "$\x7bworkspaceFolder\x7d"

/-- Put the workspace folder in place of every placeholder. -/
def substitute (root raw : List Char) : List Char :=
  Text.replaceAll placeholder.toList root raw

/-- A rule path seen from a workspace folder; without one it stays as it is. -/
def resolve (raw : String) (root : Option String) : String :=
  match root with
  | none => raw
  | some root =>
    let path := substitute root.toList raw.toList
    if Path.isAbsolute path then String.ofList path
    else String.ofList (Path.normalize (Path.join root.toList path))

end LintBridge.RulePath
