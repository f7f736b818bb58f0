import LintBridge.Value.Basic
/-!
The part of an editor's settings that concerns this program. The payload may hold the
sections directly or under the program's own name; sections that are no mappings are left
out.
-/
namespace LintBridge.Config

open Value

/-- The name under which editors keep this program's settings. -/
def settingsSection : String := "lutels"

/-- A section of the settings, if it is a mapping. -/
def section? (es : Entries) (name : String) : Option (String × Value) :=
  match es.field? name with
  | some (.map sub) => some (name, .map sub)
  | _ => none

/-- The sections of an editor's settings. -/
def settingsSections (settings : Value) : List (String × Value) :=
  match settings with
  | .map es =>
    match (Entries.field? es settingsSection).getD settings with
    | .map inner => ["lint", "logging"].filterMap (section? inner)
    | _ => []
  | _ => []

end LintBridge.Config
