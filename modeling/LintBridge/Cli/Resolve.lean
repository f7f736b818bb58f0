import LintBridge.Cli.Check
/-!
Telling which linter a workspace has and in which directory it would run.
-/
namespace LintBridge.Cli.Resolve

/-- What was found. -/
structure Found where
  toolchain : Toolchain
  workingDirectory : Option String
  deriving DecidableEq, Repr

/-- Find the linter of a session. The linter's own directory goes before the configured one. -/
def find (s : Session) (fs : FileSystem) : Turn (Except SystemError (Option Found)) :=
  let turn := s.ensureToolchain fs
  { turn with value := turn.value.map fun found =>
      found.map fun t => ⟨t, turn.session.workingDirectory t⟩ }

/-- What was found as JSON. -/
def jsonReport (found : Option Found) : String :=
  let fields : List (String × Value) := match found with
    | none => [("found", .bool false)]
    | some f => [("found", .bool true), ("executable", .text f.toolchain.executable),
        ("origin", .text f.toolchain.origin.name),
        ("working_directory", f.workingDirectory.elim .null .text)]
  Json.encode (.record fields) ++ "\n"

/-- What was found, for people. -/
def textReport (f : Found) : String :=
  let directory := match f.workingDirectory with
    | some d => if d.isEmpty then "" else s!"Working directory: {d}\n"
    | none => ""
  s!"Executable: {f.toolchain.executable}\nOrigin: {f.toolchain.origin.name}\n{directory}"

end LintBridge.Cli.Resolve
