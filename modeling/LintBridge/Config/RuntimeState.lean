import LintBridge.Config.Document
import LintBridge.Yaml.Write
import LintBridge.Schema.Scalar
import LintBridge.Log.Event
/-!
What a session remembers for later ones: the linter that was found and the directory of
its manifest. A file that cannot be read as such a record counts as none.
-/
namespace LintBridge

structure RuntimeState where
  executablePath : String
  manifestDirectory : String
  deriving DecidableEq, Repr

namespace RuntimeState

open Schema

/-- The file of a workspace that holds the record. -/
def path (root : FilePath) : FilePath := (root.child ".lutels").child "state.yaml"

def toValue (s : RuntimeState) : Value :=
  .record [("executable_path", .text s.executablePath),
    ("toolchain_manifest_directory", .text s.manifestDirectory)]

def check (v : Value) : Checked RuntimeState := do
  let es ← entries "RuntimeState" v
  let executablePath ← required es "executable_path" text
  let manifestDirectory ← required es "toolchain_manifest_directory" text
  return ⟨executablePath, manifestDirectory⟩

/-- Is every key of a mapping a text? -/
def keysAreText (es : Value.Entries) : Bool := es.all fun e => e.1 matches .text _

/-- The record that the text of a file holds. -/
def ofText (text : String) : Option RuntimeState :=
  match Yaml.load text with
  | .ok (.map es) => if keysAreText es then (check (.map es)).toOption else none
  | _ => none

/-- The comment above the record. -/
def header : String :=
  "# AUTO-GENERATED - DO NOT EDIT MANUALLY\n" ++
  "# Written by lutels after locating the linter through foreman.toml.\n" ++
  "# Delete this file to force a fresh lookup.\n\n"

/-- The text of a file that holds the record. -/
def toText (s : RuntimeState) : String :=
  header ++ Yaml.entryText "executable_path" s.executablePath ++
    Yaml.entryText "toolchain_manifest_directory" s.manifestDirectory

/-- Write the record, in a directory that is created if it is not there. -/
def write (fs : FileSystem) (p : FilePath) (s : RuntimeState) : Except SystemError FileSystem := do
  let fs ← fs.makeDirectories p.parent
  fs.write p (Text.Utf8.encode s.toText)

/-- The record in a file, and what is reported: a file that is there and holds no record. -/
def load (fs : FileSystem) (p : FilePath) :
    Except SystemError (Option RuntimeState × List Log.Event) :=
  (fs.exists_ p).map fun there =>
    if !there then (none, [])
    else match (fs.readText p).toOption.bind ofText with
      | some s => (some s, [])
      | none => (none, [.stateIgnored p.text])

end RuntimeState
end LintBridge
