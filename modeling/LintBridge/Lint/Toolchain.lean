import LintBridge.FileSystem
import LintBridge.Log.Event
/-!
Finding the linter. A configured executable is used as it is. Otherwise the workspace
folders are searched, in order, for a toolchain manifest at their top level, and the
linter is expected at its usual place below the user's home. The search pauses twice,
before it looks for manifests and before it looks for the linter, so that other work can
go on in between. A look that the system refuses ends it.
-/
namespace LintBridge

/-- How a linter was found. -/
inductive Origin where
  | explicit | foreman | bundled
  deriving DecidableEq, Repr

def Origin.name : Origin → String
  | .explicit => "explicit"
  | .foreman => "foreman"
  | .bundled => "bundled"

/-- A linter and the directory in which it is to run. -/
structure Toolchain where
  executable : String
  ruleDirectory : Option String
  origin : Origin
  deriving DecidableEq, Repr

namespace Toolchain

def manifestName : String := "foreman.toml"

/-- The usual place of the linter below a home directory. -/
def binaryPath (home : FilePath) : FilePath :=
  ((home.child ".foreman").child "bin").child "lute"

/-- The manifest of the first folder that has one. -/
def findManifest (fs : FileSystem) : List FilePath → Except SystemError (Option FilePath)
  | [] => .ok none
  | root :: rest =>
    let candidate := root.child manifestName
    match fs.isFile candidate with
    | .error e => .error e
    | .ok true => .ok (some (candidate.absolute fs.workingDirectory))
    | .ok false => findManifest fs rest

/-- How far a search has come. -/
inductive Search where
  | settled (t : Option Toolchain)
  | refused (e : SystemError)
  | manifests (roots : List FilePath)
  | binary (manifest : FilePath)
  deriving DecidableEq, Repr

/-- A search, and what was reported by its last step. -/
structure SearchStep where
  events : List Log.Event
  search : Search

namespace Search

/-- Begin a search with the configured executable and the workspace folders. -/
def start (explicit : String) (roots : List FilePath) : SearchStep :=
  if explicit ≠ "" then ⟨[], settled (some ⟨explicit, none, .explicit⟩)⟩
  else if roots.isEmpty then ⟨[.explicitPathUnset, .noWorkspaceRoots], settled none⟩
  else
    ⟨[.explicitPathUnset, .manifestSearch manifestName roots.length], manifests roots⟩

/-- Look at the file system once. -/
def step (fs : FileSystem) (home : FilePath) : Search → SearchStep
  | settled t => ⟨[], settled t⟩
  | refused e => ⟨[], refused e⟩
  | manifests roots =>
    match findManifest fs roots with
    | .error e => ⟨[], refused e⟩
    | .ok none => ⟨[.manifestNotFound manifestName], settled none⟩
    | .ok (some manifest) =>
      ⟨[.manifestFound manifest.text (binaryPath home).text], binary manifest⟩
  | binary manifest =>
    let path := binaryPath home
    match fs.isFile path with
    | .error e => ⟨[], refused e⟩
    | .ok true =>
      ⟨[.binaryFound path.text], settled (some ⟨path.text, some manifest.parent.text, .foreman⟩)⟩
    | .ok false => ⟨[.binaryMissing path.text], settled none⟩

end Search

/-- A whole search on a file system that does not change meanwhile. -/
def resolve (fs : FileSystem) (home : FilePath) (explicit : String) (roots : List FilePath) :
    Except SystemError (Option Toolchain) × List Log.Event :=
  let first := Search.start explicit roots
  let second := first.search.step fs home
  let third := second.search.step fs home
  let found := match third.search with
    | .settled t => .ok t
    | .refused e => .error e
    | _ => .ok none
  (found, first.events ++ second.events ++ third.events)

end Toolchain
end LintBridge
