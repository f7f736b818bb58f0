import LintBridge.Config.Schema
import LintBridge.Lint.Registry
import LintBridge.Lint.Toolchain
import LintBridge.Path.Uri
/-!
The state of an editor session: its configuration and workspace folders, the linter once
it is found, a counter per document, and the quick fixes of the last published cycles.
The counter of a document grows with every cycle and every closing, so that a cycle can
tell whether anything was begun after it.
-/
namespace LintBridge

structure Session where
  config : Config.LintConfig
  roots : List FilePath
  persists : Bool
  home : FilePath
  /-- The linter that comes with the program. -/
  packaged : String
  registry : Registry
  toolchain : Option Toolchain
  generations : Assoc String Nat
  deriving Repr

namespace Session

/-- A session at its beginning. -/
def fresh (config : Config.LintConfig) (roots : List FilePath) (persists : Bool)
    (home : FilePath) (packaged : String) : Session :=
  { config, roots, persists, home, packaged, registry := .empty, toolchain := none,
    generations := [] }

/-- Swap the configuration, and the folders if there are new ones, and forget the linter. -/
def reconfigure (s : Session) (config : Config.LintConfig) (roots : Option (List FilePath)) :
    Session :=
  { s with config, roots := roots.getD s.roots, toolchain := none }

/-- Forget all documents and the linter. -/
def shutdown (s : Session) : Session :=
  { s with
    registry := s.generations.keys.foldl Registry.clear s.registry
    generations := []
    toolchain := none }

/-- Is a document of a language linted? A document without a language is. -/
def isLintable (s : Session) (language : Option String) : Bool :=
  match language with
  | none => true
  | some l => s.config.languages.contains l

/-- The first folder whose components begin a document's path. -/
def rootFor (roots : List FilePath) (uri : String) : Except Failure (Option FilePath) :=
  match Uri.checkedPath? uri with
  | .error fault => .error (.host fault)
  | .ok none => .ok none
  | .ok (some path) =>
    if path.isEmpty then .ok none
    else .ok (roots.find? fun root => (FilePath.ofText path).isUnder root)

/-- The counter of a document; one that was never opened stands at zero. -/
def generation (s : Session) (uri : String) : Nat := (s.generations.get? uri).getD 0

/-- Advance the counter of a document. -/
def advance (s : Session) (uri : String) : Session :=
  { s with generations := s.generations.put uri (s.generation uri + 1) }

/-- Is a cycle of a document still the last thing begun for it? -/
def isCurrent (s : Session) (uri : String) (generation : Nat) : Bool :=
  s.generations.get? uri = some generation

@[simp] theorem generation_advance (s : Session) (uri other : String) :
    (s.advance uri).generation other =
      if uri = other then s.generation uri + 1 else s.generation other := by
  by_cases h : uri = other <;> simp [advance, generation, h]

/-- The quick fixes at a stretch of a document. -/
def codeActions (s : Session) (uri : String) (range : EditorRange) : List QuickFix :=
  s.registry.query uri range

end Session
end LintBridge
