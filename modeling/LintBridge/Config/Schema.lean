import LintBridge.Schema.Scalar
import LintBridge.Log.Level
import LintBridge.FileSystem
/-!
The configuration and how untyped data is checked against it. Fields are checked in the
order in which they are declared; unknown fields inside a section are ignored.
-/
namespace LintBridge.Config

open Schema

inductive LogFormat where
  | json | console
  deriving DecidableEq, Repr

def LogFormat.name : LogFormat → String
  | .json => "json"
  | .console => "console"

/-- Where log records go: the error stream, or a file named by an absolute path. -/
inductive Destination where
  | stderr
  | file (path : String)
  deriving DecidableEq, Repr

def Destination.text : Destination → String
  | .stderr => "stderr"
  | .file path => path

/-- One output of the log; without a level of its own it has that of the whole log. -/
structure LogOutput where
  format : LogFormat
  destination : Destination
  level : Option Log.Level
  deriving DecidableEq, Repr

structure LoggingConfig where
  level : Log.Level
  outputs : List LogOutput
  deriving DecidableEq, Repr

/-- The linter's configuration. Empty paths are unset. -/
structure LintConfig where
  executablePath : String
  ruleConfigPath : String
  manifestDirectory : Option String
  bundledExecutable : Option String
  languages : List String
  timeout : Option Binary64
  deriving DecidableEq, Repr

def LogOutput.default : LogOutput := ⟨.console, .stderr, none⟩

def LoggingConfig.default : LoggingConfig := ⟨.info, [LogOutput.default]⟩

def LintConfig.default : LintConfig := ⟨"", "", none, none, ["luau", "lua"], none⟩

/-- The configuration of the whole program. -/
structure Settings where
  logging : LoggingConfig
  lint : LintConfig
  deriving DecidableEq, Repr

/-- Failures of checking: a mismatch, or a home directory that is not known. -/
inductive CheckFailure where
  | mismatch (m : Mismatch)
  | homeUnknown
  deriving Repr

abbrev Checking (α : Type) := Except CheckFailure α

def CheckFailure.under (step : String) : CheckFailure → CheckFailure
  | .mismatch m => .mismatch (m.under step)
  | .homeUnknown => .homeUnknown

/-- The name behind a tilde at the beginning of a relative path, and the components after it. -/
def tilde? (p : FilePath) : Option (List Char × List (List Char)) :=
  match p.slashes, p.parts with
  | 0, ('~' :: user) :: rest => some (user, rest)
  | _, _ => none

/-- The home of a user; that of nobody in particular is the own one. A home that begins with a
tilde itself is none. -/
def homeOf? (homes : Homes) (user : List Char) : Option FilePath :=
  (if user.isEmpty then some homes.own else homes.ofUser user).filter fun home =>
    (tilde? home).isNone

/-- A path whose first component names a home directory, with that directory in its place. -/
def expandHome (homes : Homes) (p : FilePath) : Option FilePath :=
  match tilde? p with
  | some (user, rest) =>
    (homeOf? homes user).map fun home => { home with parts := home.parts ++ rest }
  | none => some p

/-- A place for log records. The output stream carries the editor protocol and is none. -/
def checkDestination (homes : Homes) (v : Value) : Checking Destination := do
  let s ← (text v).mapError .mismatch
  if s = "stderr" then return .stderr
  if s = "stdout" then
    throw (.mismatch ⟨[], .rule "stdout carries the LSP stream and cannot receive logs", v⟩)
  if (tilde? (.ofText s)).any fun named => named.1.contains '\x00' then
    throw (.mismatch ⟨[], .rule "embedded null byte", v⟩)
  match expandHome homes (.ofText s) with
  | none => throw .homeUnknown
  | some p =>
    if p.isAbsolute then return .file p.text
    else throw (.mismatch ⟨[], .rule s!"File destination must be absolute path: {s}", v⟩)

def checkFormat : Value → Checked LogFormat :=
  oneOf [("json", .json), ("console", .console)]

def checkLevel : Value → Checked Log.Level := oneOf Log.Level.named

def checkOutput (homes : Homes) (v : Value) : Checking LogOutput := do
  let es ← (entries "LogOutputConfig" v).mapError .mismatch
  let format ← (defaulted es "format" .console checkFormat).mapError .mismatch
  let destination ← match Value.Entries.field? es "destination" with
    | some d => (checkDestination homes d).mapError (.under "destination")
    | none => pure .stderr
  let level ← (defaulted es "level" none (nullable checkLevel)).mapError .mismatch
  return ⟨format, destination, level⟩

/-- Check the outputs one after the other. -/
def checkOutputs (homes : Homes) : Nat → List Value → Checking (List LogOutput)
  | _, [] => .ok []
  | index, v :: rest =>
    match checkOutput homes v with
    | .error f => .error (f.under (toString index))
    | .ok output => (checkOutputs homes (index + 1) rest).map (output :: ·)

def checkOutputList (homes : Homes) : Value → Checking (List LogOutput)
  | .list vs | .tuple vs | .set vs => checkOutputs homes 0 vs
  | v => .error (.mismatch ⟨[], .list, v⟩)

def checkLogging (homes : Homes) (v : Value) : Checking LoggingConfig := do
  let es ← (entries "LoggingConfig" v).mapError .mismatch
  let level ← (defaulted es "level" .info checkLevel).mapError .mismatch
  let outputs ← match Value.Entries.field? es "outputs" with
    | some outputs => (checkOutputList homes outputs).mapError (.under "outputs")
    | none => pure [LogOutput.default]
  return ⟨level, outputs⟩

/-- A length of time, which must be more than zero if it is a number at all. -/
def checkTimeout (v : Value) : Checked (Option Binary64) := do
  let timeout ← nullable number v
  match timeout with
  | none => return none
  | some x =>
    if x.isNonPositive then fail (.rule s!"timeout_sec must be positive, got {x.text}") v
    else return some x

def checkLint (v : Value) : Checked LintConfig := do
  let es ← entries "LintConfig" v
  let executablePath ← defaulted es "executable_path" "" text
  let ruleConfigPath ← defaulted es "rule_config_path" "" text
  let manifestDirectory ← defaulted es "toolchain_manifest_directory" none (nullable text)
  let bundledExecutable ← defaulted es "bundled_executable" none (nullable text)
  let languages ← defaulted es "languages" LintConfig.default.languages (list text)
  let timeout ← defaulted es "timeout_sec" none checkTimeout
  return ⟨executablePath, ruleConfigPath, manifestDirectory, bundledExecutable, languages, timeout⟩

/-- The names of the sections, in the order in which they are checked. -/
def sections : List String := ["logging", "lint"]

/-- The first entry that is no section. -/
def firstExtra (es : Value.Entries) : Option (Value × Value) :=
  es.find? fun e => !sections.any fun name => e.1.sameKey (.text name)

/-- The whole configuration: the logging section, the lint section, and nothing else. -/
def checkSettings (homes : Homes) (es : Value.Entries) : Checking Settings := do
  let logging ← match Value.Entries.field? es "logging" with
    | some v => (checkLogging homes v).mapError (.under "logging")
    | none => pure LoggingConfig.default
  let lint ← match Value.Entries.field? es "lint" with
    | some v => (checkLint v).mapError fun m => .mismatch (m.under "lint")
    | none => pure LintConfig.default
  match firstExtra es with
  | some (k, v) => throw (.mismatch ⟨[k.display], .noExtra, v⟩)
  | none => return ⟨logging, lint⟩

end LintBridge.Config
