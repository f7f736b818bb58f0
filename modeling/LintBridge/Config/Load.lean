import LintBridge.Config.Schema
import LintBridge.Config.Environment
import LintBridge.Config.RuntimeState
/-!
The configuration from all its layers. From the lowest to the highest: defaults, the
user's file, the runtime state, the workspace's file, the environment, and the settings
that a caller gives. The layers are merged key by key and then checked as one.
-/
namespace LintBridge.Config

open Value

/-- Where configuration comes from. -/
structure Sources where
  files : FileSystem
  userFile : FilePath
  environment : Environment

/-- A loaded configuration or why there is none, and what was reported on the way. -/
structure Loaded where
  result : Except Failure Settings
  events : List Log.Event

/-- The workspace's own configuration file. -/
def workspaceFile (root : FilePath) : FilePath := (root.child ".lutels").child "config.yaml"

/-- The layers of files in one: the user's file, the state if there is one, and the
workspace's file. -/
def fileLayers (user : Entries) (state : Option RuntimeState) (workspace : Entries) : Entries :=
  let below := match state with
    | some s => merge user [(.text "lint", s.toValue)]
    | none => user
  merge below workspace

/-- Give sections that differ from a declared one only in case the declared name, the
declared sections first. -/
def callerLayer (given : Entries) : Entries :=
  let named (name : String) : Option (Value × Value) :=
    match Entries.field? given name with
    | some v => some (.text name, v)
    | none => (given.find? fun e => match e.1 with
        | .text k => k.toLower = name
        | _ => false).map fun e => (.text name, e.2)
  let isSection (e : Value × Value) : Bool := match e.1 with
    | .text k => sections.contains k.toLower
    | _ => false
  sections.filterMap named ++ given.filter fun e => !isSection e

/-- A setting that is not as it is asked for: a fault that tells its value, if that can be
written. -/
def mismatched (m : Schema.Mismatch) : Failure :=
  match Cause.ofSetting? m.location m.input m.demand.message with
  | some cause => .fault cause.toFault
  | none => .unwritable

/-- Check the layers as one configuration. -/
def settle (homes : Homes) (files environment caller : Entries) : Except Failure Settings :=
  let all := merge files (merge environment caller)
  if !RuntimeState.keysAreText all then .error .keysNotText
  else match checkSettings homes all with
    | .ok s => .ok s
    | .error .homeUnknown => .error .homeUnknown
    | .error (.mismatch m) => .error (mismatched m)

/-- Everything above the files. -/
def assemble (src : Sources) (files given : Entries) : Except Failure Settings :=
  match environmentLayer src.environment sections with
  | .error name => .error (.environment name)
  | .ok environment => settle src.files.homes files environment (callerLayer given)

/-- Load the configuration for a workspace, or for none. -/
def load (src : Sources) (workspace : Option FilePath) (given : Entries) : Loaded :=
  match readMapping src.files src.userFile with
  | .error f => ⟨.error f, []⟩
  | .ok user =>
    match workspace with
    | none => ⟨assemble src user given, []⟩
    | some root =>
      match RuntimeState.load src.files (RuntimeState.path root) with
      | .error e => ⟨.error (.system e), []⟩
      | .ok (state, events) =>
        match readMapping src.files (workspaceFile root) with
        | .error f => ⟨.error f, events⟩
        | .ok own => ⟨assemble src (fileLayers user state own) given, events⟩

end LintBridge.Config
