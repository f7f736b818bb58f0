import LintBridge.Config.Load
import LintBridge.Config.Settings
import LintBridge.Session.Run
import LintBridge.Surroundings
/-!
The language server between its editor and its session. The editor tells what becomes of
documents, folders and settings; the session is started by the first thing that needs it
and ends with the server. What an event did before a failure stays done.
-/
namespace LintBridge

/-- An open document. -/
structure Document where
  text : String
  language : Option String
  deriving DecidableEq, Repr

/-- What the editor told the server, and its session if there is one. Documents stand in
the order in which they were opened. -/
structure Server where
  settings : Value
  folders : List String
  /-- The folder of an editor that has no list of folders. -/
  rootPath : Option String
  documents : Assoc String Document
  session : Option Session
  deriving Repr

namespace Server

/-- A server that was told nothing but its folders. -/
def fresh (folders : List String) (rootPath : Option String) : Server :=
  ⟨.map [], folders, rootPath, [], none⟩

/-- What the editor tells. -/
inductive Event where
  | started (options : Value)
  | ready
  | opened (uri : String) (document : Document)
  | saved (uri : String)
  | lintRequested (uri : String)
  | closed (uri : String)
  | configured (settings : Value)
  | foldersReplaced (folders : List String)
  | stopped
  deriving Repr

/-- A server at work: the files that it sees, what it did so far, and what the processes
come to that it has yet to start. -/
structure Work where
  server : Server
  files : FileSystem
  effects : List Effect
  ends : List ProcessEnd

/-- Work that can fail; a failure undoes nothing. -/
abbrev Handling (α : Type) := ExceptT Failure (StateM Work) α

/-- A folder from its URI, or nothing for one that names no path. -/
def folderRoot? (uri : String) : Except Failure (Option FilePath) :=
  match Uri.checkedPath? uri with
  | .error fault => .error (.host fault)
  | .ok none => .ok none
  | .ok (some path) => .ok (if path.isEmpty then none else some (.ofText path))

/-- The folders of the workspace, or the single one of an editor without a list. -/
def roots (s : Server) : Except Failure (List FilePath) := do
  let listed ← s.folders.mapM folderRoot?
  match listed.filterMap id, s.rootPath with
  | [], some path => return if path.isEmpty then [] else [.ofText path]
  | found, _ => return found

/-- The text and the language of a document; one that is not open is read from its file. -/
def document (s : Server) (fs : FileSystem) (uri : String) : Except Failure Document :=
  match s.documents.get? uri with
  | some d => .ok d
  | none =>
    match Uri.checkedPath? uri with
    | .error fault => .error (.host fault)
    | .ok none => .error (.system (.notFound uri))
    | .ok (some path) => (fs.readText (.ofText path)).map fun text => ⟨text, none⟩

/-- Is this a fault of the configuration? -/
def configFault? : Failure → Option Fault
  | .fault f => if f.family = .config then some f else none
  | _ => none

def emit (effects : List Effect) : Handling Unit :=
  modify fun w => { w with effects := w.effects ++ effects }

def setServer (change : Server → Server) : Handling Unit :=
  modify fun w => { w with server := change w.server }

def attempt {α : Type} (r : Except Failure α) : Handling α := ExceptT.mk (pure r)

/-- Load the lint configuration. A fault of the configuration is reported and gives
nothing; every other failure goes on. -/
def loadConfig (around : Surroundings) (roots : List FilePath) :
    Handling (Option Config.LintConfig) := do
  let w ← get
  let given := (Config.settingsSections w.server.settings).map fun e => (Value.text e.1, e.2)
  let loaded := Config.load ⟨w.files, around.userFile, around.environment⟩ roots.head? given
  emit (Session.reports none loaded.events)
  match loaded.result with
  | .ok settings => return some settings.lint
  | .error failure =>
    match configFault? failure with
    | some fault =>
      emit (Session.reports none [.configLoadFailed fault])
      return none
    | none => throw failure

/-- The session, started if there is none. Without a configuration it has the default. -/
def ensureSession (around : Surroundings) : Handling Session := do
  match (← get).server.session with
  | some session => return session
  | none =>
    let roots ← attempt (← get).server.roots
    let config := (← loadConfig around roots).getD .default
    let session := Session.fresh config roots true (← get).files.home around.packaged
    setServer fun s => { s with session := some session }
    emit (Session.reports none [.sessionStarted (roots.map FilePath.text)])
    return session

/-- Read the configuration again; if that fails, the one before stays. -/
def reload (around : Surroundings) : Handling Unit := do
  let session ← ensureSession around
  let roots ← attempt (← get).server.roots
  let config := (← loadConfig around roots).getD session.config
  setServer fun s => { s with session := some (session.reconfigure config (some roots)) }

/-- Take over what a cycle did. Each process that it started used up one end. -/
def settle (turn : Turn Session.Played) : Handling Unit := do
  modify fun w => { w with
    server := { w.server with session := some turn.session }
    files := turn.files
    effects := w.effects ++ turn.effects
    ends := w.ends.drop (turn.effects.countP Effect.isSpawn) }
  match turn.value with
  | .ended (.error failure) => throw failure
  | _ => return ()

/-- Lint a document. -/
def lint (around : Surroundings) (uri : String) : Handling Unit := do
  let session ← ensureSession around
  let w ← get
  let d ← attempt (w.server.document w.files uri)
  settle (session.lintDocument w.files true none uri d.text d.language w.ends)

/-- Lint all open documents in the order in which they were opened. -/
def lintOpen (around : Surroundings) : Handling Unit := do
  for uri in (← get).server.documents.keys do
    lint around uri

/-- Close a document. -/
def close (around : Surroundings) (uri : String) : Handling Unit := do
  setServer fun s => { s with documents := s.documents.erase uri }
  let session ← ensureSession around
  let turn := session.closeDocument (← get).files true uri
  setServer fun s => { s with session := some turn.session }
  emit turn.effects

/-- Shut the session down, if there is one. -/
def stop : Handling Unit := do
  setServer fun s => { s with session := none }
  emit (Session.reports none [.sessionStopped])

/-- Handle an event to its end. -/
def handle (around : Surroundings) : Event → Handling Unit
  | .started options =>
    setServer fun s => { s with
      settings := if options.isFalsy then .map [] else options, session := none }
  | .ready => do
    let _ ← ensureSession around
    lintOpen around
  | .opened uri document => do
    setServer fun s => { s with documents := s.documents.put uri document }
    lint around uri
  | .saved uri | .lintRequested uri => lint around uri
  | .closed uri => close around uri
  | .configured settings => do
    unless settings matches .null do setServer fun s => { s with settings }
    reload around
    lintOpen around
  | .foldersReplaced folders => do
    setServer fun s => { s with folders }
    reload around
  | .stopped => stop

/-- The kind of code action that the server has. -/
def quickFixKind : String := "quickfix"

/-- The quick fixes at a stretch of a document. An editor may name the kinds of action that
it wants; an empty list of kinds asks for all. -/
def codeActions (around : Surroundings) (uri : String) (range : EditorRange)
    (only : List String) : Handling (List QuickFix) := do
  if !only.isEmpty && !only.contains quickFixKind then return []
  let session ← ensureSession around
  return session.codeActions uri range

end Server
end LintBridge
