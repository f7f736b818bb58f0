import LintBridge.Cli.Usage
import LintBridge.FileSystem
import LintBridge.Number.Numeral
/-!
What a command line asks for. The program's own options come before the name of the
command; a request for help or for the version stands before everything else in its part
of the line, and values are checked before words that are too many.
-/
namespace LintBridge.Cli

structure CheckRequest where
  files : List FilePath
  workspace : Option FilePath
  executable : Option String
  rules : Option String
  json : Bool
  deriving DecidableEq, Repr

structure ResolveRequest where
  path : FilePath
  json : Bool
  deriving DecidableEq, Repr

/-- Where a server listens. -/
inductive Listening where
  | stdio
  | tcp (host : String) (port : Int)
  deriving DecidableEq, Repr

inductive Request where
  | check (r : CheckRequest)
  | resolve (r : ResolveRequest)
  | serve (l : Listening)
  deriving Repr

/-- What comes of reading a command line, or the part of it that belongs to a command. -/
inductive Asked (α : Type) where
  | request (a : α)
  | help (c : Command)
  | version
  | helpForNothing
  | misused (c : Command) (f : UsageFault)
  | failed (f : Failure)
  deriving Repr

namespace Asked

/-- Go on with a request. -/
def bind {α β : Type} (a : Asked α) (f : α → Asked β) : Asked β :=
  match a with
  | request x => f x
  | help c => help c
  | version => version
  | helpForNothing => helpForNothing
  | misused c fault => misused c fault
  | failed f => failed f

instance : Monad Asked where
  pure := request
  bind := bind

end Asked

/-- What stands at a path as it is written; one that ends in a slash names a directory. -/
def entryAt? (fs : FileSystem) (path : String) : Option FileEntry :=
  let s := path.toList
  if s.isEmpty then none
  else if s.getLast? = some '/' && !fs.isDirectory (.ofText path) then none
  else fs.lookup (.ofText path)

/-- A path that must name a file. -/
def filePath (fs : FileSystem) (c : Command) (parameter path : String) : Asked FilePath :=
  if path.toList.contains '\x00' then .failed .nulCharacter
  else match entryAt? fs path with
    | some (.file ..) => .request (.ofText path)
    | some .directory => .misused c (.invalidValue parameter (.isDirectory "File" path))
    | none => .misused c (.invalidValue parameter (.notFound "File" path))

/-- A path that must name a directory. -/
def directoryPath (fs : FileSystem) (c : Command) (parameter path : String) : Asked FilePath :=
  if path.toList.contains '\x00' then .failed .nulCharacter
  else match entryAt? fs path with
    | some .directory => .request (.ofText path)
    | some (.file ..) => .misused c (.invalidValue parameter (.isFile "Directory" path))
    | none => .misused c (.invalidValue parameter (.notFound "Directory" path))

def port (word : String) : Asked Int :=
  match Numeral.whole? word with
  | some n => .request n
  | none => .misused .serve (.invalidValue "'--port'" (.notInteger word))

/-- Refuse words that are left over. -/
def noMore (c : Command) (words : List String) : Asked Unit :=
  if words.isEmpty then .request () else .misused c (.extraWords words)

def checkRequest (fs : FileSystem) (a : Arguments) : Asked CheckRequest := do
  let workspace ← match a.value? "--workspace" with
    | some path => some <$> directoryPath fs .check "'--workspace' / '-w'" path
    | none => pure none
  if a.words.isEmpty then .misused .check (.operandMissing "FILES...")
  else
    let files ← a.words.mapM (filePath fs .check "'FILES...'")
    return ⟨files, workspace, a.value? "--executable", a.value? "--rules", a.has "--json"⟩

def resolveRequest (fs : FileSystem) (a : Arguments) : Asked ResolveRequest := do
  let path ← directoryPath fs .resolve "'[PATH]'" (a.words.headD ".")
  noMore .resolve a.words.tail
  return ⟨path, a.has "--json"⟩

def serveRequest (a : Arguments) : Asked Listening := do
  let port ← match a.value? "--port" with
    | some word => port word
    | none => pure 2087
  noMore .serve a.words
  return if a.has "--tcp" then .tcp ((a.value? "--host").getD "127.0.0.1") port else .stdio

/-- Sort out the part of a command line that belongs to a command. -/
def argumentsOf (c : Command) (words : List String) : Asked Arguments :=
  match Arguments.ofWords c.options (c = .program) words with
  | .error f => .misused c (.argument f)
  | .ok a =>
    match a.options.find? fun o => o.name = "--help" || o.name = "--version" with
    | some o => if o.name = "--help" then .help c else .version
    | none => .request a

/-- The request of a command with the words after its name. -/
def Command.request (fs : FileSystem) (c : Command) (words : List String) : Asked Request := do
  let a ← argumentsOf c words
  match c with
  | check => Request.check <$> checkRequest fs a
  | resolve => Request.resolve <$> resolveRequest fs a
  | serve => Request.serve <$> serveRequest a
  | program => .misused .program .commandMissing

/-- A line up to the words of a command: whether much is to be logged, the command and its
words. -/
structure Called where
  verbose : Bool
  command : Command
  words : List String
  deriving DecidableEq, Repr

/-- Read a line up to the words of a command. -/
def called (words : List String) : Asked Called := do
  if words.isEmpty then .helpForNothing
  else
    let a ← argumentsOf .program words
    match a.words with
    | [] => .misused .program .commandMissing
    | name :: rest =>
      match Command.subcommands.find? fun c => c.name = name with
      | some c => return ⟨a.has "--verbose", c, rest⟩
      | none =>
        let _ ← argumentsOf .program a.words
        .misused .program (.noSuchCommand name
          (Text.closeMatches name (Command.subcommands.map Command.name) 3))

end LintBridge.Cli
