import LintBridge.Lint.Invocation
import LintBridge.FileSystem
import LintBridge.Script.Shell
import LintBridge.Number.Arithmetic
/-!
What becomes of a process that is started on a file system. A command is refused for a NUL
that it or its working directory holds, for its working directory or for its executable, in
this order; an executable file is a script and runs to its end or past its time.
-/
namespace LintBridge.Script

/-- The longest argument that a command may hold, in octets, with its end mark. -/
def argumentLimit : Nat := 131072

/-- What is wrong with a working directory. -/
def directoryFault? (fs : FileSystem) (cwd : Option String) : Option SystemError :=
  match cwd with
  | none => none
  | some d =>
    if d.isEmpty then some (.notFound d)
    else match fs.lookup (.ofText d) with
      | some .directory => none
      | some _ => some (.notDirectory d)
      | none => some (.notFound d)

/-- Does a limit pass before so many whole seconds are over? -/
def isOutlasted (limit : Option Seconds) (seconds : Nat) : Bool :=
  match limit with
  | none => false
  | some (.whole n) => n ≤ seconds
  | some (.real x) =>
    seconds ≠ 0 && ((Binary64.add (.ofInt seconds) x.neg).isPositive || x = .ofInt seconds)

/-- The octets of an executable file, or the refusal. -/
def executable (fs : FileSystem) (name : String) : Except SystemError (List UInt8) :=
  if !name.toList.contains '/' then .error (.notFound name)
  else match fs.lookup (.ofText name) with
    | none => .error (.notFound name)
    | some .directory | some (.file _ false) => .error (.notPermitted name)
    | some (.file octets true) => .ok octets

/-- Start a process and wait for its end. -/
def start (fs : FileSystem) (command : List String) (cwd : Option String)
    (limit : Option Seconds) : ProcessEnd :=
  let name := command.headD ""
  let place := (cwd.map FilePath.ofText).getD fs.workingDirectory
  if Command.holdsNul command cwd then .refusedArgument
  else match directoryFault? fs cwd with
    | some e => .refused e
    | none =>
      if command.any fun a => argumentLimit ≤ a.utf8ByteSize + 1 then
        .refused ⟨7, "Argument list too long", some name⟩
      else match executable { fs with workingDirectory := place } name with
        | .error e => .refused e
        | .ok octets =>
          let script := Text.Utf8.decodeLenient octets
          if !script.startsWith "#!" then .refused ⟨8, "Exec format error", some name⟩
          else
            let ended := run script command.tail place.text
            if isOutlasted limit ended.seconds then .outlasted false
            else .exited (some (ended.status.getD 0)) ended.stdout ended.stderr

end LintBridge.Script
