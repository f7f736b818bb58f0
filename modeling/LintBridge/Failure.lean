import LintBridge.Fault
import LintBridge.Json.Decode
import LintBridge.Document.EditorRange
import LintBridge.Schema.Mismatch
import LintBridge.Console.Markup
import LintBridge.Path.Host
/-!
Everything that can end an operation early: the faults that the program names itself, and
the failures that pass through it because nothing catches them.
-/
namespace LintBridge

/-- A refusal by the operating system. -/
structure SystemError where
  number : Int
  text : String
  path : Option String
  deriving DecidableEq, Repr

def SystemError.message (e : SystemError) : String :=
  let head := s!"[Errno {e.number}] {e.text}"
  match e.path with
  | some path => s!"{head}: {Text.quoted path}"
  | none => head

namespace SystemError

def notFound (path : String) : SystemError := ⟨2, "No such file or directory", some path⟩
def notPermitted (path : String) : SystemError := ⟨13, "Permission denied", some path⟩
def exists_ (path : String) : SystemError := ⟨17, "File exists", some path⟩
def notDirectory (path : String) : SystemError := ⟨20, "Not a directory", some path⟩
def isDirectory (path : String) : SystemError := ⟨21, "Is a directory", some path⟩

/-- Does an error mean that nothing is there? The numbers are those of a missing entry, of
a bad descriptor, of a way through a file, and of links that lead in a circle. -/
def meansAbsence (e : SystemError) : Bool := [2, 9, 20, 40].contains e.number

end SystemError

/-- Why a scalar of a document cannot be given its value. -/
inductive ScalarFault where
  | integer (literal : String) (base : Nat)
  | number (literal : String)
  | boolean (literal : String)
  | empty
  | timestamp
  | digitLimit (digits : Nat)
  | overflow
  | rule (why : String)
  deriving DecidableEq, Repr

def ScalarFault.message : ScalarFault → String
  | .integer literal base => s!"invalid literal for int() with base {base}: {Text.quoted literal}"
  | .number literal => s!"could not convert string to float: {Text.quoted literal}"
  | .boolean literal => Text.quoted literal
  | .empty => "string index out of range"
  | .digitLimit digits => (Json.Refusal.digitLimit digits).message
  | .timestamp => "'NoneType' object has no attribute 'groupdict'"
  | .overflow => "int too large to convert to float"
  | .rule why => why

inductive Failure where
  | fault (f : Fault)
  | digitLimit (digits : Nat)
  | coordinate (c : CoordinateFault)
  | undecodable (u : Text.Utf8.Undecodable)
  | scalar (s : ScalarFault)
  | environment (section_ : String)
  | keysNotText
  | homeUnknown
  | unwritable
  | nulCharacter
  | host (f : Uri.HostFault)
  | transportClosed
  | mismatch (m : Schema.Mismatch)
  | system (e : SystemError)
  | markup (f : Console.MarkupFault)
  deriving Repr

def Failure.message : Failure → String
  | .fault f => f.summary
  | .digitLimit digits => (Json.Refusal.digitLimit digits).message
  | .coordinate c => c.message
  | .undecodable u => u.message
  | .scalar s => s.message
  | .environment name =>
    s!"error parsing value for field \"{name}\" from source \"EnvSettingsSource\""
  | .keysNotText => "keywords must be strings"
  | .homeUnknown => "Could not determine home directory."
  | .unwritable =>
    s!"Exceeds the limit ({LintBridge.digitLimit} digits) for integer string conversion; " ++
      "use sys.set_int_max_str_digits() to increase the limit"
  | .nulCharacter => "embedded null byte"
  | .host f => f.message
  | .transportClosed => "transport closed"
  | .mismatch m => s!"{m.location}: {m.demand.message}"
  | .system e => e.message
  | .markup f => f.message

end LintBridge
