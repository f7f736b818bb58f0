import LintBridge.Path.Lexical
import LintBridge.Failure
import LintBridge.Assoc
/-!
The part of a file system that the program can see: directories and files by their place
below the root, the working directory, and the user's home. A pair of points in a path
leaves a directory only if that directory exists. The system can refuse to look a name up,
because the name is too long, because a directory may not be searched, or for any other
reason; who looks is then told so, unless the error means just that nothing is there.
-/
namespace LintBridge

/-- What stands at a place. -/
inductive FileEntry where
  | directory
  | file (octets : List UInt8) (executable : Bool)
  deriving DecidableEq, Repr

def FileEntry.isFile : FileEntry → Bool
  | .directory => false
  | .file .. => true

/-- A place below the root. -/
abbrev Place := List (List Char)

/-- Why the system does not look a name up: the number of its error and the error's text. -/
structure Refusal where
  number : Int
  text : String
  deriving DecidableEq, Repr

namespace Refusal

def nameTooLong : Refusal := ⟨36, "File name too long"⟩

/-- The error for a path on which a name is refused. -/
def toError (r : Refusal) (p : FilePath) : SystemError := ⟨r.number, r.text, some p.text⟩

end Refusal

/-- The number of octets of a text. -/
def octetCount : List Char → Nat
  | [] => 0
  | c :: cs => c.utf8Size + octetCount cs

@[simp] theorem octetCount_append (s t : List Char) :
    octetCount (s ++ t) = octetCount s + octetCount t := by
  induction s with
  | nil => simp [octetCount]
  | cons c s ih => simp [octetCount, ih, Nat.add_assoc]

/-- The number of octets in the longest name that a directory can hold. -/
def longestName : Nat := 255

/-- The home directories that the system knows: the own one, and those of users by name. -/
structure Homes where
  own : FilePath
  ofUser : List Char → Option FilePath

structure FileSystem where
  entries : Assoc Place FileEntry
  workingDirectory : FilePath
  home : FilePath
  /-- The homes of other users. -/
  userHome : List Char → Option FilePath := fun _ => none
  /-- Why a name is not looked up in a directory, if it is not. -/
  refusal : Place → List Char → Option Refusal := fun _ name =>
    if longestName < octetCount name then some .nameTooLong else none
  /-- The number of octets from which on a path is too long. -/
  pathLimit : Nat := 4096

namespace FileSystem

/-- A file system with nothing in it but the root, which is also the working directory and
the home. -/
def empty : FileSystem := { entries := [], workingDirectory := ⟨1, []⟩, home := ⟨1, []⟩ }

def homes (fs : FileSystem) : Homes := ⟨fs.home, fs.userHome⟩

/-- What stands at a place; the root is a directory. -/
def at? (fs : FileSystem) (place : Place) : Option FileEntry :=
  if place = [] then some .directory else fs.entries.get? place

def isDirectoryAt (fs : FileSystem) (place : Place) : Bool := fs.at? place = some .directory

/-- Follow components from a place; every place that is left must be a directory. -/
def follow? (fs : FileSystem) : Place → List (List Char) → Option Place
  | place, [] => some place
  | place, c :: rest =>
    if !fs.isDirectoryAt place then none
    else if c = ['.', '.'] then fs.follow? place.dropLast rest
    else fs.follow? (place ++ [c]) rest

/-- The place that a path names, seen from the working directory. -/
def place? (fs : FileSystem) (p : FilePath) : Option Place :=
  fs.follow? [] (p.absolute fs.workingDirectory).parts

/-- The first refusal on the way along components from a place. The way ends where
something that is left is no directory. -/
def refusalAlong? (fs : FileSystem) : Place → List (List Char) → Option Refusal
  | _, [] => none
  | place, c :: rest =>
    if !fs.isDirectoryAt place then none
    else match fs.refusal place c with
      | some r => some r
      | none =>
        if c = ['.', '.'] then fs.refusalAlong? place.dropLast rest
        else fs.refusalAlong? (place ++ [c]) rest

/-- The place from which a path is followed. -/
def start? (fs : FileSystem) (p : FilePath) : Option Place :=
  if p.isAbsolute then some [] else fs.follow? [] fs.workingDirectory.parts

/-- The error for a path that the system does not even begin to follow: one with a NUL, which
is in no name, or one that is too long. -/
def rejected? (fs : FileSystem) (p : FilePath) : Option SystemError :=
  if p.parts.any fun c => c.contains '\x00' then some (.notFound p.text)
  else if fs.pathLimit ≤ octetCount p.text.toList then some (Refusal.nameTooLong.toError p)
  else none

/-- The error with which the system refuses to follow a path. -/
def refused? (fs : FileSystem) (p : FilePath) : Option SystemError :=
  (fs.rejected? p).or
    (((fs.start? p).bind fun place => fs.refusalAlong? place p.parts).map (·.toError p))

/-- What stands at a path, as far as the system lets it be seen. -/
def lookup (fs : FileSystem) (p : FilePath) : Option FileEntry :=
  if (fs.refused? p).isSome then none else (fs.place? p).bind fs.at?

/-- What a look at a path shows, or the error with which it ends. -/
def look (fs : FileSystem) (p : FilePath) : Except SystemError (Option FileEntry) :=
  match fs.refused? p with
  | some e => if e.meansAbsence then .ok none else .error e
  | none => .ok (fs.lookup p)

def exists_ (fs : FileSystem) (p : FilePath) : Except SystemError Bool :=
  (fs.look p).map Option.isSome

def isFile (fs : FileSystem) (p : FilePath) : Except SystemError Bool :=
  (fs.look p).map fun found => found.any FileEntry.isFile

def isDirectory (fs : FileSystem) (p : FilePath) : Bool := fs.lookup p = some .directory

/-- The octets of a file, or why it cannot be read. -/
def read (fs : FileSystem) (p : FilePath) : Except SystemError (List UInt8) :=
  match fs.refused? p with
  | some e => .error e
  | none =>
    match fs.lookup p with
    | some (.file octets _) => .ok octets
    | some .directory => .error (.isDirectory p.text)
    | none => .error (.notFound p.text)

/-- Put an entry at a place, and directories above it. -/
def putAt (fs : FileSystem) (place : Place) (entry : FileEntry) : FileSystem :=
  let above := (List.range place.length).map fun n => place.take n
  let entries := above.foldl (fun es p =>
    if p = [] || (es.get? p).isSome then es else es.put p .directory) fs.entries
  { fs with entries := entries.put place entry }

/-- Create a directory and those above it, as a preparation; what is there stays. -/
def addDirectory (fs : FileSystem) (p : FilePath) : FileSystem :=
  let place := (p.resolved fs.workingDirectory).parts
  if place = [] || (fs.entries.get? place).isSome then fs else fs.putAt place .directory

/-- Put a file, as a preparation. -/
def addFile (fs : FileSystem) (p : FilePath) (octets : List UInt8) (executable : Bool) :
    FileSystem :=
  fs.putAt (p.resolved fs.workingDirectory).parts (.file octets executable)

/-- Remove what stands at a path and below it. -/
def remove (fs : FileSystem) (p : FilePath) : FileSystem :=
  let place := (p.resolved fs.workingDirectory).parts
  { fs with entries := fs.entries.filter fun e => !place.isPrefixOf e.1 }

/-- Is there anything but a directory above a place? -/
def isBlocked (fs : FileSystem) (place : Place) : Bool :=
  (List.range place.length).any fun n =>
    match fs.at? (place.take n) with
    | some (.file ..) => true
    | _ => false

/-- The error with which the system refuses to put something at a path: the first refusal
on the way down to its place, whether or not the directories above it are there. -/
def forbidden? (fs : FileSystem) (p : FilePath) : Option SystemError :=
  let place := (p.resolved fs.workingDirectory).parts
  (fs.rejected? p).or ((List.range place.length).findSome? fun n =>
    (fs.refusal (place.take n) (place.getD n [])).map (·.toError p))

/-- Create a directory and those above it; one that exists is left as it is. -/
def makeDirectories (fs : FileSystem) (p : FilePath) : Except SystemError FileSystem :=
  let place := (p.resolved fs.workingDirectory).parts
  match fs.forbidden? p with
  | some e => .error e
  | none =>
    if fs.isBlocked place then .error (.notDirectory p.text)
    else match fs.at? place with
      | some .directory => .ok fs
      | some (.file ..) => .error (.exists_ p.text)
      | none => .ok (fs.putAt place .directory)

/-- Write a file in a directory that exists. -/
def write (fs : FileSystem) (p : FilePath) (octets : List UInt8) :
    Except SystemError FileSystem :=
  let place := (p.resolved fs.workingDirectory).parts
  match fs.forbidden? p with
  | some e => .error e
  | none =>
    match fs.at? place with
    | some .directory => .error (.isDirectory p.text)
    | some (.file _ executable) =>
      .ok { fs with entries := fs.entries.put place (.file octets executable) }
    | none =>
      if fs.isBlocked place then .error (.notDirectory p.text)
      else if !fs.isDirectoryAt place.dropLast then .error (.notFound p.text)
      else .ok { fs with entries := fs.entries.put place (.file octets false) }

end FileSystem

/-- Every end of a line as a line feed. -/
def unixLines : List Char → List Char
  | [] => []
  | '\r' :: '\n' :: rest => '\n' :: unixLines rest
  | '\r' :: rest => '\n' :: unixLines rest
  | c :: rest => c :: unixLines rest

/-- Are these the first two octets of a surrogate? A reader waits for the third. -/
def isSurrogateHead : List UInt8 → Bool
  | [a, b] => a = 0xED && 0xA0 ≤ b && b ≤ 0xBF
  | _ => false

/-- The text of octets that were read piece by piece: one that ends inside a character is
faulted at that character's own beginning. -/
def decodeStream (octets : List UInt8) : Except Text.Utf8.Undecodable String :=
  match Text.Utf8.decode octets with
  | .ok s => .ok (String.ofList (unixLines s.toList))
  | .error u =>
    let isOpen := u.flaw = .truncated || isSurrogateHead (octets.drop u.position)
    .error (if isOpen then { u with position := 0 } else u)

/-- The text of a file. -/
def FileSystem.readText (fs : FileSystem) (p : FilePath) : Except Failure String :=
  match fs.read p with
  | .error e => .error (.system e)
  | .ok octets => (decodeStream octets).mapError .undecodable

end LintBridge
