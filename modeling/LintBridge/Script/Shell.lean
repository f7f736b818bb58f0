import LintBridge.Text.Utf8
/-!
Small shell scripts, as people wrap around a linter: commands in a row, words in quotes,
the arguments of the script, texts that stand in the script itself, and the two output
streams. What a script comes to is a function of its text, its arguments and its working
directory.
-/
namespace LintBridge.Script

/-- A script at work. A status is there once the script has ended; it is negative if a
signal ended it. -/
structure Shell where
  args : List String
  cwd : String
  stdout : List UInt8
  stderr : List UInt8
  seconds : Nat
  status : Option Int
  deriving Repr

/-- The words read so far, the last one first, and the word that is being read, if any. -/
structure Words where
  before : List String
  current : Option String

namespace Words

def add (w : Words) (s : String) : Words := { w with current := some (w.current.getD "" ++ s) }

def push (w : Words) (c : Char) : Words := w.add (String.singleton c)

/-- End the word that is being read. -/
def cut (w : Words) : Words := ⟨w.current.elim w.before (· :: w.before), none⟩

def toList (w : Words) : List String := w.cut.before.reverse

/-- All arguments as words of their own, joined to what stands before and after. -/
def addAll (w : Words) : List String → Words
  | [] => w
  | [s] => w.add s
  | s :: more => addAll (w.add s).cut more

end Words

/-- An argument by its number, from one on. -/
def argument (args : List String) : Nat → String
  | 0 => ""
  | n + 1 => args[n]?.getD ""

/-- What a name of one character after a dollar sign stands for. -/
def parameter (args : List String) (w : Words) (name : Char) : Option Words :=
  if name = '#' then some (w.add (toString args.length))
  else if name = '$' then some (w.add "1")
  else if name = '@' then some (w.addAll args)
  else if name.isDigit then some (w.add (argument args (name.toNat - 48)))
  else none

/-- Characters that a backslash protects inside double quotes. -/
def isProtected (c : Char) : Bool := c = '$' || c = '"' || c = '\\' || c = '\x60'

/-- The words of one command and the script after it. -/
def words (args : List String) (quote : Option Char) : List Char → Words → List String × List Char
  | [], w => (w.toList, [])
  | '\\' :: c :: rest, w =>
    if quote = some '\'' || (quote = some '"' && !isProtected c) then
      words args quote rest ((w.push '\\').push c)
    else words args quote rest (w.push c)
  | '$' :: c :: rest, w =>
    if quote = some '\'' then words args quote (c :: rest) (w.push '$')
    else match parameter args w c with
      | some w => words args quote rest w
      | none => words args quote (c :: rest) (w.push '$')
  | c :: rest, w =>
    if quote = some c then words args none rest w
    else if quote.isSome then words args quote rest (w.push c)
    else if c = '\'' || c = '"' then words args (some c) rest (w.add "")
    else if c = ' ' || c = '\t' then words args none rest w.cut
    else if c = ';' || c = '\n' then (w.toList, c :: rest)
    else words args none rest (w.push c)
termination_by s => s.length

def isOctal (c : Char) : Bool := '0' ≤ c && c ≤ '7'

/-- The value of the octal digits at the front, at most so many, and what stands after them. -/
def octal : Nat → Nat → List Char → Nat × List Char
  | 0, n, s => (n, s)
  | most + 1, n, c :: s => if isOctal c then octal most (8 * n + (c.toNat - 48)) s else (n, c :: s)
  | _ + 1, n, [] => (n, [])

/-- The octets of one escape, from the character after its backslash. -/
def escape (s : List Char) : List UInt8 × List Char :=
  match s with
  | 'n' :: rest => ([10], rest)
  | 't' :: rest => ([9], rest)
  | 'r' :: rest => ([13], rest)
  | '\\' :: rest => ([92], rest)
  | c :: rest =>
    if isOctal c then let (n, rest) := octal 3 0 (c :: rest); ([UInt8.ofNat n], rest)
    else (92 :: Text.Utf8.encode (String.singleton c), rest)
  | [] => ([92], [])

/-- The octets of a text with escapes. -/
def unescape : Nat → List Char → List UInt8
  | 0, _ | _, [] => []
  | fuel + 1, '\\' :: rest => (escape rest).1 ++ unescape fuel (escape rest).2
  | fuel + 1, c :: rest => Text.Utf8.encode (String.singleton c) ++ unescape fuel rest

/-- One pass of a pattern over the arguments, and the arguments that it left. -/
def fillOnce : Nat → List Char → List String → List UInt8 × List String
  | 0, _, args | _, [], args => ([], args)
  | fuel + 1, '%' :: '%' :: rest, args =>
    let (out, more) := fillOnce fuel rest args
    (37 :: out, more)
  | fuel + 1, '%' :: c :: rest, args =>
    let (out, more) := fillOnce fuel rest args.tail
    (Text.Utf8.encode (args.headD (if c = 'd' then "0" else "")) ++ out, more)
  | fuel + 1, '\\' :: rest, args =>
    let (out, more) := fillOnce fuel (escape rest).2 args
    ((escape rest).1 ++ out, more)
  | fuel + 1, c :: rest, args =>
    let (out, more) := fillOnce fuel rest args
    (Text.Utf8.encode (String.singleton c) ++ out, more)

/-- A pattern as often as there are arguments left for it. -/
def fill (pattern : List Char) : Nat → List String → List UInt8
  | 0, _ => []
  | fuel + 1, args =>
    let (out, more) := fillOnce (pattern.length + 1) pattern args
    if more.isEmpty || more.length = args.length then out else out ++ fill pattern fuel more

def signals : List (String × Int) :=
  [("-9", 9), ("-KILL", 9), ("-2", 2), ("-INT", 2), ("-6", 6), ("-ABRT", 6), ("-11", 11),
    ("-SEGV", 11), ("-1", 1), ("-HUP", 1)]

def isErrorMark (w : String) : Bool := w = ">&2" || w = "1>&2"

namespace Shell

/-- Run one command on an input. -/
def command (sh : Shell) (words : List String) (input : List UInt8) : Shell :=
  let write (octets : List UInt8) : Shell :=
    if words.any isErrorMark then { sh with stderr := sh.stderr ++ octets }
    else { sh with stdout := sh.stdout ++ octets }
  let plain := words.filter fun w => !isErrorMark w && w ≠ "exec"
  match plain with
  | "echo" :: rest =>
    let text := (String.intercalate " " rest).toList
    write (unescape (text.length + 1) text ++ [10])
  | "printf" :: pattern :: rest => write (fill pattern.toList (rest.length + 1) rest)
  | "cat" :: _ => write input
  | "pwd" :: _ => write (Text.Utf8.encode (sh.cwd ++ "\n"))
  | ["exit"] => { sh with status := some 0 }
  | "exit" :: n :: _ => { sh with status := some ((n.toNat?.getD 2 % 256 : Nat) : Int) }
  | "kill" :: signal :: _ => { sh with status := some (-(signals.lookup signal).getD 15) }
  | "sleep" :: n :: _ => { sh with seconds := sh.seconds + n.toNat?.getD 1 }
  | _ => sh

end Shell

/-- The lines up to a mark, and the script after it. -/
def untilMark (mark : List Char) : Nat → List Char → List Char × List Char
  | 0, s => ([], s)
  | fuel + 1, s =>
    let line := s.takeWhile (· ≠ '\n')
    let rest := (s.dropWhile (· ≠ '\n')).drop 1
    if line = mark || s.isEmpty then ([], rest)
    else
      let (body, after) := untilMark mark fuel rest
      (line ++ '\n' :: body, after)

/-- Run a script with so many steps at most. -/
def runFuel : Nat → Shell → List Char → Shell
  | 0, sh, _ | _, sh, [] => sh
  | fuel + 1, sh, c :: rest =>
    if sh.status.isSome then sh
    else if c = '\n' || c = ';' || c = ' ' || c = '\t' then runFuel fuel sh rest
    else if c = '#' then runFuel fuel sh (rest.dropWhile (· ≠ '\n'))
    else
      let (found, after) := words sh.args none (c :: rest) ⟨[], none⟩
      match found.find? (·.startsWith "<<") with
      | none => runFuel fuel (sh.command found []) after
      | some here =>
        let (body, after) := untilMark (here.toList.drop 2) (after.length + 1) (after.drop 1)
        let input := Text.Utf8.encode (String.ofList body)
        runFuel fuel (sh.command (found.filter (· ≠ here)) input) after

/-- Run a script to its end. -/
def run (script : String) (args : List String) (cwd : String) : Shell :=
  runFuel (script.length + 1) ⟨args, cwd, [], [], 0, none⟩ script.toList

end LintBridge.Script
