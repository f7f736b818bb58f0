import LintBridge.Text.Similarity
import LintBridge.Text.Pieces
/-!
Command lines as lists of words. A word that begins with a hyphen names an option, or
several by their letters; an option either is a flag or takes a value, which may stand in
the same word. Two hyphens alone end the options.
-/
namespace LintBridge.Cli

/-- An option by its names, the letter first, and the name of its value if it takes one. -/
structure OptionSpec where
  names : List String
  value : Option String
  help : String
  deriving DecidableEq, Repr

namespace OptionSpec

/-- The full name of an option. -/
def fullName (o : OptionSpec) : String := o.names.getLast?.getD ""

def takesValue (o : OptionSpec) : Bool := o.value.isSome

end OptionSpec

/-- What is wrong with the words of a command line. -/
inductive ArgumentFault where
  | noSuchOption (name : String) (alike : List String)
  | valueMissing (name : String)
  | valueUnwanted (name : String)
  deriving DecidableEq, Repr

/-- An option that was given, by its full name, with its value. -/
structure GivenOption where
  name : String
  value : Option String
  deriving DecidableEq, Repr

/-- The words of a command line, sorted out: the options in the order in which they were
given, and all other words. -/
structure Arguments where
  options : List GivenOption
  words : List String
  deriving DecidableEq, Repr

namespace Arguments

def addOption (a : Arguments) (o : OptionSpec) (value : Option String) : Arguments :=
  { a with options := a.options ++ [⟨o.fullName, value⟩] }

def addWord (a : Arguments) (w : String) : Arguments := { a with words := a.words ++ [w] }

/-- The value that was given last for an option. -/
def value? (a : Arguments) (name : String) : Option String :=
  (a.options.reverse.find? fun o => o.name = name).bind GivenOption.value

/-- Was an option given? -/
def has (a : Arguments) (name : String) : Bool := a.options.any fun o => o.name = name

end Arguments

/-- The names of two hyphens of a list of options. -/
def fullNames (specs : List OptionSpec) : List String :=
  (specs.flatMap OptionSpec.names).filter (·.startsWith "--")

def find? (specs : List OptionSpec) (name : String) : Option OptionSpec :=
  specs.find? fun o => o.names.contains name

/-- A word before and after its first equals sign. -/
def splitEquals (word : String) : String × Option String :=
  let s := word.toList
  match s.dropWhile (· ≠ '=') with
  | _ :: value => (String.ofList (s.takeWhile (· ≠ '=')), some (String.ofList value))
  | [] => (word, none)

/-- Take the letters of a word one after the other. The first one that takes a value takes
the rest of the word, or the next word if nothing is left. -/
def takeLetters (specs : List OptionSpec) : List Char → List String → Arguments →
    Except ArgumentFault (Arguments × List String)
  | [], rest, a => .ok (a, rest)
  | c :: letters, rest, a =>
    let name := String.ofList ['-', c]
    match find? specs name with
    | none => .error (.noSuchOption name [])
    | some o =>
      if !o.takesValue then takeLetters specs letters rest (a.addOption o none)
      else if !letters.isEmpty then .ok (a.addOption o (some (String.ofList letters)), rest)
      else match rest with
        | value :: rest => .ok (a.addOption o (some value), rest)
        | [] => .error (.valueMissing name)

/-- Take one word that begins with a hyphen. -/
def takeOption (specs : List OptionSpec) (word : String) (rest : List String) (a : Arguments) :
    Except ArgumentFault (Arguments × List String) :=
  let (name, attached) := splitEquals word
  match (find? specs name).filter fun _ => name.startsWith "--" with
  | some o =>
    if o.takesValue then
      match attached, rest with
      | some value, rest => .ok (a.addOption o (some value), rest)
      | none, value :: rest => .ok (a.addOption o (some value), rest)
      | none, [] => .error (.valueMissing name)
    else if attached.isSome then .error (.valueUnwanted name)
    else .ok (a.addOption o none, rest)
  | none =>
    if word.startsWith "--" then
      .error (.noSuchOption name (Text.closeMatches name (fullNames specs) 3))
    else takeLetters specs (word.toList.drop 1) rest a

/-- Sort out a command line in so many steps at most. With `stops` the first word that is no
option ends the options. -/
def sortFuel (specs : List OptionSpec) (stops : Bool) : Nat → List String → Arguments →
    Except ArgumentFault Arguments
  | 0, rest, a => .ok { a with words := a.words ++ rest }
  | _ + 1, [], a => .ok a
  | fuel + 1, word :: rest, a =>
    if word = "--" then .ok { a with words := a.words ++ rest }
    else if word.startsWith "-" && word ≠ "-" then
      match takeOption specs word rest a with
      | .error f => .error f
      | .ok (a, rest) => sortFuel specs stops fuel rest a
    else if stops then .ok { a with words := a.words ++ word :: rest }
    else sortFuel specs stops fuel rest (a.addWord word)

/-- Sort out a command line. -/
def Arguments.ofWords (specs : List OptionSpec) (stops : Bool) (words : List String) :
    Except ArgumentFault Arguments :=
  sortFuel specs stops (words.length + 1) words ⟨[], []⟩

end LintBridge.Cli
