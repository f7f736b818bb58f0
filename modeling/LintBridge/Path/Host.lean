import LintBridge.Path.Uri
import LintBridge.Text.Quoted
/-!
The host of a URI. Between brackets stands an address of eight groups or one of a form to
come, and no character of the host may turn into a mark of the URI when it is brought into
its compatible form.
-/
namespace LintBridge.Uri

open Text (split hexValue?)

/-- Why the host of a URI is none. -/
inductive HostFault where
  | loneBracket
  | noAddress (text : String)
  | shortAddress (text : String)
  | futureForm (text : String)
  | foldedMark (authority : String)
  deriving DecidableEq, Repr

def HostFault.message : HostFault → String
  | .loneBracket => "Invalid IPv6 URL"
  | .noAddress text => s!"{Text.quoted text} does not appear to be an IPv4 or IPv6 address"
  | .shortAddress _ => "An IPv4 address cannot be in brackets"
  | .futureForm _ => "IPvFuture address is invalid"
  | .foldedMark authority =>
    s!"netloc '{authority}' contains invalid characters under NFKC normalization"

/-- A number of at most 255 in at most three digits, without a zero in front. -/
def isAddressOctet (s : List Char) : Bool :=
  !s.isEmpty && s.length ≤ 3 && s.all Char.isDigit && (s = ['0'] || s.head? ≠ some '0')
    && s.foldl (fun n c => 10 * n + (c.toNat - 48)) 0 ≤ 255

/-- Four numbers between points. -/
def isShortAddress (s : List Char) : Bool :=
  let octets := split '.' s
  octets.length = 4 && octets.all isAddressOctet

/-- A group of one to four hexadecimal digits. -/
def isGroup (s : List Char) : Bool :=
  !s.isEmpty && s.length ≤ 4 && s.all fun c => (hexValue? c).isSome

/-- The groups of an address; a short address at the end stands for two of them. -/
def addressGroups (s : List Char) : Option (List (List Char)) :=
  let groups := split ':' s
  match groups.getLast? with
  | some last =>
    if last.contains '.' then
      if isShortAddress last then some (groups.dropLast ++ [['0'], ['0']]) else none
    else some groups
  | none => none

/-- Are these the groups of an address: eight, or fewer around one double colon? -/
def areGroups (groups : List (List Char)) : Bool :=
  match groups with
  | [[], [], []] => true
  | [] :: [] :: rest => rest.length ≤ 7 && rest.all isGroup
  | _ =>
    let front := groups.takeWhile (!·.isEmpty)
    match groups.dropWhile (!·.isEmpty) with
    | [] => groups.length = 8 && groups.all isGroup
    | [_] => false
    | _ :: back =>
      let back := if back = [[]] then [] else back
      !front.isEmpty && front.length + back.length ≤ 7 && (front ++ back).all isGroup

/-- An address of eight groups, with or without the name of a zone. -/
def isLongAddress (s : List Char) : Bool :=
  let zone := s.dropWhile (· ≠ '%')
  let address := s.takeWhile (· ≠ '%')
  (zone.isEmpty || (2 ≤ zone.length && !zone.tail.contains '%'))
    && (3 ≤ (split ':' address).length)
    && (addressGroups address).any areGroups

/-- An address of a form to come: the letter `v`, hexadecimal digits, a point, and a text. -/
def isFutureForm (s : List Char) : Bool :=
  match s with
  | 'v' :: rest =>
    let digits := rest.takeWhile fun c => (hexValue? c).isSome
    let tail := rest.drop digits.length
    !digits.isEmpty && tail.head? = some '.' && 2 ≤ tail.length
  | _ => false

/-- Characters whose compatible form holds a mark that ends a host or divides it. -/
def foldedMarks : List Char :=
  ['\u2047', '\u2048', '\u2049', '\u2100', '\u2101', '\u2105', '\u2106', '\u2a74', '\ufe13',
    '\ufe16', '\ufe55', '\ufe56', '\ufe5f', '\ufe6b', '\uff03', '\uff0f', '\uff1a', '\uff1f',
    '\uff20']

/-- The text between the first opening bracket and the closing bracket after it. -/
def bracketed (authority : List Char) : List Char :=
  ((authority.dropWhile (· ≠ '[')).drop 1).takeWhile (· ≠ ']')

/-- What is wrong with an authority, if anything is. -/
def hostFault? (authority : List Char) : Option HostFault :=
  let host := bracketed authority
  let text := String.ofList host
  if authority.contains '[' != authority.contains ']' then some .loneBracket
  else if authority.contains '[' && host.head? = some 'v' && !isFutureForm host then
    some (.futureForm text)
  else if authority.contains '[' && host.head? ≠ some 'v' && isShortAddress host then
    some (.shortAddress text)
  else if authority.contains '[' && host.head? ≠ some 'v' && !isLongAddress host then
    some (.noAddress text)
  else if authority.any foldedMarks.contains then some (.foldedMark (String.ofList authority))
  else none

/-- The path that a file URI names, once its host is one. -/
def checkedPath? (uri : String) : Except HostFault (Option String) :=
  match hostFault? (parts uri).authority with
  | some fault => .error fault
  | none => .ok (filePath? uri)

end LintBridge.Uri
