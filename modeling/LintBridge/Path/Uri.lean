import LintBridge.Path.Lexical
import LintBridge.Text.DecimalDigit
import LintBridge.Text.Utf8
/-!
File URIs. A path is written with every octet escaped that is no letter, digit, slash or
one of four marks; reading takes a URI apart, keeps only the scheme `file`, and undoes
the escapes.
-/
namespace LintBridge.Uri

open Text (split hexValue?)

/-- The octets of ASCII text with its escapes undone; a `%` without two hexadecimal digits
after it stands for itself. -/
def unescape : List Char → List UInt8
  | [] => []
  | '%' :: a :: b :: rest =>
    match hexValue? a, hexValue? b with
    | some high, some low => UInt8.ofNat (high * 16 + low) :: unescape rest
    | _, _ => 37 :: unescape (a :: b :: rest)
  | c :: rest => UInt8.ofNat c.toNat :: unescape rest

def isAscii (c : Char) : Bool := c.toNat < 128

/-- Undo the escapes in each run of ASCII characters. -/
def decodeRuns : Nat → List Char → List Char
  | 0, _ => []
  | _, [] => []
  | fuel + 1, c :: s =>
    let s := c :: s
    if isAscii c then
      (Text.Utf8.decodeLenient (unescape (s.takeWhile isAscii))).toList ++
        decodeRuns fuel (s.dropWhile isAscii)
    else
      s.takeWhile (!isAscii ·) ++ decodeRuns fuel (s.dropWhile (!isAscii ·))

/-- Undo the escapes of a text. -/
def decodeEscapes (s : List Char) : List Char := decodeRuns (s.length + 1) s

/-- The parts of a URI that matter for files. -/
structure Parts where
  scheme : List Char
  authority : List Char
  path : List Char
  deriving DecidableEq, Repr

def isSchemeChar (c : Char) : Bool := c.isAlphanum || c = '+' || c = '-' || c = '.'

/-- Split the scheme off: letters, digits and three marks before the first colon. -/
def splitScheme (s : List Char) : List Char × List Char :=
  let name := s.takeWhile (· ≠ ':')
  match s.dropWhile (· ≠ ':'), name with
  | ':' :: rest, c :: _ =>
    if c.isAlpha && name.all isSchemeChar then (name.map Char.toLower, rest) else ([], s)
  | _, _ => ([], s)

def isAuthorityEnd (c : Char) : Bool := c = '/' || c = '?' || c = '#'

/-- Take a URI apart. Controls and blanks in front of it and line ends and tabs inside it
do not count; query and fragment are dropped. -/
def parts (uri : String) : Parts :=
  let s := (uri.toList.dropWhile fun c => c.toNat ≤ 32).filter fun c =>
    c ≠ '\t' && c ≠ '\n' && c ≠ '\r'
  let (scheme, rest) := splitScheme s
  let (authority, rest) := match rest with
    | '/' :: '/' :: rest =>
      (rest.takeWhile (!isAuthorityEnd ·), rest.dropWhile (!isAuthorityEnd ·))
    | _ => ([], rest)
  ⟨scheme, authority, rest.takeWhile fun c => c ≠ '#' && c ≠ '?'⟩

/-- The path that a file URI names; `none` for other schemes, and the empty text where a
URI has no path. -/
def filePath? (uri : String) : Option String :=
  let p := parts uri
  let authority := decodeEscapes p.authority
  let path := decodeEscapes p.path
  if decodeEscapes p.scheme ≠ "file".toList then none
  else if !authority.isEmpty && !path.isEmpty then
    some (String.ofList ('/' :: '/' :: authority ++ path))
  else match path with
    | '/' :: drive :: ':' :: rest =>
      if drive.isAlpha then some (String.ofList (drive.toLower :: ':' :: rest))
      else some (String.ofList path)
    | _ => some (String.ofList path)

/-- Octets that stand for themselves in a path. -/
def isPlain (b : UInt8) : Bool :=
  let c := Char.ofNat b.toNat
  b.toNat < 128 && (c.isAlphanum || c = '_' || c = '.' || c = '-' || c = '~' || c = '/')

def upperHexDigit (n : Nat) : Char := (String.singleton (Text.Utf8.hexDigit n)).toUpper.front

/-- One octet of a path. -/
def escapeOctet (b : UInt8) : List Char :=
  if isPlain b then [Char.ofNat b.toNat]
  else ['%', upperHexDigit (b.toNat / 16), upperHexDigit (b.toNat % 16)]

/-- The URI of an absolute path. -/
def ofPath (path : String) : String :=
  "file://" ++ String.ofList ((Text.Utf8.encode path).flatMap escapeOctet)

end LintBridge.Uri
