import LintBridge.Assoc
/-!
The kinds of nodes that the format knows, and the kind of a plain scalar, which is read
off its text.
-/
namespace LintBridge.Yaml

inductive Tag where
  | null | bool | int | float | binary | timestamp
  | omap | pairs | set | str | seq | map | merge | value
  | other (name : String)
  deriving DecidableEq, Repr

/-- What the standard tags begin with. -/
def tagLead : String := "tag:yaml.org,2002:"

def standardTags : List (String × Tag) :=
  [("null", .null), ("bool", .bool), ("int", .int), ("float", .float), ("binary", .binary),
   ("timestamp", .timestamp), ("omap", .omap), ("pairs", .pairs), ("set", .set), ("str", .str),
   ("seq", .seq), ("map", .map), ("merge", .merge), ("value", .value)]

/-- The tag with a full name. -/
def Tag.ofName (name : String) : Tag :=
  ((standardTags.find? fun (short, _) => tagLead ++ short = name).map Prod.snd).getD (.other name)

def isDigitOr (c : Char) : Bool := c.isDigit || c = '_'

def boolWords : List (String × Bool) :=
  [("yes", true), ("no", false), ("true", true), ("false", false), ("on", true), ("off", false)]

/-- A word in lower case, in capitals, or with a first capital. -/
def spellings (word : String) : List String := [word, word.capitalize, word.toUpper]

def isBool (s : List Char) : Bool :=
  boolWords.any fun (word, _) => (spellings word).any fun w => w.toList = s

def isNull (s : List Char) : Bool :=
  s = [] || s = ['~'] || (spellings "null").any fun w => w.toList = s

def dropSign : List Char → List Char
  | '+' :: rest => rest
  | '-' :: rest => rest
  | s => s

/-- One or more groups of a colon and a number below sixty. -/
def sixtiesTail : Nat → List Char → Option (List Char)
  | 0, _ => none
  | fuel + 1, ':' :: a :: rest =>
    match rest with
    | b :: rest' =>
      if a.isDigit && a.toNat < 54 && b.isDigit then
        some ((sixtiesTail fuel rest').getD rest')
      else if a.isDigit then some ((sixtiesTail fuel rest).getD rest)
      else none
    | [] => if a.isDigit then some [] else none
  | _, _ => none

/-- Behind groups of a colon and a number below sixty; `none` if there is none. -/
def sixties (s : List Char) : Option (List Char) := sixtiesTail (s.length + 1) s

/-- An exponent, whose sign is written, or nothing. -/
def isSignedExponent : List Char → Bool
  | [] => true
  | e :: sign :: digits =>
    (e = 'e' || e = 'E') && (sign = '+' || sign = '-') && !digits.isEmpty && digits.all Char.isDigit
  | _ => false

/-- Digits, a point, and an exponent, or digits in base sixty with a point. -/
def isPointed (s : List Char) : Bool :=
  match s with
  | c :: _ =>
    c.isDigit &&
      let rest := s.dropWhile isDigitOr
      match rest with
      | '.' :: rest => isSignedExponent (rest.dropWhile isDigitOr)
      | _ =>
        match sixties rest with
        | some ('.' :: rest) => rest.all isDigitOr
        | _ => false
  | [] => false

def isFloat (s : List Char) : Bool :=
  let body := dropSign s
  isPointed body ||
    (match s with
     | '.' :: c :: rest => c.isDigit && isSignedExponent (rest.dropWhile isDigitOr)
     | _ => false) ||
    ([".inf", ".Inf", ".INF"].any fun w => w.toList = body) ||
    ([".nan", ".NaN", ".NAN"].any fun w => w.toList = s)

/-- A non-empty rest made of some characters. -/
def isSome (p : Char → Bool) (s : List Char) : Bool := !s.isEmpty && s.all p

def isHexOr (c : Char) : Bool :=
  isDigitOr c || ('a' ≤ c && c ≤ 'f') || ('A' ≤ c && c ≤ 'F')

def isInt (s : List Char) : Bool :=
  match dropSign s with
  | '0' :: 'b' :: rest => isSome (fun c => c = '0' || c = '1' || c = '_') rest
  | '0' :: 'x' :: rest => isSome isHexOr rest
  | ['0'] => true
  | '0' :: rest => isSome (fun c => ('0' ≤ c && c ≤ '7') || c = '_') rest
  | c :: rest =>
    c.isDigit &&
      let tail := rest.dropWhile isDigitOr
      tail.isEmpty || sixties tail = some []
  | [] => false

/-- So many digits at least and at most, and what follows them. -/
def digitsBetween (least most : Nat) (s : List Char) : Option (List Char × List Char) :=
  let digits := (s.take most).takeWhile Char.isDigit
  if digits.length < least then none else some (digits, s.drop digits.length)

def afterChar (c : Char) : List Char → Option (List Char)
  | d :: rest => if c = d then some rest else none
  | [] => none

/-- The parts of a timestamp as they are written. -/
structure TimestampText where
  year : List Char
  month : List Char
  day : List Char
  clock : Option (List Char × List Char × List Char × List Char)
  /-- A zone: its sign, hours and minutes, or universal time. -/
  zone : Option (Option (Char × List Char × List Char))

def isGap (c : Char) : Bool := c = ' ' || c = '\t'

/-- A zone behind a time of day, up to the end. -/
def zoneText? (s : List Char) : Option (Option (Option (Char × List Char × List Char))) :=
  if s.isEmpty then some none
  else match s.dropWhile isGap with
    | ['Z'] => some (some none)
    | sign :: rest =>
      if sign = '+' || sign = '-' then
        match digitsBetween 1 2 rest with
        | some (hours, []) => some (some (some (sign, hours, [])))
        | some (hours, rest) => do
          let rest ← afterChar ':' rest
          let (minutes, rest) ← digitsBetween 2 2 rest
          if rest.isEmpty then some (some (some (sign, hours, minutes))) else none
        | none => none
      else none
    | [] => none

/-- The parts of a timestamp. -/
def timestampText? (s : List Char) : Option TimestampText := do
  let (year, rest) ← digitsBetween 4 4 s
  let rest ← afterChar '-' rest
  let (month, rest) ← digitsBetween 1 2 rest
  let rest ← afterChar '-' rest
  let (day, rest) ← digitsBetween 1 2 rest
  match rest with
  | [] => some ⟨year, month, day, none, none⟩
  | c :: after =>
    let rest ←
      if c = 'T' || c = 't' then some after
      else if isGap c then some (after.dropWhile isGap)
      else none
    let (hour, rest) ← digitsBetween 1 2 rest
    let rest ← afterChar ':' rest
    let (minute, rest) ← digitsBetween 2 2 rest
    let rest ← afterChar ':' rest
    let (second, rest) ← digitsBetween 2 2 rest
    let (part, rest) := match rest with
      | '.' :: rest => (rest.takeWhile Char.isDigit, rest.dropWhile Char.isDigit)
      | _ => ([], rest)
    let zone ← zoneText? rest
    some ⟨year, month, day, some (hour, minute, second, part), zone⟩

/-- A plain scalar is a timestamp if, without a time of day, month and day have two digits. -/
def isTimestamp (s : List Char) : Bool :=
  match timestampText? s with
  | some t => t.clock.isSome || (t.month.length = 2 && t.day.length = 2)
  | none => false

/-- The kind of a plain scalar. -/
def Tag.ofPlain (text : String) : Tag :=
  let s := text.toList
  if isBool s then .bool
  else if isFloat s then .float
  else if isInt s then .int
  else if s = ['<', '<'] then .merge
  else if isNull s then .null
  else if isTimestamp s then .timestamp
  else if s = ['='] then .value
  else .str

end LintBridge.Yaml
