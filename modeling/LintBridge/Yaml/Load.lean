import LintBridge.Yaml.Node
import LintBridge.Yaml.Calendar
import LintBridge.Number.Arithmetic
/-!
The value of a YAML document. Mappings that are merged into another one come before its
own entries. A document may be refused, or a scalar may have no value; where several
things are wrong the outermost level decides, and on one level the first place.
-/
namespace LintBridge.Yaml

/-- Why a document has no value. -/
inductive LoadFault where
  | refused
  | scalar (s : ScalarFault)
  deriving DecidableEq, Repr

def digitOf? (base : Nat) (c : Char) : Option Nat :=
  (Text.hexValue? c).filter (· < base)

/-- The letter that may introduce a number in a base. -/
def baseLetter (base : Nat) : Option Char :=
  if base = 2 then some 'b' else if base = 8 then some 'o' else if base = 16 then some 'x' else none

/-- A literal in a base, with blanks around it, a sign and an introduction. -/
def integerLiteral (base : Nat) (literal : List Char) : Except ScalarFault Int :=
  let (negative, body) := Numeral.sign (Text.trim Text.isBlank literal)
  let body := match body, baseLetter base with
    | '0' :: c :: rest, some letter => if c.toLower = letter then rest else body
    | _, _ => body
  let fault := Except.error (ScalarFault.integer (String.ofList literal) base)
  if body.isEmpty then fault
  else if base = 10 && body.all Char.isDigit && digitLimit < body.length then
    .error (.digitLimit body.length)
  else match body.mapM (digitOf? base) with
    | none => fault
    | some digits =>
      let n : Nat := digits.foldl (fun n d => base * n + d) 0
      .ok (if negative then -(n : Int) else n)

/-- The value of a number in base sixty from its parts. -/
def baseSixty (parts : List Int) : Int := parts.foldl (fun n part => 60 * n + part) 0

def intValue (text : String) : Except ScalarFault Int :=
  match text.toList.filter (· ≠ '_') with
  | [] => .error .empty
  | s =>
    let (negative, body) := Numeral.sign s
    let signed (n : Int) : Int := if negative then -n else n
    match body with
    | [] => .error .empty
    | ['0'] => .ok 0
    | '0' :: 'b' :: rest => (integerLiteral 2 rest).map signed
    | '0' :: 'x' :: rest => (integerLiteral 16 rest).map signed
    | '0' :: _ => (integerLiteral 8 body).map signed
    | _ =>
      if body.contains ':' then
        ((Text.split ':' body).mapM (integerLiteral 10)).map fun parts => signed (baseSixty parts)
      else (integerLiteral 10 body).map signed

def numberLiteral (literal : List Char) : Except ScalarFault Binary64 :=
  match Numeral.decimal? (Text.trim Text.isBlank literal) with
  | some x => .ok x
  | none => .error (.number (String.ofList literal))

/-- The sum of the parts of a number in base sixty, taken from the last one on. The power of
sixty that belongs to a part must be a number itself. -/
def sixtySum : Binary64 → Nat → List Binary64 → Except ScalarFault Binary64
  | sum, _, [] => .ok sum
  | sum, base, part :: more =>
    match Binary64.ofInt base with
    | .infinite _ => .error .overflow
    | power => sixtySum (sum.add (part.mul power)) (base * 60) more

def floatValue (text : String) : Except ScalarFault Binary64 :=
  match (text.toList.filter (· ≠ '_')).map Char.toLower with
  | [] => .error .empty
  | s =>
    let (negative, body) := Numeral.sign s
    let signed (x : Binary64) := if negative then x.neg else x
    if body = ".inf".toList then .ok (.infinite negative)
    else if body = ".nan".toList then .ok .nan
    else if body.contains ':' then
      ((Text.split ':' body).mapM numberLiteral).bind fun parts =>
        (sixtySum (.finite false 0 (-1074)) 1 parts.reverse).map signed
    else (numberLiteral body).map signed

/-- The six bits of a character of base sixty-four. -/
def sixBits? (c : Char) : Option Nat :=
  if 'A' ≤ c && c ≤ 'Z' then some (c.toNat - 65)
  else if 'a' ≤ c && c ≤ 'z' then some (c.toNat - 71)
  else if c.isDigit then some (c.toNat + 4)
  else if c = '+' then some 62
  else if c = '/' then some 63
  else none

/-- Octets from base sixty-four. Other characters are skipped, and enough padding ends the
text; `pending` holds the bits of an unfinished group of `place` characters. -/
def base64Octets : List Char → (place pending pads : Nat) → Option (List UInt8)
  | [], place, _, _ => if place = 0 then some [] else none
  | c :: rest, place, pending, pads =>
    if c = '=' then
      if 2 ≤ place && 4 ≤ place + pads + 1 then some []
      else base64Octets rest place pending (if 2 ≤ place then pads + 1 else pads)
    else match sixBits? c with
      | none => base64Octets rest place pending pads
      | some bits =>
        let value := pending * 64 + bits
        if place = 0 then base64Octets rest 1 bits 0
        else if place = 1 then
          (base64Octets rest 2 (value % 16) 0).map (UInt8.ofNat (value / 16) :: ·)
        else if place = 2 then
          (base64Octets rest 3 (value % 4) 0).map (UInt8.ofNat (value / 4) :: ·)
        else (base64Octets rest 0 0 0).map (UInt8.ofNat value :: ·)

def boolValue (text : String) : Except ScalarFault Bool :=
  match boolWords.lookup text.toLower with
  | some b => .ok b
  | none => .error (.boolean text.toLower)

/-- The value of a scalar of a kind. -/
def scalarValue (tag : Tag) (text : String) : Except LoadFault Value :=
  match tag with
  | .null => .ok .null
  | .bool => ((boolValue text).map .bool).mapError .scalar
  | .int => ((intValue text).map .int).mapError .scalar
  | .float => ((floatValue text).map .float).mapError .scalar
  | .timestamp => (timestampValue text).mapError .scalar
  | .str => .ok (.text text)
  | .binary =>
    if text.toList.any (128 ≤ ·.toNat) then .error .refused
    else match base64Octets text.toList 0 0 0 with
      | some octets => .ok (.bytes octets)
      | none => .error .refused
  | _ => .error .refused

/-- The entries that a merged node contributes. -/
def mergedEntries : Node → Option (List (Node × Node))
  | .mapping _ es => some es
  | .sequence _ items =>
    let groups : Option (List (List (Node × Node))) := items.mapM fun n => match n with
      | .mapping _ es => some es
      | _ => none
    groups.map fun groups => groups.reverse.flatten
  | .scalar .. => none

/-- The entries of a mapping, with those of its merged nodes in front. A merge of anything
but mappings leaves the merge itself, which has no value. -/
def spreadMerges (es : List (Node × Node)) : List (Node × Node) :=
  let own := (es.filter fun e => e.1.tag ≠ .merge).map fun (k, v) =>
    match k with
    | .scalar .value text => (Node.scalar .str text, v)
    | _ => (k, v)
  let merges := es.filter fun e => e.1.tag = .merge
  match merges.mapM fun e => mergedEntries e.2 with
  | some groups => groups.flatten ++ own
  | none => merges

mutual
/-- Spread every merged mapping, innermost first. -/
def Node.spread : Node → Node
  | .scalar t s => .scalar t s
  | .sequence t items => .sequence t (spreadAll items)
  | .mapping t es =>
    let es := spreadEntries es
    .mapping t (if t = .map || t = .set then spreadMerges es else es)
termination_by structural n => n
def spreadAll : List Node → List Node
  | [] => []
  | n :: rest => n.spread :: spreadAll rest
termination_by structural ns => ns
def spreadEntries : List (Node × Node) → List (Node × Node)
  | [] => []
  | e :: rest => spreadEntry e :: spreadEntries rest
termination_by structural es => es
def spreadEntry : Node × Node → Node × Node
  | (k, v) => (k.spread, v.spread)
termination_by structural e => e
end

/-- A value, and what is wrong with the node, each with its depth below the node. -/
structure Built where
  value : Value
  faults : List (Nat × LoadFault)

namespace Built

def refused (depth : Nat) : Built := ⟨.null, [(depth, .refused)]⟩

def ofExcept : Except LoadFault Value → Built
  | .ok v => ⟨v, []⟩
  | .error f => ⟨.null, [(0, f)]⟩

/-- The faults seen from the node above. -/
def lowered (b : Built) : List (Nat × LoadFault) := b.faults.map fun (d, f) => (d + 1, f)

end Built

/-- Keys and values with the faults of both; a key that is a container is refused. -/
def buildMapping (es : List (Built × Built)) : Value.Entries × List (Nat × LoadFault) :=
  es.foldl (fun (m, faults) (k, v) =>
    let unfit := if k.faults.isEmpty && k.value.key?.isNone then [(1, LoadFault.refused)] else []
    (Value.Entries.put m k.value v.value, faults ++ k.lowered ++ unfit ++ v.lowered)) ([], [])

/-- The text of a node that is asked for a scalar: its own, or that of the value of its
entry for the plain scalar `=`. -/
def scalarText : Nat → Node → Option String
  | 0, _ => none
  | _ + 1, .scalar _ text => some text
  | _ + 1, .sequence .. => none
  | fuel + 1, .mapping _ es =>
    (es.find? fun e => e.1.tag = .value).bind fun e => scalarText fuel e.2

mutual
def Node.build : Node → Built
  | .scalar tag text =>
    match tag with
    | .seq | .map | .set | .omap | .pairs => .refused 1
    | _ => .ofExcept (scalarValue tag text)
  | .sequence tag items =>
    match tag with
    | .seq =>
      let items := buildAll items
      ⟨.list (items.map Built.value), items.flatMap Built.lowered⟩
    | .omap | .pairs =>
      let pairs := buildPairs items
      ⟨.list (pairs.map Built.value), pairs.flatMap Built.faults⟩
    | .map | .set => .refused 1
    | _ => .refused 0
  | .mapping tag es =>
    match tag with
    | .map =>
      let (m, faults) := buildMapping (buildEntries es)
      ⟨.map m, faults⟩
    | .set =>
      let (m, faults) := buildMapping (buildEntries es)
      ⟨.set (m.map Prod.fst), faults⟩
    | .seq | .omap | .pairs => .refused 1
    | _ =>
      match scalarText 100 (.mapping tag es) with
      | some text => .ofExcept (scalarValue tag text)
      | none => .refused 0
termination_by structural n => n
def buildAll : List Node → List Built
  | [] => []
  | n :: rest => n.build :: buildAll rest
termination_by structural ns => ns
def buildEntries : List (Node × Node) → List (Built × Built)
  | [] => []
  | e :: rest => buildEntry e :: buildEntries rest
termination_by structural es => es
def buildEntry : Node × Node → Built × Built
  | (k, v) => (k.build, v.build)
termination_by structural e => e
/-- The pairs of a list of mappings with one entry each. -/
def buildPairs : List Node → List Built
  | [] => []
  | n :: rest => n.buildPair :: buildPairs rest
termination_by structural ns => ns
def Node.buildPair : Node → Built
  | .mapping _ es =>
    match buildEntries es with
    | [(k, v)] => ⟨.tuple [k.value, v.value], k.lowered ++ v.lowered⟩
    | _ => .refused 1
  | _ => .refused 1
termination_by structural n => n
end

/-- The fault that decides: the first one of the least depth. -/
def decisive : List (Nat × LoadFault) → Option (Nat × LoadFault)
  | [] => none
  | (d, f) :: rest =>
    match decisive rest with
    | some (d', f') => if d' < d then some (d', f') else some (d, f)
    | none => some (d, f)

/-- The value of a text; an empty text has the value null. -/
def load (s : String) : Except LoadFault Value :=
  match Node.ofText s with
  | .error .malformed => .error .refused
  | .error .codePoint => .error (.scalar (.rule "chr() arg not in range(0x110000)"))
  | .ok none => .ok .null
  | .ok (some n) =>
    let built := n.spread.build
    match decisive built.faults with
    | some (_, f) => .error f
    | none => .ok built.value

end LintBridge.Yaml
