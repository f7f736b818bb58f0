import LintBridge.Schema.Mismatch
import LintBridge.Number.Numeral
/-!
Lenient readings of single values: an integer may be written as a truth value, as a
floating-point number without fraction or as a text; a number likewise; a text must be
one, or octets that are UTF-8.
-/
namespace LintBridge.Schema

def text : Value → Checked String
  | .text s => .ok s
  | .bytes octets =>
    match Text.Utf8.decode octets with
    | .ok s => .ok s
    | .error _ => fail .utf8 (.bytes octets)
  | v => fail .text v

def integer (v : Value) : Checked Int :=
  match v with
  | .bool b => .ok (if b then 1 else 0)
  | .int n => .ok n
  | .float x =>
    if !x.isFinite then fail .finite v
    else match x.toInt? with
      | none => fail .wholeNumber v
      | some n => if n.natAbs < Nat.pow 2 63 then .ok n else fail .integerSize v
  | .text s =>
    match Numeral.integer s with
    | .ok n => .ok n
    | .error .malformed => fail .integerText v
    | .error .tooLong => fail .integerSize v
  | v => fail .integer v

/-- An integer that is not negative. -/
def natural (v : Value) : Checked Nat :=
  match integer v with
  | .error m => .error m
  | .ok n => if n < 0 then fail .atLeastZero v else .ok n.toNat

def numberFromText (v : Value) (s : String) : Checked Binary64 :=
  match Numeral.number? s with
  | some x => .ok x
  | none => fail .numberText v

/-- A floating-point number; an integer too large for one is none. -/
def number (v : Value) : Checked Binary64 :=
  match v with
  | .bool b => .ok (.ofInt (if b then 1 else 0))
  | .int n =>
    match Binary64.ofInt n with
    | .infinite _ => fail .number v
    | x => .ok x
  | .float x => .ok x
  | .text s => numberFromText v s
  | .bytes octets =>
    match Text.Utf8.decode octets with
    | .ok s => numberFromText v s
    | .error _ => fail .numberText v
  | v => fail .number v

/-- Check every item; a mismatch is located by the index of its item. -/
def items {α : Type} (check : Value → Checked α) : Nat → List Value → Checked (List α)
  | _, [] => .ok []
  | index, v :: rest =>
    match inside (toString index) (check v) with
    | .error m => .error m
    | .ok x => (items check (index + 1) rest).map (x :: ·)

/-- A sequence or set of values of one form. -/
def list {α : Type} (check : Value → Checked α) : Value → Checked (List α)
  | .list vs | .tuple vs | .set vs => items check 0 vs
  | v => fail .list v

/-- Null, or a value of a form. -/
def nullable {α : Type} (check : Value → Checked α) : Value → Checked (Option α)
  | .null => .ok none
  | v => (check v).map some

/-- The entries of a mapping that stands for a named model. -/
def entries (model : String) : Value → Checked Value.Entries
  | .map es => .ok es
  | v => fail (.dictionary model) v

/-- A field that must be there. -/
def required {α : Type} (es : Value.Entries) (name : String) (check : Value → Checked α) :
    Checked α :=
  match es.field? name with
  | some v => inside name (check v)
  | none => inside name (fail .present (.map es))

/-- A field with a default. -/
def defaulted {α : Type} (es : Value.Entries) (name : String) (default : α)
    (check : Value → Checked α) : Checked α :=
  match es.field? name with
  | some v => inside name (check v)
  | none => .ok default

/-- One of some words; anything else, of whatever kind, is none of them. -/
def oneOf {α : Type} (words : List (String × α)) (v : Value) : Checked α :=
  let demand : Demand := .oneOf (words.map fun w => s!"'{w.1}'")
  match v with
  | .text s => match words.lookup s with
    | some x => .ok x
    | none => fail demand v
  | v => fail demand v

end LintBridge.Schema
