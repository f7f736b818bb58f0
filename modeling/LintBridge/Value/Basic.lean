import LintBridge.Number.Binary64
/-!
Untyped data, as configuration files, editor settings and linter output hold it before
it is checked. A mapping keeps its entries in order; two keys are the same when their
normal forms are, so that `1`, `1.0` and `true` name one entry.
-/
namespace LintBridge

/-- A day of the calendar. -/
structure Date where
  year : Nat
  month : Nat
  day : Nat
  deriving DecidableEq, Repr

/-- A day and a time of day, with the offset from universal time in seconds if one is known. -/
structure Moment where
  date : Date
  hour : Nat
  minute : Nat
  second : Nat
  micro : Nat
  offset : Option Int
  deriving DecidableEq, Repr

inductive Value where
  | null
  | bool (b : Bool)
  | int (n : Int)
  | float (x : Binary64)
  | text (s : String)
  | bytes (octets : List UInt8)
  | date (d : Date)
  | moment (m : Moment)
  | list (items : List Value)
  | tuple (items : List Value)
  | set (items : List Value)
  | map (entries : List (Value × Value))
  deriving Repr, Inhabited

/-- The number of a day, counted over years that begin in March. -/
def Date.number (d : Date) : Nat :=
  let year := if d.month ≤ 2 then d.year - 1 else d.year
  let month := (d.month + 9) % 12
  365 * year + year / 4 - year / 100 + year / 400 + (306 * month + 5) / 10 + d.day

/-- The seconds that a clock has counted, and what they are in universal time at an offset. -/
def Moment.instant (m : Moment) (offset : Int) : Int :=
  ((m.date.number * 24 + m.hour) * 60 + m.minute) * 60 + m.second - offset

/-- The normal form under which two keys are compared. A moment with an offset is compared by
its instant. -/
inductive Key where
  | null
  | integer (n : Int)
  | real (x : Binary64)
  | text (s : String)
  | bytes (octets : List UInt8)
  | date (d : Date)
  | moment (m : Moment)
  | instant (seconds : Int) (micro : Nat)
  deriving DecidableEq, Repr

namespace Value

/-- The normal form of a value that can be a key; containers cannot. -/
def key? : Value → Option Key
  | null => some .null
  | bool b => some (.integer (if b then 1 else 0))
  | int n => some (.integer n)
  | float x => some (match x.toInt? with | some n => .integer n | none => .real x)
  | text s => some (.text s)
  | bytes octets => some (.bytes octets)
  | date d => some (.date d)
  | moment m => some (match m.offset with
    | some offset => .instant (m.instant offset) m.micro
    | none => .moment m)
  | list _ | tuple _ | set _ | map _ => none

@[simp] theorem key?_text (s : String) : (text s).key? = some (.text s) := rfl

/-- Do two values name the same entry? -/
def sameKey (a b : Value) : Bool := a.key? = b.key?

@[simp] theorem sameKey_refl (a : Value) : a.sameKey a = true := by simp [sameKey]

theorem sameKey_comm (a b : Value) : a.sameKey b = b.sameKey a := by simp [sameKey, eq_comm]

theorem sameKey_trans {a b c : Value} (h : a.sameKey b = true) (h' : b.sameKey c = true) :
    a.sameKey c = true := by simp_all [sameKey]

/-- Entries by keys that are values. The entries of a mapping hold values. -/
abbrev Entries (α : Type := Value) := List (Value × α)

/-- What an entry holds. -/
def Entries.get? {α : Type} : Entries α → Value → Option α
  | [], _ => none
  | (k, v) :: rest, key => if k.sameKey key then some v else Entries.get? rest key

/-- Write an entry; one that is there keeps its place and the spelling of its key. -/
def Entries.put {α : Type} : Entries α → Value → α → Entries α
  | [], key, value => [(key, value)]
  | (k, v) :: rest, key, value =>
    if k.sameKey key then (k, value) :: rest else (k, v) :: Entries.put rest key value

@[simp] theorem Entries.get?_nil {α : Type} (key : Value) :
    Entries.get? ([] : Entries α) key = none := rfl

theorem Entries.get?_put {α : Type} (m : Entries α) (key other : Value) (value : α) :
    (m.put key value).get? other =
      if key.sameKey other then some value else m.get? other := by
  induction m with
  | nil => simp [Entries.put, Entries.get?]
  | cons entry rest ih =>
    obtain ⟨k, v⟩ := entry
    simp only [Entries.put]
    by_cases h : k.sameKey key = true
    · have : k.sameKey other = key.sameKey other := by
        simp only [sameKey, decide_eq_true_eq] at h
        simp [sameKey, h]
      simp only [h, if_true, Entries.get?, this]
      split <;> rfl
    · simp only [h, Bool.false_eq_true, if_false]
      by_cases ho : k.sameKey other = true
      · have : key.sameKey other = false := by
          simp only [sameKey, decide_eq_true_eq] at h ho
          simp only [sameKey, ← ho, decide_eq_false_iff_not]
          exact fun e => h e.symm
        simp [Entries.get?, ho, this]
      · simpa [Entries.get?, ho] using ih

/-- The value of an entry with a text key. -/
def Entries.field? (m : Entries) (name : String) : Option Value := m.get? (.text name)

/-- Entries from pairs in which a later pair overwrites an earlier one. -/
def Entries.ofPairs (pairs : Entries) : Entries :=
  pairs.foldl (fun m entry => m.put entry.1 entry.2) []

/-- The word that names the kind of a value. -/
def kindName : Value → String
  | null => "NoneType"
  | bool _ => "bool"
  | int _ => "int"
  | float _ => "float"
  | text _ => "str"
  | bytes _ => "bytes"
  | date _ => "date"
  | moment _ => "datetime"
  | list _ => "list"
  | tuple _ => "tuple"
  | set _ => "set"
  | map _ => "dict"

/-- Is a value empty, zero, false or null? -/
def isFalsy : Value → Bool
  | null => true
  | bool b => !b
  | int n => n = 0
  | float (.finite _ m _) => m = 0
  | float _ => false
  | text s => s.isEmpty
  | bytes octets => octets.isEmpty
  | date _ | moment _ => false
  | list items | tuple items | set items => items.isEmpty
  | map entries => entries.isEmpty

end Value
end LintBridge
