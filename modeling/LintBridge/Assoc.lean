/-!
Finite maps that remember the order in which their keys were first written.
They are plain lists of pairs, so that equal contents in equal order are equal
values; `get?` is the view through which every operation is described.
-/
namespace LintBridge

/-- Keys with their values, in the order in which the keys were first written. -/
abbrev Assoc (κ α : Type) := List (κ × α)

namespace Assoc

variable {κ α : Type} [DecidableEq κ]

/-- The value bound to a key. -/
def get? : Assoc κ α → κ → Option α
  | [], _ => none
  | (k, v) :: rest, key => if k = key then some v else get? rest key

/-- Bind a key; a key that is already there keeps its place. -/
def put : Assoc κ α → κ → α → Assoc κ α
  | [], key, value => [(key, value)]
  | (k, v) :: rest, key, value =>
    if k = key then (k, value) :: rest else (k, v) :: put rest key value

/-- Unbind a key. -/
def erase (m : Assoc κ α) (key : κ) : Assoc κ α := m.filter fun entry => entry.1 ≠ key

/-- The keys in order. -/
def keys (m : Assoc κ α) : List κ := m.map Prod.fst

@[simp] theorem get?_nil (key : κ) : get? ([] : Assoc κ α) key = none := rfl

@[simp] theorem get?_put (m : Assoc κ α) (key other : κ) (value : α) :
    get? (put m key value) other = if key = other then some value else get? m other := by
  induction m with
  | nil => simp [put, get?]
  | cons entry rest ih =>
    by_cases h : entry.1 = key <;> by_cases h' : entry.1 = other <;> grind [put, get?]

/-- The entries of some keys hold what they held. -/
theorem get?_filter (m : Assoc κ α) (keep : κ → Bool) (key : κ) :
    get? (m.filter fun entry => keep entry.1) key = if keep key then get? m key else none := by
  induction m with
  | nil => simp
  | cons entry rest ih =>
    by_cases same : entry.1 = key
    · subst same
      cases hk : keep entry.1 <;> simp [get?, hk, ih]
    · cases hk : keep entry.1 <;> simp [get?, hk, ih, same]

@[simp] theorem get?_erase (m : Assoc κ α) (key other : κ) :
    get? (erase m key) other = if key = other then none else get? m other := by
  rw [erase, get?_filter m (fun k => decide (k ≠ key))]
  by_cases same : key = other
  · simp [same]
  · simp [same, Ne.symm same]

variable {m : Assoc κ α} {key : κ}

theorem mem_keys_iff : key ∈ m.keys ↔ (m.get? key).isSome = true := by
  induction m with
  | nil => simp [keys]
  | cons entry rest ih =>
    by_cases h : entry.1 = key
    · simp [keys, get?, h]
    · have apart : key ≠ entry.1 := fun same => h same.symm
      simpa [keys, get?, h, apart] using ih

/-- A key that is there keeps its place, and a new one comes last. -/
theorem keys_put (m : Assoc κ α) (key : κ) (value : α) :
    (m.put key value).keys = if key ∈ m.keys then m.keys else m.keys ++ [key] := by
  unfold keys
  induction m with
  | nil => simp [put]
  | cons entry rest ih =>
    by_cases h : entry.1 = key
    · simp [put, h]
    · have apart : key ≠ entry.1 := fun same => h same.symm
      rw [put, if_neg h, List.map_cons, ih]
      by_cases there : key ∈ rest.map Prod.fst <;> simp [there, apart]

theorem nodup_keys_put (nodup : m.keys.Nodup) (key : κ) (value : α) :
    (m.put key value).keys.Nodup := by
  rw [keys_put]
  split
  next => exact nodup
  next fresh =>
    refine List.nodup_append.mpr ⟨nodup, by simp, fun k there other new same => fresh ?_⟩
    rwa [← List.mem_singleton.mp new, ← same]

theorem nodup_keys_erase (nodup : m.keys.Nodup) (key : κ) : (m.erase key).keys.Nodup :=
  nodup.sublist (List.filter_sublist.map Prod.fst)

theorem get?_of_mem (nodup : m.keys.Nodup) {value : α} (h : (key, value) ∈ m) :
    m.get? key = some value := by
  induction m with
  | nil => cases h
  | cons entry rest ih =>
    obtain ⟨fresh, nodup⟩ := List.nodup_cons.mp nodup
    rcases List.mem_cons.mp h with rfl | h
    · simp [get?]
    · have apart : entry.1 ≠ key := fun same => fresh (same ▸ List.mem_map_of_mem h)
      rw [get?, if_neg apart, ih nodup h]

end Assoc
end LintBridge
