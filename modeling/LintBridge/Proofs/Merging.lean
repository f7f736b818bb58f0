import Mathlib.Data.List.Count
import LintBridge.Config.Merge
/-!
What merging does to the value at a key. A mapping that was written key by key has every key
once (`Once`), and over such a mapping the merge is decided at every key by the two values
there (`get?_merge`): the upper one stands, over the lower one if there is one.
-/
namespace LintBridge

open Value (sameKey)

namespace Value.Entries

/-- At most one entry has a key. -/
def Once (es : Entries) (key : Value) : Prop := es.countP (fun e => e.1.sameKey key) ≤ 1

@[simp] theorem once_nil (key : Value) : Once [] key := by simp [Once]

theorem once_cons_of_not_sameKey {k v key : Value} {es : Entries} (h : k.sameKey key = false) :
    Once ((k, v) :: es) key ↔ Once es key := by
  simp [Once, h]

theorem once_cons_of_sameKey {k v key : Value} {es : Entries} (h : k.sameKey key = true) :
    Once ((k, v) :: es) key ↔ es.get? key = none := by
  have absent : es.countP (fun e => e.1.sameKey key) = 0 ↔ es.get? key = none := by
    induction es with
    | nil => simp
    | cons entry rest ih =>
      obtain ⟨k', v'⟩ := entry
      cases hk : k'.sameKey key with
      | true => simp [get?, hk]
      | false => simpa [get?, hk] using ih
  rw [← absent]
  simp [Once, h]

theorem get?_congr {a b : Value} (h : a.sameKey b = true) (es : Entries) :
    es.get? a = es.get? b := by
  simp only [sameKey, decide_eq_true_eq] at h
  induction es with
  | nil => rfl
  | cons entry rest ih =>
    obtain ⟨k, v⟩ := entry
    simp [get?, sameKey, h, ih]

/-- Writing an entry leaves the number of entries with another key. -/
theorem countP_put_of_not_sameKey {k key : Value} (h : k.sameKey key = false) (es : Entries)
    (v : Value) :
    (es.put k v).countP (fun e => e.1.sameKey key) = es.countP (fun e => e.1.sameKey key) := by
  induction es with
  | nil => simp [put, h]
  | cons entry rest ih =>
    obtain ⟨k', v'⟩ := entry
    simp only [put]
    split
    · rw [List.countP_cons, List.countP_cons]
    · rw [List.countP_cons, List.countP_cons, ih]

theorem Once.put {es : Entries} {key : Value} (h : es.Once key) (k v : Value) :
    (es.put k v).Once key := by
  cases hk : k.sameKey key with
  | false => simpa [Once, countP_put_of_not_sameKey hk] using h
  | true =>
    induction es with
    | nil => simp [Entries.put, Once, hk]
    | cons entry rest ih =>
      obtain ⟨k', v'⟩ := entry
      simp only [Entries.put]
      by_cases same : k'.sameKey k = true
      · simpa [same, Once, List.countP_cons] using h
      · have other : k'.sameKey key = false := by
          cases ho : k'.sameKey key with
          | false => rfl
          | true =>
            rw [sameKey_comm] at hk
            exact absurd (sameKey_trans ho hk) same
        rw [if_neg same, once_cons_of_not_sameKey other]
        exact ih ((once_cons_of_not_sameKey other).mp h)

/-- What is written entry by entry has every key once. -/
theorem once_foldl_put {α : Type} (entry : α → Value × Value) (xs : List α) {es : Entries}
    {key : Value} (h : es.Once key) :
    (xs.foldl (fun m x => m.put (entry x).1 (entry x).2) es).Once key := by
  induction xs generalizing es with
  | nil => exact h
  | cons x xs ih => exact ih (h.put _ _)

/-- A written entry is one of those that were there or the new one. -/
theorem mem_put {es : Entries} {k v : Value} {e : Value × Value} (h : e ∈ es.put k v) :
    e.2 = v ∨ e ∈ es := by
  induction es with
  | nil =>
    obtain rfl : e = (k, v) := by simpa [put] using h
    exact .inl rfl
  | cons entry rest ih =>
    obtain ⟨k', v'⟩ := entry
    simp only [put] at h
    split at h
    · rcases List.mem_cons.mp h with rfl | h
      · exact .inl rfl
      · exact .inr (List.mem_cons_of_mem _ h)
    · rcases List.mem_cons.mp h with rfl | h
      · exact .inr List.mem_cons_self
      · exact (ih h).imp_right (List.mem_cons_of_mem _)

theorem mem_of_get? {es : Entries} {key v : Value} (h : es.get? key = some v) :
    ∃ k, (k, v) ∈ es ∧ k.sameKey key = true := by
  induction es with
  | nil => cases h
  | cons entry rest ih =>
    obtain ⟨k, w⟩ := entry
    simp only [get?] at h
    split at h
    next same =>
      cases h
      exact ⟨k, List.mem_cons_self, same⟩
    next =>
      obtain ⟨k', hm, hk⟩ := ih h
      exact ⟨k', List.mem_cons_of_mem _ hm, hk⟩

/-- What holds of a key and of every other spelling of it holds of all keys after an entry is
written exactly if it held before and holds of the new one. -/
theorem forall_key_put {P : Value → Prop} (hP : ∀ {a b : Value}, a.sameKey b = true → (P a ↔ P b))
    {es : Entries} {k v : Value} :
    (∀ e ∈ es.put k v, P e.1) ↔ (∀ e ∈ es, P e.1) ∧ P k := by
  induction es with
  | nil => simp [put]
  | cons entry rest ih =>
    obtain ⟨k', v'⟩ := entry
    simp only [put]
    split
    next same =>
      rw [List.forall_mem_cons, List.forall_mem_cons, ← hP same]
      tauto
    next => rw [List.forall_mem_cons, List.forall_mem_cons, ih, and_assoc]

end Value.Entries

namespace Config

open Value

/-- What stands at a key of two layers, of which the upper one is asked first. -/
def stacked : Option Value → Option Value → Option Value
  | none, lower => lower
  | some v, none => some v
  | some v, some lower => some (overlay v lower)

theorem get?_overlayEntry (base : Entries) (k v key : Value) :
    (overlayEntry base (k, v)).get? key =
      if k.sameKey key then stacked (some v) (base.get? key) else base.get? key := by
  unfold overlayEntry
  cases same : k.sameKey key with
  | false => cases base.get? k <;> simp [Entries.get?_put, same]
  | true =>
    rw [Entries.get?_congr same]
    cases base.get? key <;> simp [Entries.get?_put, same, stacked]

/-- Over a mapping that has a key once, the values at that key decide. -/
theorem get?_merge {base upper : Entries} {key : Value} (h : upper.Once key) :
    (merge base upper).get? key = stacked (upper.get? key) (base.get? key) := by
  unfold merge
  induction upper generalizing base with
  | nil => rfl
  | cons entry rest ih =>
    obtain ⟨k, v⟩ := entry
    rw [overlayEntries]
    cases same : k.sameKey key with
    | false =>
      rw [ih ((Entries.once_cons_of_not_sameKey same).mp h), get?_overlayEntry]
      simp [Entries.get?, same]
    | true =>
      have last : Entries.get? rest key = none := (Entries.once_cons_of_sameKey same).mp h
      have once : Entries.Once rest key := by
        unfold Entries.Once at h ⊢
        rw [List.countP_cons] at h
        omega
      rw [ih once, last, get?_overlayEntry]
      simp [Entries.get?, same, stacked]

theorem Once.overlayEntry {base : Entries} {key : Value} (h : base.Once key) (k v : Value) :
    (overlayEntry base (k, v)).Once key := by
  unfold Config.overlayEntry
  cases base.get? k <;> exact h.put _ _

/-- A merge has a key once if the lower layer has. -/
theorem once_merge {base : Entries} {key : Value} (h : base.Once key) (upper : Entries) :
    (merge base upper).Once key := by
  unfold merge
  induction upper generalizing base with
  | nil => exact h
  | cons entry rest ih =>
    rw [overlayEntries]
    exact ih (Once.overlayEntry h _ _)

/-- The keys of a merge are those of the two layers. -/
theorem forall_key_merge {P : Value → Prop}
    (hP : ∀ {a b : Value}, a.sameKey b = true → (P a ↔ P b)) {base upper : Entries} :
    (∀ e ∈ merge base upper, P e.1) ↔ (∀ e ∈ base, P e.1) ∧ ∀ e ∈ upper, P e.1 := by
  unfold merge
  induction upper generalizing base with
  | nil => simp [overlayEntries]
  | cons entry rest ih =>
    obtain ⟨k, v⟩ := entry
    have written : (∀ e ∈ overlayEntry base (k, v), P e.1) ↔ (∀ e ∈ base, P e.1) ∧ P k := by
      unfold overlayEntry
      cases base.get? k <;> exact Entries.forall_key_put hP
    rw [overlayEntries, ih, written]
    simp [and_assoc]

/-- A mapping stays one, and anything else replaces what lies below it. -/
theorem overlay_eq (v lower : Value) :
    overlay v lower = v ∨ ∃ base es, lower = .map base ∧ v = .map es ∧
      overlay v lower = .map (merge base es) := by
  cases v with
  | map es =>
    cases lower with
    | map base => exact .inr ⟨base, es, rfl, rfl, rfl⟩
    | _ => exact .inl rfl
  | _ => exact .inl rfl

end Config
end LintBridge
