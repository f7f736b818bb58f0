import LintBridge.Proofs.Precedence
/-!
Layers along paths. What a merge has at a path of keys is what stacking makes of the two values
there (`at?_overlay`), unless the upper layer has a value on the way that is no mapping and cuts
the path off (`at?_merge_closed`). The keys of the lower layer come first (`keys_merge`). Since a
mapping is known by its keys in order and by what stands at them (`Entries.eq_of_keys`), the laws
of merging follow from these.
-/
namespace LintBridge

namespace Value

/-- What stands at a path of keys, each of which leads from a mapping to one of its values. -/
def at? : Value → List Value → Option Value
  | v, [] => some v
  | .map es, key :: path => (Entries.get? es key).bind fun v => v.at? path
  | _, _ :: _ => none

@[simp] theorem at?_nil (v : Value) : v.at? [] = some v := by cases v <;> rfl

@[simp] theorem at?_map_cons (es : Entries) (key : Value) (path : List Value) :
    (map es).at? (key :: path) = (es.get? key).bind fun v => v.at? path := rfl

/-- No path leads on from a value that is no mapping. -/
theorem at?_cons_of_ne_map {v : Value} (leaf : ∀ es, v ≠ .map es) (key : Value)
    (path : List Value) : v.at? (key :: path) = none := by
  cases v with
  | map es => exact absurd rfl (leaf es)
  | _ => rfl

theorem at?_append (v : Value) (front rest : List Value) :
    v.at? (front ++ rest) = (v.at? front).bind fun w => w.at? rest := by
  induction front generalizing v with
  | nil => simp
  | cons key front ih =>
    cases v with
    | map es => cases h : Entries.get? es key <;> simp [h, ih]
    | _ => rfl

/-- Every value on the way of a path, but for its end, is a mapping. -/
def Open (v : Value) (path : List Value) : Prop :=
  ∀ front w, front <+: path → front ≠ path → v.at? front = some w → ∃ es, w = .map es

theorem Open.below {es : Entries} {key v : Value} {path : List Value}
    (h : (map es).Open (key :: path)) (there : es.get? key = some v) : v.Open path := by
  intro front w before proper found
  refine h (key :: front) w (List.cons_prefix_cons.mpr ⟨rfl, before⟩) (by simpa using proper) ?_
  simpa [there] using found

/-- A path that leads to a value is open. -/
theorem open_of_at? {v w : Value} {path : List Value} (h : v.at? path = some w) :
    v.Open path := by
  rintro front u ⟨rest, rfl⟩ proper found
  rw [at?_append, found, Option.bind_some] at h
  cases rest with
  | nil => simp at proper
  | cons key rest =>
    by_contra leaf
    rw [at?_cons_of_ne_map (fun es same => leaf ⟨es, same⟩)] at h
    cases h

/-- Every mapping that stands in a value, itself included, has each of its keys once. -/
def KeysOnce (v : Value) : Prop :=
  ∀ (path : List Value) (es : Entries), v.at? path = some (.map es) → es.Distinct

theorem KeysOnce.distinct {es : Entries} (h : (map es).KeysOnce) : es.Distinct := h [] es rfl

theorem KeysOnce.below {es : Entries} {key v : Value} (h : (map es).KeysOnce)
    (there : es.get? key = some v) : v.KeysOnce :=
  fun path inner found => h (key :: path) inner (by simpa [there] using found)

theorem keysOnce_of_ne_map {v : Value} (leaf : ∀ es, v ≠ .map es) : v.KeysOnce := by
  intro path es found
  cases path with
  | nil =>
    cases found
    exact absurd rfl (leaf es)
  | cons key path =>
    rw [at?_cons_of_ne_map leaf] at found
    cases found

theorem keysOnce_map {es : Entries} (distinct : es.Distinct) (each : ∀ e ∈ es, e.2.KeysOnce) :
    (map es).KeysOnce := by
  intro path inner found
  cases path with
  | nil =>
    cases found
    exact distinct
  | cons key path =>
    rw [at?_map_cons] at found
    obtain ⟨v, there, found⟩ := Option.bind_eq_some_iff.mp found
    obtain ⟨k, among, _⟩ := Entries.mem_of_get? there
    exact each _ among path inner found

theorem keysOnce_nil : (map []).KeysOnce := keysOnce_map .nil fun _ h => nomatch h

theorem keysOnce_record {fields : List (String × Value)} (nodup : (fields.map Prod.fst).Nodup)
    (each : ∀ f ∈ fields, f.2.KeysOnce) : (record fields).KeysOnce :=
  keysOnce_map (.record nodup) (List.forall_mem_map.mpr each)

namespace Entries

theorem get?_eq_none_iff {es : Entries} {key : Value} :
    es.get? key = none ↔ ∀ k ∈ es.map Prod.fst, k.sameKey key = false := by
  induction es with
  | nil => simp
  | cons entry rest ih => cases same : entry.1.sameKey key <;> simp [get?, same, ih]

/-- A key that is there keeps its place, and a new one comes last. -/
theorem keys_put (es : Entries) (key v : Value) :
    (es.put key v).map Prod.fst =
      if (es.get? key).isSome then es.map Prod.fst else es.map Prod.fst ++ [key] := by
  induction es with
  | nil => rfl
  | cons entry rest ih =>
    obtain ⟨k, w⟩ := entry
    cases same : k.sameKey key with
    | true => simp [put, get?, same]
    | false =>
      simp only [put, get?, same, Bool.false_eq_true, ↓reduceIte, List.map_cons, ih]
      split <;> rfl

theorem Distinct.tail {entry : Value × Value} {es : Entries} (h : Distinct (entry :: es)) :
    es.Distinct := by
  intro key
  have once := h key
  unfold Once at once ⊢
  rw [List.countP_cons] at once
  omega

/-- A mapping is known by its keys and by what stands at them. -/
theorem eq_of_keys {es es' : Entries} (distinct : es.Distinct)
    (keys : es.map Prod.fst = es'.map Prod.fst) (values : ∀ key, es.get? key = es'.get? key) :
    es = es' := by
  induction es generalizing es' with
  | nil => exact (List.map_eq_nil_iff.mp keys.symm).symm
  | cons entry rest ih =>
    obtain ⟨k, v⟩ := entry
    obtain - | ⟨⟨k', v'⟩, rest'⟩ := es'
    · cases keys
    · obtain ⟨rfl, behind⟩ : k = k' ∧ rest.map Prod.fst = rest'.map Prod.fst := by
        simpa using keys
      obtain rfl : v = v' := by simpa [get?] using values k
      have inner : rest = rest' := by
        refine ih distinct.tail behind fun key => ?_
        cases same : k.sameKey key with
        | false => simpa [get?, same] using values key
        | true =>
          have absent := (once_cons_of_sameKey same).mp (distinct key)
          rw [absent, eq_comm, get?_eq_none_iff, ← behind, ← get?_eq_none_iff]
          exact absent
      rw [inner]

end Entries
end Value

namespace Config

open Value

/-- A value that is no mapping stands whatever lies below it. -/
theorem stacked_leaf {v : Value} (leaf : ∀ es, v ≠ .map es) (lower : Option Value) :
    stacked (some v) lower = some v := by
  cases lower with
  | none => rfl
  | some w =>
    obtain same | ⟨_, es, _, is_map, _⟩ := overlay_eq v w
    · exact congrArg some same
    · exact absurd is_map (leaf es)

/-- An upper entry is written as it is, unless it is a mapping and meets one. -/
theorem overlayEntry_eq_put {base : Entries} {key v : Value}
    (single : ∀ fields, v = .map fields → ∀ below, base.get? key ≠ some (.map below)) :
    overlayEntry base (key, v) = base.put key v := by
  unfold overlayEntry
  cases there : base.get? key with
  | none => rfl
  | some lower =>
    obtain same | ⟨below, fields, rfl, rfl, -⟩ := overlay_eq v lower
    · exact congrArg (base.put key) same
    · exact absurd there (single fields rfl below)

/-- A mapping that meets one is merged with it. -/
theorem overlayEntry_eq_put_merge {base below : Entries} {key : Value}
    (there : base.get? key = some (.map below)) (fields : Entries) :
    overlayEntry base (key, .map fields) = base.put key (.map (merge below fields)) := by
  rw [overlayEntry, there]
  rfl

/-- What one value over another one has at a path that the upper one leaves open. -/
theorem at?_overlay {upper : Value} (lower : Value) (once : upper.KeysOnce) {path : List Value}
    (free : upper.Open path) :
    (overlay upper lower).at? path = stacked (upper.at? path) (lower.at? path) := by
  induction path generalizing upper lower with
  | nil => simp [stacked]
  | cons key path ih =>
    obtain ⟨es, rfl⟩ := free [] upper List.nil_prefix (by simp) (by simp)
    cases lower with
    | map base =>
      change (map (merge base es)).at? (key :: path) = _
      rw [at?_map_cons, at?_map_cons, at?_map_cons, get?_merge (once.distinct key)]
      cases above : Entries.get? es key with
      | none => rfl
      | some v =>
        cases Entries.get? base key with
        | none => exact (stacked_none _).symm
        | some w => exact ih w (once.below above) (free.below above)
    | _ => exact (stacked_none _).symm

/-- A value of the upper layer that is no mapping stands at its path in the merge. -/
theorem at?_merge_leaf {base upper : Entries} (once : (map upper).KeysOnce) {path : List Value}
    {v : Value} (leaf : ∀ es, v ≠ .map es) (there : (map upper).at? path = some v) :
    (map (merge base upper)).at? path = some v := by
  have laid := at?_overlay (map base) once (open_of_at? there)
  rw [there, stacked_leaf leaf] at laid
  exact laid

/-- Nothing stands in the merge below a value of the upper layer that is no mapping. -/
theorem at?_merge_closed {base upper : Entries} (once : (map upper).KeysOnce) {path : List Value}
    (closed : ¬ (map upper).Open path) : (map (merge base upper)).at? path = none := by
  simp only [Open, not_forall] at closed
  obtain ⟨front, w, ⟨rest, rfl⟩, proper, there, leaf⟩ := closed
  have leaf : ∀ es, w ≠ .map es := fun es same => leaf ⟨es, same⟩
  rw [at?_append, at?_merge_leaf once leaf there, Option.bind_some]
  cases rest with
  | nil => simp at proper
  | cons key rest => exact at?_cons_of_ne_map leaf key rest

/-- An upper entry adds its key at the end unless it is there. -/
theorem keys_overlayEntry (base : Entries) (k v : Value) :
    (overlayEntry base (k, v)).map Prod.fst =
      if (base.get? k).isSome then base.map Prod.fst else base.map Prod.fst ++ [k] := by
  unfold overlayEntry
  split <;> exact Entries.keys_put base k _

/-- The keys of the lower layer come first, and those that only the upper one has follow. -/
theorem keys_merge {base upper : Entries} (distinct : upper.Distinct) :
    (merge base upper).map Prod.fst =
      base.map Prod.fst ++ (upper.map Prod.fst).filter fun k => (base.get? k).isNone := by
  unfold merge
  induction upper generalizing base with
  | nil => simp [overlayEntries]
  | cons entry rest ih =>
    obtain ⟨k, v⟩ := entry
    have fresh : ∀ k' ∈ rest.map Prod.fst, k'.sameKey k = false := by
      rw [← Entries.get?_eq_none_iff]
      exact (Entries.once_cons_of_sameKey (sameKey_refl k)).mp (distinct k)
    have later : ∀ k' ∈ rest.map Prod.fst,
        ((overlayEntry base (k, v)).get? k').isNone = (base.get? k').isNone := by
      intro k' among
      rw [get?_overlayEntry, sameKey_comm, fresh k' among]
      rfl
    rw [overlayEntries, ih distinct.tail, List.filter_congr later, keys_overlayEntry]
    cases there : base.get? k <;> simp [there]

theorem get?_merge_eq_none_iff {base upper : Entries} {key : Value} (once : upper.Once key) :
    (merge base upper).get? key = none ↔ upper.get? key = none ∧ base.get? key = none := by
  rw [get?_merge once]
  cases upper.get? key <;> cases base.get? key <;> simp [stacked]

theorem merge_nil (base : Entries) : merge base [] = base := rfl

/-- An empty layer below changes nothing. -/
theorem nil_merge {upper : Entries} (distinct : upper.Distinct) : merge [] upper = upper := by
  refine (Entries.eq_of_keys distinct ?_ fun key => ?_).symm
  · simp [keys_merge distinct]
  · rw [get?_merge (distinct key), Entries.get?_nil, stacked_none]

/-- A layer that is there already brings no new keys. -/
theorem keys_merge_merge {base upper : Entries} (distinct : upper.Distinct) :
    (merge (merge base upper) upper).map Prod.fst = (merge base upper).map Prod.fst := by
  have noneNew : (upper.map Prod.fst).filter (fun k => ((merge base upper).get? k).isNone) =
      [] := by
    rw [List.filter_eq_nil_iff]
    intro k among absent
    rw [Option.isNone_iff_eq_none, get?_merge_eq_none_iff (distinct k)] at absent
    simpa using Entries.get?_eq_none_iff.mp absent.1 k among
  have keys : (merge (merge base upper) upper).map Prod.fst = _ := keys_merge distinct
  rw [keys, noneNew, List.append_nil]

/-- A value that is laid over once more changes nothing if this is so of the mappings in it. -/
theorem stacked_stacked {v : Value} (once : v.KeysOnce) {lower : Option Value}
    (hl : ∀ w, lower = some w → w.KeysOnce)
    (again : ∀ fields, v = .map fields → ∀ below, (map below).KeysOnce →
      merge (merge below fields) fields = merge below fields) :
    stacked (some v) (stacked (some v) lower) = stacked (some v) lower := by
  by_cases leaf : ∀ es, v ≠ .map es
  · rw [stacked_leaf leaf, stacked_leaf leaf]
  · obtain ⟨fields, rfl⟩ := not_forall_not.mp leaf
    -- The mapping over itself is the case in which nothing lies below it.
    have self : merge fields fields = fields := by
      simpa [nil_merge once.distinct] using again fields rfl [] keysOnce_nil
    cases lower with
    | none => exact congrArg (some ∘ map) self
    | some w =>
      cases w with
      | map below => exact congrArg (some ∘ map) (again fields rfl below (hl _ rfl))
      | _ => exact congrArg (some ∘ map) self

/-- What stands in a mapping is smaller than it. -/
theorem sizeOf_lt_of_get? {es fields : Entries} {key : Value}
    (there : es.get? key = some (.map fields)) : sizeOf fields < sizeOf es := by
  obtain ⟨k, among, _⟩ := Entries.mem_of_get? there
  have entry := List.sizeOf_lt_of_mem among
  simp only [Prod.mk.sizeOf_spec, map.sizeOf_spec] at entry
  omega

/-- A layer that is laid over once more changes nothing. -/
theorem merge_merge {base upper : Entries} (hb : (map base).KeysOnce)
    (hu : (map upper).KeysOnce) : merge (merge base upper) upper = merge base upper := by
  have distinct : (merge base upper).Distinct := fun key => once_merge (hb.distinct key) upper
  refine (Entries.eq_of_keys distinct (keys_merge_merge hu.distinct).symm fun key => ?_).symm
  have twice : (merge (merge base upper) upper).get? key =
      stacked (upper.get? key) ((merge base upper).get? key) := get?_merge (hu.distinct key)
  rw [twice, get?_merge (hu.distinct key)]
  cases there : upper.get? key with
  | none => rfl
  | some v =>
    refine (stacked_stacked (hu.below there) (fun w lower => hb.below lower) ?_).symm
    rintro fields rfl below h
    exact merge_merge h (hu.below there)
termination_by sizeOf upper
decreasing_by exact sizeOf_lt_of_get? there

/-- A mapping over itself is the mapping. -/
theorem merge_self {es : Entries} (once : (map es).KeysOnce) : merge es es = es := by
  simpa [nil_merge once.distinct] using merge_merge keysOnce_nil once

end Config
end LintBridge
