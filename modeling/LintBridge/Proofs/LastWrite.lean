import LintBridge.Proofs.Mirror
/-!
A registry over any list of calls. It is a map that remembers, for every document, the list that
was written last: a document is there exactly if this list is not empty, and its quick fixes are
looked up in this list, whatever was written before it or for other documents
(`last_write_counts`).
-/
namespace LintBridge

namespace Registry

/-- What can be done with a registry. -/
inductive Call where
  | publish (uri : String) (stored : List StoredAction)
  | clear (uri : String)
  | query (uri : String) (range : EditorRange)

/-- The registry behind a call, and the quick fixes that the call gives. -/
def call (r : Registry) : Call → Registry × List QuickFix
  | .publish uri stored => (r.publish uri stored, [])
  | .clear uri => (r.clear uri, [])
  | .query uri range => (r, r.query uri range)

/-- The registry behind a list of calls. -/
def run : Registry → List Call → Registry
  | r, [] => r
  | r, c :: cs => run (r.call c).1 cs

/-- The list that a call writes for a document; removing its entry writes the empty one. -/
def Call.written? (uri : String) : Call → Option (List StoredAction)
  | .publish other stored => if other = uri then some stored else none
  | .clear other => if other = uri then some [] else none
  | .query _ _ => none

/-- The list that was written last for a document, if any was. -/
def lastWritten? (uri : String) (cs : List Call) : Option (List StoredAction) :=
  (cs.filterMap (Call.written? uri)).getLast?

/-- Nothing before the last write for a document matters, nor do calls after it that write for
others. -/
theorem lastWritten?_eq_some_iff {uri : String} {cs : List Call} {stored : List StoredAction} :
    lastWritten? uri cs = some stored ↔ ∃ before last after, cs = before ++ last :: after ∧
      last.written? uri = some stored ∧ ∀ c ∈ after, c.written? uri = none := by
  unfold lastWritten?
  rw [List.getLast?_eq_some_iff]
  constructor
  · rintro ⟨front, split⟩
    obtain ⟨before, rest, rfl, -, single⟩ := List.filterMap_eq_append_iff.mp split
    obtain ⟨between, last, after, rfl, idle, written, none_⟩ :=
      List.filterMap_eq_cons_iff.mp single
    refine ⟨before ++ between, last, after, by simp, written, ?_⟩
    exact List.filterMap_eq_nil_iff.mp none_
  · rintro ⟨before, last, after, rfl, written, idle⟩
    refine ⟨before.filterMap (Call.written? uri), ?_⟩
    rw [List.filterMap_append, List.filterMap_cons_some written,
      List.filterMap_eq_nil_iff.mpr idle]

theorem lastWritten?_append_singleton (uri : String) (cs : List Call) (c : Call) :
    lastWritten? uri (cs ++ [c]) = (c.written? uri).or (lastWritten? uri cs) := by
  unfold lastWritten?
  cases h : c.written? uri <;> simp [h]

/-- The entry that a written list makes; an empty one makes none. -/
def bound? (written : Option (List StoredAction)) : Option (List StoredAction) :=
  written.filter fun stored => !stored.isEmpty

theorem bound?_eq_some_iff {written : Option (List StoredAction)} {stored : List StoredAction} :
    bound? written = some stored ↔ written = some stored ∧ stored ≠ [] := by
  simp [bound?, Option.filter_eq_some_iff]

/-- A registry that holds for every document the list that was written last. -/
structure Remembers (cs : List Call) (r : Registry) : Prop where
  distinct : r.actions.keys.Nodup
  entry : ∀ uri, r.actions.get? uri = bound? (lastWritten? uri cs)

/-- One call leaves the entry that it writes, or the entry before it. -/
theorem get?_call (r : Registry) (c : Call) (uri : String) :
    (r.call c).1.actions.get? uri =
      ((c.written? uri).map fun stored => bound? (some stored)).getD (r.actions.get? uri) := by
  cases c with
  | publish other stored =>
    by_cases h : other = uri <;> by_cases none_ : stored = [] <;>
      simp [call, get?_publish, Call.written?, bound?, Option.filter, h, none_]
  | clear other =>
    by_cases h : other = uri <;> simp [call, clear, Call.written?, bound?, Option.filter, h]
  | query other range => rfl

theorem distinct_call {r : Registry} (distinct : r.actions.keys.Nodup) (c : Call) :
    (r.call c).1.actions.keys.Nodup := by
  cases c with
  | publish uri stored =>
    by_cases h : stored.isEmpty
    · simpa [call, publish, h] using Assoc.nodup_keys_erase distinct uri
    · simpa [call, publish, h] using Assoc.nodup_keys_put distinct uri stored
  | clear uri => exact Assoc.nodup_keys_erase distinct uri
  | query uri range => exact distinct

theorem Remembers.call {cs : List Call} {r : Registry} (h : Remembers cs r) (c : Call) :
    Remembers (cs ++ [c]) (r.call c).1 := by
  refine ⟨distinct_call h.distinct c, fun uri => ?_⟩
  rw [get?_call, h.entry, lastWritten?_append_singleton]
  cases c.written? uri <;> rfl

theorem Remembers.run {before : List Call} {r : Registry} (h : Remembers before r)
    (cs : List Call) : Remembers (before ++ cs) (r.run cs) := by
  induction cs generalizing before r with
  | nil => simpa [Registry.run] using h
  | cons c cs ih => simpa [Registry.run] using ih (h.call c)

theorem remembers_empty : Remembers [] empty := ⟨List.nodup_nil, fun _ => rfl⟩

/-- A map of the last writes, as far as it can be seen from outside. -/
structure LastWrites (cs : List Call) (r : Registry) : Prop where
  /-- No document is bound to an empty list. -/
  filled : ∀ uri stored, (uri, stored) ∈ r.actions → stored ≠ []
  /-- A document has an entry exactly if the last write for it was a list that is not empty. -/
  contains : ∀ uri, r.contains uri = true ↔
    ∃ stored, lastWritten? uri cs = some stored ∧ stored ≠ []
  /-- The size is the number of such documents. -/
  size : r.size = {uri | ∃ stored, lastWritten? uri cs = some stored ∧ stored ≠ []}.ncard
  /-- A query gives the quick fixes of the list that was written last whose anchor neither ends
  before the stretch begins nor begins after it ends, all of them and in their order. It changes
  nothing. -/
  query : ∀ uri range, r.call (.query uri range) =
    (r, (((lastWritten? uri cs).getD []).filter fun s =>
      s.anchor.start ≤ range.stop && range.start ≤ s.anchor.stop).map StoredAction.action)
  /-- Calls before the last write for a document, and later ones for others, do not matter. -/
  apart : ∀ uri before last after stored, cs = before ++ last :: after →
    last.written? uri = some stored → (∀ c ∈ after, c.written? uri = none) →
    ∀ range, r.query uri range = (empty.publish uri stored).query uri range

/-- Whatever is published, removed and asked for, in any order, only the last write for a document
counts. -/
theorem last_write_counts (cs : List Call) : LastWrites cs (empty.run cs) := by
  have kept : Remembers cs (empty.run cs) := remembers_empty.run cs
  generalize empty.run cs = r at kept
  have known (uri : String) : r.contains uri = true ↔
      ∃ stored, lastWritten? uri cs = some stored ∧ stored ≠ [] := by
    rw [Registry.contains, kept.entry, Option.isSome_iff_exists]
    exact exists_congr fun stored => bound?_eq_some_iff
  have stored_eq (uri : String) : r.stored uri = (lastWritten? uri cs).getD [] := by
    rw [stored, kept.entry]
    cases lastWritten? uri cs with
    | none => rfl
    | some stored => cases stored <;> rfl
  refine ⟨?_, known, ?_, ?_, ?_⟩
  · intro uri stored among
    have held := Assoc.get?_of_mem kept.distinct among
    rw [kept.entry] at held
    exact (bound?_eq_some_iff.mp held).2
  · have documents : {uri | ∃ stored, lastWritten? uri cs = some stored ∧ stored ≠ []} =
        ↑r.actions.keys.toFinset := by
      ext uri
      rw [Set.mem_ofPred_eq, ← known, Registry.contains, ← Assoc.mem_keys_iff]
      simp
    rw [documents, Set.ncard_coe_finset, List.toFinset_card_of_nodup kept.distinct]
    simp [size, Assoc.keys]
  · intro uri range
    rw [call, query, stored_eq]
    rfl
  · intro uri before last after stored split written idle range
    have last_ : lastWritten? uri cs = some stored :=
      lastWritten?_eq_some_iff.mpr ⟨before, last, after, split, written, idle⟩
    simp [query, stored_eq, last_]

end Registry
end LintBridge
