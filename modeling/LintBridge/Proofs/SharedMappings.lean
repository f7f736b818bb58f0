import LintBridge.Proofs.Nesting
/-!
Merging mappings that lie in memory. A mapping there is a cell of entries, and an entry holds
another mapping by its address, so that several entries may share one. A merge copies the cell of
the lower mapping and writes the entries of the upper one into the copy, and it merges two
mappings at a key in the same way into one more new cell. So all cells that were there stay as they
are, shared or not, and the new one holds what `merge` makes of the two mappings.

While a copy is filled its cell changes, and copies further up are still to be filled. What is read
of the two layers must not depend on these cells; they are kept out of sight as `hidden` ones
(`exists_fills`).
-/
namespace LintBridge

open Value (Entries)

/-- What an entry holds in memory. -/
inductive Slot where
  /-- A value that is no mapping. -/
  | plain (v : Value)
  | mapping (address : Nat)

/-- The entries of a mapping in memory. -/
abbrev Cell := Entries Slot

/-- The cells of all mappings; the address of one is its number. -/
structure Memory where
  cells : List Cell

namespace Memory

variable {m m' : Memory} {a b : Nat} {cell : Cell}

def size (m : Memory) : Nat := m.cells.length

def at? (m : Memory) (a : Nat) : Option Cell := m.cells[a]?

/-- One more cell, at the next address. -/
def allocate (m : Memory) (cell : Cell) : Memory := ⟨m.cells ++ [cell]⟩

/-- Write an entry of the mapping at an address. -/
def put (m : Memory) (a : Nat) (key : Value) (slot : Slot) : Memory :=
  ⟨m.cells.modify a fun cell => cell.put key slot⟩

/-- What the mapping at an address holds at a key. -/
def slot? (m : Memory) (a : Nat) (key : Value) : Option Slot := (m.at? a).bind fun c => c.get? key

@[simp] theorem size_allocate (m : Memory) (cell : Cell) :
    (m.allocate cell).size = m.size + 1 := by simp [size, allocate]

@[simp] theorem at?_allocate_self (m : Memory) (cell : Cell) :
    (m.allocate cell).at? m.size = some cell := by simp [at?, size, allocate]

theorem at?_allocate (h : a < m.size) (cell : Cell) : (m.allocate cell).at? a = m.at? a :=
  List.getElem?_append_left h

@[simp] theorem size_put (m : Memory) (a : Nat) (key : Value) (slot : Slot) :
    (m.put a key slot).size = m.size := by simp [size, put]

theorem at?_put_self (h : m.at? a = some cell) (key : Value) (slot : Slot) :
    (m.put a key slot).at? a = some (cell.put key slot) := by
  unfold at? at h
  simp [at?, put, h]

theorem at?_put (h : a ≠ b) (key : Value) (slot : Slot) :
    (m.put a key slot).at? b = m.at? b := by simp [at?, put, h]

theorem lt_size (h : m.at? a = some cell) : a < m.size :=
  (List.getElem?_eq_some_iff.mp h).1

/-- The cells in sight. -/
def Shows (m : Memory) (hidden : List Nat) (a : Nat) (cell : Cell) : Prop :=
  m.at? a = some cell ∧ a ∉ hidden

/-- A new cell is out of sight, and all others stay in it. -/
theorem Shows.allocate {hidden : List Nat} (h : m.Shows hidden a cell) (copy : Cell) :
    (m.allocate copy).Shows (m.size :: hidden) a cell := by
  have before := lt_size h.1
  refine ⟨(at?_allocate before copy).trans h.1, ?_⟩
  simpa [Nat.ne_of_lt before] using h.2

end Memory

/-- A cell holds the entries of a mapping, with the cells below it among those in sight. -/
inductive Holds (seen : Nat → Cell → Prop) : Cell → Entries → Prop where
  | nil : Holds seen [] []
  | plain {cell : Cell} {es : Entries} {key v : Value} (leaf : ∀ fields, v ≠ .map fields)
    (rest : Holds seen cell es) : Holds seen ((key, .plain v) :: cell) ((key, v) :: es)
  | mapping {cell inner : Cell} {es fields : Entries} {key : Value} {a : Nat} (there : seen a inner)
    (below : Holds seen inner fields) (rest : Holds seen cell es) :
    Holds seen ((key, .mapping a) :: cell) ((key, .map fields) :: es)

/-- A slot bears the value of an entry. -/
inductive Bears (seen : Nat → Cell → Prop) : Slot → Value → Prop where
  | plain {v : Value} (leaf : ∀ fields, v ≠ .map fields) : Bears seen (.plain v) v
  | mapping {inner : Cell} {fields : Entries} {a : Nat} (there : seen a inner)
    (below : Holds seen inner fields) : Bears seen (.mapping a) (.map fields)

section

variable {seen seen' : Nat → Cell → Prop} {cell : Cell} {es : Entries} {slot : Slot} {v : Value}

theorem Holds.mono (h : Holds seen cell es) (more : ∀ a c, seen a c → seen' a c) :
    Holds seen' cell es := by
  induction h with
  | nil => exact .nil
  | plain leaf _ ih => exact .plain leaf ih
  | mapping there _ _ below rest => exact .mapping (more _ _ there) below rest

theorem Holds.cons (first : Bears seen slot v) (rest : Holds seen cell es) (key : Value) :
    Holds seen ((key, slot) :: cell) ((key, v) :: es) := by
  cases first with
  | plain leaf => exact .plain leaf rest
  | mapping there below => exact .mapping there below rest

/-- Induction over the entries, in which it does not matter what an entry holds. -/
@[elab_as_elim]
theorem Holds.entrywise {motive : ∀ cell es, Holds seen cell es → Prop} (nil : motive [] [] .nil)
    (cons : ∀ (key : Value) {slot : Slot} {v : Value} {cell : Cell} {es : Entries}
      (first : Bears seen slot v) (rest : Holds seen cell es), motive cell es rest →
        motive ((key, slot) :: cell) ((key, v) :: es) (.cons first rest key))
    {cell : Cell} {es : Entries} (h : Holds seen cell es) : motive cell es h := by
  induction h with
  | nil => exact nil
  | plain leaf rest ih => exact cons _ (.plain leaf) rest ih
  | mapping there below rest _ ih => exact cons _ (.mapping there below) rest ih

theorem Holds.put (h : Holds seen cell es) (bears : Bears seen slot v) (key : Value) :
    Holds seen (cell.put key slot) (es.put key v) := by
  induction h using Holds.entrywise with
  | nil => exact .cons bears .nil key
  | cons k first rest ih =>
    cases same : k.sameKey key with
    | true => simpa [Entries.put, same] using Holds.cons bears rest k
    | false => simpa [Entries.put, same] using Holds.cons first ih k

/-- A cell has a slot at the keys of its mapping, and it bears the value there. -/
theorem Holds.get? (h : Holds seen cell es) (key : Value) :
    Option.Rel (Bears seen) (cell.get? key) (es.get? key) := by
  induction h using Holds.entrywise with
  | nil => exact .none
  | cons k first rest ih =>
    cases same : k.sameKey key with
    | true => simpa [Entries.get?, same] using Option.Rel.some first
    | false => simpa [Entries.get?, same] using ih

/-- Where the cell holds a mapping, so does what it stands for. -/
theorem Holds.mapping_of_cell (h : Holds seen cell es) {key : Value} {a : Nat}
    (there : cell.get? key = some (.mapping a)) :
    ∃ inner fields, es.get? key = some (.map fields) ∧ seen a inner ∧ Holds seen inner fields := by
  have met := h.get? key
  rw [there] at met
  generalize es.get? key = value at met
  cases met with
  | some bears =>
    cases bears with
    | mapping there below => exact ⟨_, _, rfl, there, below⟩

/-- Where a mapping holds a mapping, the cell that stands for it does so too. -/
theorem Holds.cell_of_mapping (h : Holds seen cell es) {key : Value} {fields : Entries}
    (there : es.get? key = some (.map fields)) : ∃ a, cell.get? key = some (.mapping a) := by
  have met := h.get? key
  rw [there] at met
  generalize cell.get? key = slot at met
  cases met with
  | some bears =>
    cases bears with
    | plain leaf => exact absurd rfl (leaf fields)
    | mapping _ _ => exact ⟨_, rfl⟩

end

namespace Memory

/-- The mapping at an address of a memory. -/
def Has (m : Memory) (a : Nat) (es : Entries) : Prop :=
  ∃ cell, m.at? a = some cell ∧ Holds (m.Shows []) cell es

/-- Write entries into the mapping at an address, one after the other. A mapping over a mapping is
written as a copy of the lower one, filled with the entries of the upper one. -/
inductive Fills : Memory → Nat → Cell → Memory → Prop where
  | done {m : Memory} {a : Nat} : Fills m a [] m
  | write {m m' : Memory} {a : Nat} {key : Value} {slot : Slot} {rest : Cell}
    (single : ∀ lower upper, m.slot? a key = some (.mapping lower) → slot ≠ .mapping upper)
    (next : Fills (m.put a key slot) a rest m') : Fills m a ((key, slot) :: rest) m'
  | merge {m m₁ m' : Memory} {a lower upper : Nat} {key : Value} {below layer rest : Cell}
    (there : m.slot? a key = some (.mapping lower)) (base : m.at? lower = some below)
    (top : m.at? upper = some layer) (inner : Fills (m.allocate below) m.size layer m₁)
    (next : Fills (m₁.put a key (.mapping m.size)) a rest m') :
    Fills m a ((key, .mapping upper) :: rest) m'

/-- Merge the mapping at one address over that at another one into a new mapping. -/
def Merges (m : Memory) (lower upper : Nat) (m' : Memory) (result : Nat) : Prop :=
  ∃ below layer, m.at? lower = some below ∧ m.at? upper = some layer ∧ result = m.size ∧
    Fills (m.allocate below) m.size layer m'

theorem Fills.unique {m m₁ m₂ : Memory} {a : Nat} {layer : Cell} (h : Fills m a layer m₁)
    (h' : Fills m a layer m₂) : m₁ = m₂ := by
  induction h generalizing m₂ with
  | done =>
    cases h'
    rfl
  | write single next ih =>
    cases h' with
    | write _ next' => exact ih next'
    | merge there => exact absurd rfl (single _ _ there)
  | merge there base top inner next ihi ihn =>
    cases h' with
    | write single => exact absurd rfl (single _ _ there)
    | merge there' base' top' inner' next' =>
      cases there.symm.trans there'
      cases base.symm.trans base'
      cases top.symm.trans top'
      cases ihi inner'
      exact ihn next'

/-- How far a copy is filled, beside the memory in which its filling began: it holds the entries
`es`, and all other cells of that memory are as they were. -/
structure Filling (start : Memory) (hidden : List Nat) (a : Nat) (es : Entries) (m : Memory) :
    Prop where
  grown : start.size ≤ m.size
  kept : ∀ b, b < start.size → b ≠ a → m.at? b = start.at? b
  content : ∃ cell, m.at? a = some cell ∧ Holds (m.Shows hidden) cell es

namespace Filling

variable {start m m' : Memory} {hidden : List Nat} {a : Nat} {es : Entries}

/-- What was in sight at the beginning is so now. -/
theorem shows (f : Filling start hidden a es m) (own : a ∈ hidden) {b : Nat} {cell : Cell}
    (h : start.Shows hidden b cell) : m.Shows hidden b cell := by
  refine ⟨?_, h.2⟩
  rw [f.kept b (lt_size h.1) fun same => h.2 (same ▸ own), h.1]

/-- New cells do no harm. -/
theorem extend (f : Filling start hidden a es m) (grown : m.size ≤ m'.size)
    (kept : ∀ b, b < m.size → m'.at? b = m.at? b) : Filling start hidden a es m' := by
  obtain ⟨cell, own, content⟩ := f.content
  refine ⟨Nat.le_trans f.grown grown, fun b old other => ?_, cell, ?_, content.mono fun b c h => ?_⟩
  · rw [kept b (Nat.lt_of_lt_of_le old f.grown), f.kept b old other]
  · rw [kept a (lt_size own), own]
  · exact ⟨(kept b (lt_size h.1)).trans h.1, h.2⟩

/-- One more entry. -/
theorem put (f : Filling start hidden a es m) (own : a ∈ hidden) {slot : Slot} {v : Value}
    (bears : Bears (m.Shows hidden) slot v) (key : Value) :
    Filling start hidden a (es.put key v) (m.put a key slot) := by
  obtain ⟨cell, there, content⟩ := f.content
  refine ⟨by simpa using f.grown, fun b old other => ?_, cell.put key slot,
    at?_put_self there key slot, (content.put bears key).mono fun b c h => ?_⟩
  · rw [at?_put (Ne.symm other), f.kept b old other]
  · have other : a ≠ b := fun same => h.2 (same ▸ own)
    exact ⟨(at?_put other key slot).trans h.1, h.2⟩

/-- The next address is new to the cells out of sight. -/
theorem fresh (f : Filling start hidden a es m) (old : ∀ b ∈ hidden, b < start.size) :
    m.size ∉ hidden :=
  fun mem => Nat.not_lt_of_le f.grown (old _ mem)

/-- A copy at the next address is one of the cells out of sight. -/
theorem older (f : Filling start hidden a es m) (old : ∀ b ∈ hidden, b < start.size)
    (copy : Cell) : ∀ b ∈ m.size :: hidden, b < (m.allocate copy).size := by
  rw [size_allocate, List.forall_mem_cons]
  exact ⟨Nat.lt_succ_self _,
    fun b mem => Nat.lt_succ_of_lt (Nat.lt_of_lt_of_le (old b mem) f.grown)⟩

/-- A copy as it is made. -/
theorem copied {copy : Cell} {held : Entries} (h : Holds (m.Shows hidden) copy held) :
    Filling (m.allocate copy) (m.size :: hidden) m.size held (m.allocate copy) :=
  ⟨Nat.le_refl _, fun _ _ _ => rfl, copy, at?_allocate_self m copy,
    h.mono fun _ _ shown => shown.allocate copy⟩

/-- A copy that is filled can be held by an entry of the mapping further up. -/
theorem bears {copy : Cell} {held : Entries} (fresh : m.size ∉ hidden)
    (f : Filling (m.allocate copy) (m.size :: hidden) m.size held m') :
    Bears (m'.Shows hidden) (.mapping m.size) (.map held) := by
  obtain ⟨cell, there, content⟩ := f.content
  refine .mapping ⟨there, fresh⟩ (content.mono fun b c h => ⟨h.1, fun mem => h.2 ?_⟩)
  exact List.mem_cons_of_mem _ mem

/-- The filling of an inner copy changes nothing of the outer one. -/
theorem behind {copy : Cell} {held : Entries} (f : Filling start hidden a es m)
    (inner : Filling (m.allocate copy) (m.size :: hidden) m.size held m') :
    Filling start hidden a es m' := by
  have grown := inner.grown
  rw [size_allocate] at grown
  refine f.extend (by omega) fun b before => ?_
  rw [inner.kept b (by rw [size_allocate]; omega) (by omega), at?_allocate before]

end Filling

/-- A copy can be filled with the entries of a layer, and it is filled with them as they are laid
over what it holds. The induction is on what the layer holds; the copies that are being filled
meanwhile, this one among them, are hidden. -/
theorem exists_fills {seen : Nat → Cell → Prop} {layer : Cell} {upper : Entries}
    (h : Holds seen layer upper) {start m : Memory} {hidden : List Nat} {a : Nat} {es : Entries}
    (sight : ∀ b c, seen b c → start.Shows hidden b c) (own : a ∈ hidden)
    (old : ∀ b ∈ hidden, b < start.size) (f : Filling start hidden a es m) :
    ∃ m', Fills m a layer m' ∧ Filling start hidden a (Config.merge es upper) m' := by
  induction h generalizing start m hidden a es with
  | nil => exact ⟨m, .done, f⟩
  | @plain layer upper key v leaf rest ih =>
    have written : Config.overlayEntry es (key, v) = es.put key v :=
      Config.overlayEntry_eq_put fun fields same => absurd same (leaf fields)
    obtain ⟨m', fills, filled⟩ := ih sight own old (f.put own (.plain leaf) key)
    refine ⟨m', .write (fun _ _ _ => nofun) fills, ?_⟩
    rw [Config.merge, Config.overlayEntries, written]
    exact filled
  | @mapping layer inner upper fields key b there below rest ihb ih =>
    obtain ⟨cell, here, content⟩ := f.content
    have slot : m.slot? a key = cell.get? key := by simp [slot?, here]
    by_cases both : ∃ lower, cell.get? key = some (.mapping lower)
    · -- The copy of the lower mapping is filled first, hidden beside this one.
      obtain ⟨lower, met⟩ := both
      obtain ⟨copy, held, value, shown, holds⟩ := content.mapping_of_cell met
      have top : m.at? b = some inner := (f.shows own (sight b inner there)).1
      obtain ⟨m₁, copies, inner⟩ := ihb (fun c k h => (f.shows own (sight c k h)).allocate copy)
        List.mem_cons_self (f.older old copy) (Filling.copied holds)
      obtain ⟨m', fills, filled⟩ :=
        ih sight own old ((f.behind inner).put own (inner.bears (f.fresh old)) key)
      refine ⟨m', .merge (slot.trans met) shown.1 top copies fills, ?_⟩
      rw [Config.merge, Config.overlayEntries, Config.overlayEntry_eq_put_merge value]
      exact filled
    · have single : ∀ l u, m.slot? a key = some (.mapping l) → Slot.mapping b ≠ .mapping u :=
        fun l _ h => absurd ⟨l, slot.symm.trans h⟩ both
      have written : Config.overlayEntry es (key, .map fields) = es.put key (.map fields) :=
        Config.overlayEntry_eq_put fun _ _ _ meets => both (content.cell_of_mapping meets)
      have bears : Bears (m.Shows hidden) (.mapping b) (.map fields) :=
        .mapping (f.shows own (sight b inner there))
          (below.mono fun _ _ h => f.shows own (sight _ _ h))
      obtain ⟨m', fills, filled⟩ := ih sight own old (f.put own bears key)
      refine ⟨m', .write single fills, ?_⟩
      rw [Config.merge, Config.overlayEntries, written]
      exact filled

/-- What a merge in memory leaves: a mapping at a new address, and all cells as they were. -/
structure MergedApart (m : Memory) (base upper : Entries) (m' : Memory) (result : Nat) : Prop where
  fresh : m.at? result = none
  kept : ∀ a cell, m.at? a = some cell → m'.at? a = some cell
  holds : m'.Has result (Config.merge base upper)

/-- What a mapping holds stays the same with its cells. -/
theorem Has.mono {m m' : Memory} {a : Nat} {es : Entries} (h : m.Has a es)
    (kept : ∀ a cell, m.at? a = some cell → m'.at? a = some cell) : m'.Has a es := by
  obtain ⟨cell, there, holds⟩ := h
  exact ⟨cell, kept a cell there, holds.mono fun b c seen => ⟨kept b c seen.1, seen.2⟩⟩

/-- Two mappings in memory can be merged. -/
theorem exists_merges {m : Memory} {lower above : Nat} {base upper : Entries}
    (hb : m.Has lower base) (hu : m.Has above upper) :
    ∃ m', Merges m lower above m' m.size ∧ MergedApart m base upper m' m.size := by
  obtain ⟨copy, there, holds⟩ := hb
  obtain ⟨layer, top, upper_holds⟩ := hu
  obtain ⟨m', fills, filled⟩ := exists_fills upper_holds (fun b c seen => seen.allocate copy)
    List.mem_cons_self (by simp) (Filling.copied holds)
  refine ⟨m', ⟨copy, layer, there, top, rfl, fills⟩, List.getElem?_eq_none (Nat.le_refl _), ?_, ?_⟩
  · intro a cell old
    have before := lt_size old
    rw [filled.kept a (by rw [size_allocate]; omega) (by omega), at?_allocate before, old]
  · obtain ⟨cell, own, content⟩ := filled.content
    exact ⟨cell, own, content.mono fun b c seen => ⟨seen.1, List.not_mem_nil⟩⟩

/-- Two mappings in memory are merged in one way only. -/
theorem Merges.unique {m m₁ m₂ : Memory} {lower above r₁ r₂ : Nat}
    (h₁ : Merges m lower above m₁ r₁) (h₂ : Merges m lower above m₂ r₂) :
    m₁ = m₂ ∧ r₁ = r₂ := by
  obtain ⟨copy, layer, there, top, rfl, fills⟩ := h₁
  obtain ⟨copy', layer', there', top', rfl, fills'⟩ := h₂
  cases there.symm.trans there'
  cases top.symm.trans top'
  exact ⟨fills.unique fills', rfl⟩

end Memory

namespace Config

open Value

/-- What the merge of two mappings is, at every path of keys, by the laws of merging, and in
memory. -/
structure MergesByPath (base upper : Entries) : Prop where
  /-- A value of the upper mapping that is no mapping stands at its path. -/
  leaf : ∀ path v, (∀ es, v ≠ .map es) → (map upper).at? path = some v →
    (map (merge base upper)).at? path = some v
  /-- Nothing stands below a value of the upper mapping that is no mapping. -/
  closed : ∀ path, ¬ (map upper).Open path → (map (merge base upper)).at? path = none
  /-- At every other path at which the upper mapping has nothing stands what the lower one has
  there, or nothing. -/
  beneath : ∀ path, (map upper).Open path → (map upper).at? path = none →
    (map (merge base upper)).at? path = (map base).at? path
  /-- Two mappings at one path are merged there. -/
  both : ∀ path below fields, (map base).at? path = some (.map below) →
    (map upper).at? path = some (.map fields) →
    (map (merge base upper)).at? path = some (.map (merge below fields))
  /-- A mapping over anything else, or over nothing, stands as it is. -/
  alone : ∀ path fields, (∀ below, (map base).at? path ≠ some (.map below)) →
    (map upper).at? path = some (.map fields) →
    (map (merge base upper)).at? path = some (.map fields)
  /-- The keys of the lower mapping come first, in their order, and then the new ones in theirs. -/
  keys : (merge base upper).map Prod.fst =
    base.map Prod.fst ++ (upper.map Prod.fst).filter fun k => (base.get? k).isNone
  /-- An empty mapping changes nothing on either side. -/
  empty_above : merge base [] = base
  empty_below : merge [] base = base
  /-- A mapping over itself changes nothing. -/
  self : merge base base = base
  /-- A layer that is there already changes nothing. -/
  again : merge (merge base upper) upper = merge base upper
  /-- In memory the merge comes to an end, in one way only. It makes a new mapping and changes
  none that was there, whatever these share. -/
  apart : ∀ (m : Memory) (lower above : Nat), m.Has lower base → m.Has above upper →
    (∃ m' result, m.Merges lower above m' result) ∧
      ∀ m' result, m.Merges lower above m' result →
        m.MergedApart base upper m' result ∧ m'.Has lower base ∧ m'.Has above upper

/-- Merging is decided path by path, obeys the laws of laying one thing over another, and leaves
the two mappings as they are. -/
theorem merges_by_path {base upper : Entries} (hb : (map base).KeysOnce)
    (hu : (map upper).KeysOnce) : MergesByPath base upper := by
  have laid {path : List Value} (free : (map upper).Open path) :
      (map (merge base upper)).at? path = stacked ((map upper).at? path) ((map base).at? path) :=
    at?_overlay (map base) hu free
  refine
    { leaf := fun path v leaf there => at?_merge_leaf hu leaf there
      closed := fun path closed => at?_merge_closed hu closed
      beneath := fun path free nothing => by rw [laid free, nothing]; rfl
      both := fun path below fields lower there => by
        rw [laid (open_of_at? there), there, lower]
        rfl
      alone := fun path fields other there => ?_
      keys := keys_merge hu.distinct
      empty_above := merge_nil base
      empty_below := nil_merge hb.distinct
      self := merge_self hb
      again := merge_merge hb hu
      apart := fun m lower above hl ha => ?_ }
  · rw [laid (open_of_at? there), there]
    cases lower : (map base).at? path with
    | none => rfl
    | some w =>
      cases w with
      | map below => exact absurd lower (other below)
      | _ => rfl
  · obtain ⟨m', merges, apart⟩ := Memory.exists_merges hl ha
    refine ⟨⟨m', _, merges⟩, fun m'' result merges' => ?_⟩
    obtain ⟨rfl, rfl⟩ := merges.unique merges'
    exact ⟨apart, hl.mono apart.kept, ha.mono apart.kept⟩

/-- Two names for one mapping, a number and a mapping. -/
def sharingLayer : Entries :=
  [(.text "a", record [("x", .int 1)]), (.text "b", record [("x", .int 1)]), (.text "c", .int 3),
    (.text "d", record [("z", .int 4)])]

/-- Something for the first name, a mapping for the number, and a number for the mapping. -/
def changingLayer : Entries :=
  [(.text "a", record [("y", .int 2)]), (.text "c", record [("w", .int 5)]), (.text "d", .int 6),
    (.text "e", .int 7)]

/-- The two of them in memory, at the addresses 2 and 5. The mapping with two names is there
once. -/
def sharingMemory : Memory where
  cells := [[(.text "x", .plain (.int 1))], [(.text "z", .plain (.int 4))],
    [(.text "a", .mapping 0), (.text "b", .mapping 0), (.text "c", .plain (.int 3)),
      (.text "d", .mapping 1)],
    [(.text "y", .plain (.int 2))], [(.text "w", .plain (.int 5))],
    [(.text "a", .mapping 3), (.text "c", .mapping 4), (.text "d", .plain (.int 6)),
      (.text "e", .plain (.int 7))]]

/-- The mapping with two names is changed under neither of them. -/
theorem sharing_layers_merge :
    (map sharingLayer).KeysOnce ∧ (map changingLayer).KeysOnce ∧
      MergesByPath sharingLayer changingLayer ∧
      merge sharingLayer changingLayer =
        [(.text "a", record [("x", .int 1), ("y", .int 2)]), (.text "b", record [("x", .int 1)]),
          (.text "c", record [("w", .int 5)]), (.text "d", .int 6), (.text "e", .int 7)] ∧
      sharingMemory.Has 2 sharingLayer ∧ sharingMemory.Has 5 changingLayer ∧
      ∃ m' result, sharingMemory.Merges 2 5 m' result ∧ m'.Has 2 sharingLayer := by
  have number (n : Int) : (int n).KeysOnce := keysOnce_of_ne_map nofun
  have one (name : String) (n : Int) : (map [(text name, int n)]).KeysOnce :=
    @keysOnce_record [(name, int n)] (by simp) (by simpa using number n)
  have lower : (map sharingLayer).KeysOnce :=
    @keysOnce_record [("a", _), ("b", _), ("c", _), ("d", _)] (by decide)
      (by simp [number, one])
  have upper : (map changingLayer).KeysOnce :=
    @keysOnce_record [("a", _), ("c", _), ("d", _), ("e", _)] (by decide)
      (by simp [number, one])
  have merges : MergesByPath sharingLayer changingLayer := merges_by_path lower upper
  have single {seen : Nat → Cell → Prop} (name : String) (n : Int) :
      Holds seen [(.text name, .plain (.int n))] [(.text name, .int n)] := .plain nofun .nil
  have base : sharingMemory.Has 2 sharingLayer :=
    ⟨_, rfl, .mapping ⟨rfl, List.not_mem_nil⟩ (single "x" 1)
      (.mapping ⟨rfl, List.not_mem_nil⟩ (single "x" 1)
        (.plain nofun (.mapping ⟨rfl, List.not_mem_nil⟩ (single "z" 4) .nil)))⟩
  have top : sharingMemory.Has 5 changingLayer :=
    ⟨_, rfl, .mapping ⟨rfl, List.not_mem_nil⟩ (single "y" 2)
      (.mapping ⟨rfl, List.not_mem_nil⟩ (single "w" 5) (.plain nofun (single "e" 7)))⟩
  obtain ⟨⟨m', result, run⟩, left⟩ := merges.apart sharingMemory 2 5 base top
  exact ⟨lower, upper, merges, rfl, base, top, m', result, run, (left m' result run).2.1⟩

end Config
end LintBridge
