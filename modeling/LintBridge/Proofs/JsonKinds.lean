import LintBridge.Json.Decode
import LintBridge.Proofs.Merging
/-!
The kinds of values that a JSON text can hold: null, truth values, numbers, texts, arrays, and
objects whose keys are texts. The reader gives no others (`ofJson_of_decode`).
-/
namespace LintBridge.Json

/-- A value of a JSON text. -/
inductive OfJson : Value → Prop where
  | null : OfJson .null
  | bool (b : Bool) : OfJson (.bool b)
  | int (n : Int) : OfJson (.int n)
  | float (x : Binary64) : OfJson (.float x)
  | text (s : String) : OfJson (.text s)
  | list {items : List Value} (each : ∀ item ∈ items, OfJson item) : OfJson (.list items)
  | map {es : Value.Entries} (each : ∀ e ∈ es, OfJson e.2) : OfJson (.map es)

theorem OfJson.field? {es : Value.Entries} {name : String} {v : Value} (h : OfJson (.map es))
    (field : es.field? name = some v) : OfJson v := by
  obtain ⟨k, mem, -⟩ := Value.Entries.mem_of_get? field
  cases h with
  | map each => exact each _ mem

/-- Do all values that a reading gives come from JSON? -/
def Gives {α : Type} (p : α → Prop) (r : Reading α) : Prop := ∀ a rest, r = .ok (a, rest) → p a

theorem Gives.error {α : Type} {p : α → Prop} (stop : Stop) : Gives p (.error stop) := by
  intro a rest h
  cases h

theorem Gives.ok {α : Type} {p : α → Prop} {a : α} (h : p a) (rest : List Char) :
    Gives p (.ok (a, rest)) := by
  rintro a' rest' ⟨⟩
  exact h

theorem Gives.map {α β : Type} {p : α → Prop} {q : β → Prop} {r : Reading α} {f : α → β}
    (h : Gives p r) (keeps : ∀ a, p a → q (f a)) :
    Gives q (r.map fun (a, rest) => (f a, rest)) := by
  cases r with
  | error stop => exact .error stop
  | ok read => exact .ok (keeps _ (h _ _ rfl)) _

theorem gives_number (left : Nat) (negative : Bool) (s : List Char) :
    Gives OfJson (number left negative s) := by
  unfold number
  split
  · exact .error _
  · split
    · split
      · exact .error _
      · exact .ok (.int _) _
    · exact .ok (.float _) _

theorem ofJson_word {s rest : List Char} {v : Value} (h : word? s = some (v, rest)) :
    OfJson v := by
  obtain ⟨⟨name, value⟩, mem, hw⟩ := List.exists_of_findSome?_eq_some h
  have written : OfJson value := by
    simp only [words, List.mem_cons, Prod.mk.injEq, List.not_mem_nil, or_false] at mem
    obtain ⟨-, rfl⟩ | ⟨-, rfl⟩ | ⟨-, rfl⟩ | ⟨-, rfl⟩ | ⟨-, rfl⟩ | ⟨-, rfl⟩ := mem
    · exact .null
    · exact .bool true
    · exact .bool false
    · exact .float _
    · exact .float _
    · exact .float _
  dsimp only at hw
  split at hw
  · obtain ⟨rfl, -⟩ : value = v ∧ _ := by simpa using hw
    exact written
  · cases hw

theorem ofJson_ofPairs {pairs : Value.Entries} (each : ∀ e ∈ pairs, OfJson e.2) :
    OfJson (.map (Value.Entries.ofPairs pairs)) := by
  have kept (es : Value.Entries) (written : ∀ e ∈ es, OfJson e.2) :
      ∀ e ∈ pairs.foldl (fun m entry => m.put entry.1 entry.2) es, OfJson e.2 := by
    induction pairs generalizing es with
    | nil => exact written
    | cons pair pairs ih =>
      obtain ⟨first, others⟩ := List.forall_mem_cons.mp each
      refine ih others _ fun e mem => ?_
      rcases Value.Entries.mem_put mem with same | mem
      · exact same ▸ first
      · exact written e mem
  exact .map (kept [] (by simp))

theorem gives_value {fuel : Nat}
    (inItems : ∀ s acc, (∀ v ∈ acc, OfJson v) → Gives (∀ v ∈ ·, OfJson v) (items fuel s acc))
    (inMembers : ∀ s acc, (∀ e ∈ acc, OfJson e.2) →
      Gives (∀ e ∈ ·, OfJson e.2) (members fuel s acc)) (s : List Char) :
    Gives OfJson (value (fuel + 1) s) := by
  cases s with
  | nil => exact .error _
  | cons c rest =>
    rw [value]
    split
    · exact Gives.map (p := fun _ => True) (fun _ _ _ => trivial) fun s _ => .text s
    · split
      · split
        · exact .ok (.list (by simp)) _
        · exact (inItems _ [] (by simp)).map fun _ each => .list each
      · split
        · split
          · exact .ok (.map (by simp)) _
          · exact (inMembers _ [] (by simp)).map fun _ each => ofJson_ofPairs each
        · split
          · next result hw => exact .ok (ofJson_word hw) _
          · split <;> exact gives_number _ _ _

theorem gives_items {fuel : Nat} (inValue : ∀ s, Gives OfJson (value fuel s))
    (inItems : ∀ s acc, (∀ v ∈ acc, OfJson v) → Gives (∀ v ∈ ·, OfJson v) (items fuel s acc))
    (s : List Char) (acc : List Value) (before : ∀ v ∈ acc, OfJson v) :
    Gives (∀ v ∈ ·, OfJson v) (items (fuel + 1) s acc) := by
  rw [items]
  split
  · exact .error _
  · next v rest hv =>
    have all : ∀ w ∈ v :: acc, OfJson w :=
      List.forall_mem_cons.mpr ⟨inValue _ _ _ hv, before⟩
    split
    · exact inItems _ _ all
    · exact .ok (fun w mem => all w (List.mem_reverse.mp mem)) _
    · exact .error _

theorem gives_members {fuel : Nat} (inValue : ∀ s, Gives OfJson (value fuel s))
    (inMembers : ∀ s acc, (∀ e ∈ acc, OfJson e.2) →
      Gives (∀ e ∈ ·, OfJson e.2) (members fuel s acc))
    (s : List Char) (acc : List (Value × Value)) (before : ∀ e ∈ acc, OfJson e.2) :
    Gives (∀ e ∈ ·, OfJson e.2) (members (fuel + 1) s acc) := by
  unfold members
  split
  · split
    · exact .error _
    · split
      · split
        · exact .error _
        · next v rest hv =>
          have all (name : String) : ∀ e ∈ (.text name, v) :: acc, OfJson e.2 :=
            List.forall_mem_cons.mpr ⟨inValue _ _ _ hv, before⟩
          split
          · exact inMembers _ _ (all _)
          · exact .ok (fun e mem => all _ e (List.mem_reverse.mp mem)) _
          · exact .error _
      · exact .error _
  · exact .error _

/-- The readers of nested data call each other with one step of fuel less. -/
theorem gives_nested (fuel : Nat) :
    (∀ s, Gives OfJson (value fuel s)) ∧
      (∀ s acc, (∀ v ∈ acc, OfJson v) → Gives (∀ v ∈ ·, OfJson v) (items fuel s acc)) ∧
      ∀ s acc, (∀ e ∈ acc, OfJson e.2) → Gives (∀ e ∈ ·, OfJson e.2) (members fuel s acc) := by
  induction fuel with
  | zero => exact ⟨fun _ => .error _, fun _ _ _ => .error _, fun _ _ _ => .error _⟩
  | succ fuel ih =>
    obtain ⟨inValue, inItems, inMembers⟩ := ih
    exact ⟨gives_value inItems inMembers, gives_items inValue inItems,
      gives_members inValue inMembers⟩

/-- A text is read as a value that JSON has. -/
theorem ofJson_of_decode {s : String} {v : Value} (h : decode s = .ok v) : OfJson v := by
  unfold decode at h
  cases hd : document s.toList with
  | error stop => simp [hd, Except.mapError] at h
  | ok v' =>
    obtain rfl : v' = v := by simpa [hd, Except.mapError] using h
    unfold document at hd
    split at hd
    · cases hd
    · dsimp only at hd
      split at hd
      · cases hd
      · next v'' rest hv =>
        split at hd
        · cases hd
          exact (gives_nested _).1 _ _ _ hv
        · cases hd

end LintBridge.Json
