import Mathlib.Data.List.Forall2
import LintBridge.Schema.Scalar
/-!
When a check succeeds. Each lemma takes one way of putting checks together apart, so that no
later proof opens it.
-/
namespace LintBridge

theorem bind_eq_ok {ε α β : Type} {x : Except ε α} {f : α → Except ε β} {r : β} :
    x >>= f = .ok r ↔ ∃ a, x = .ok a ∧ f a = .ok r := by
  cases x <;> simp [bind, Except.bind]

theorem bind_eq_error {ε α β : Type} {x : Except ε α} {f : α → Except ε β} {e : ε} :
    x >>= f = .error e ↔ x = .error e ∨ ∃ a, x = .ok a ∧ f a = .error e := by
  cases x <;> simp [bind, Except.bind]

theorem map_eq_ok_iff {ε α β : Type} {x : Except ε α} {f : α → β} {b : β} :
    x.map f = .ok b ↔ ∃ a, x = .ok a ∧ f a = b := by
  cases x <;> simp [Except.map]

theorem map_eq_error_iff {ε α β : Type} {x : Except ε α} {f : α → β} {e : ε} :
    x.map f = .error e ↔ x = .error e := by
  cases x <;> simp [Except.map]

theorem toOption_eq_some_iff {ε α : Type} {r : Except ε α} {a : α} :
    r.toOption = some a ↔ r = .ok a := by
  cases r <;> simp [Except.toOption]

@[simp] theorem mapError_error {ε ε' α : Type} (e : ε) (g : ε → ε') :
    (Except.error e : Except ε α).mapError g = .error (g e) := rfl

@[simp] theorem mapError_ok {ε ε' α : Type} (a : α) (g : ε → ε') :
    (Except.ok a : Except ε α).mapError g = .ok a := rfl

theorem mapError_eq_ok_iff {ε ε' α : Type} {x : Except ε α} {g : ε → ε'} {a : α} :
    x.mapError g = .ok a ↔ x = .ok a := by
  cases x <;> simp

/-- Related to some list is a list whose elements are all related to something. -/
theorem exists_forall₂_iff {α β : Type} {R : α → β → Prop} {xs : List α} :
    (∃ ys, List.Forall₂ R xs ys) ↔ ∀ x ∈ xs, ∃ y, R x y := by
  induction xs with
  | nil => simp
  | cons x xs ih =>
    rw [List.forall_mem_cons, ← ih]
    constructor
    · rintro ⟨_, _ | ⟨first, others⟩⟩
      exact ⟨⟨_, first⟩, _, others⟩
    · rintro ⟨⟨y, first⟩, ys, others⟩
      exact ⟨y :: ys, .cons first others⟩

/-- Results one after the other are those of each element. -/
theorem mapM_eq_ok_iff {ε α β : Type} {f : α → Except ε β} {xs : List α} {ys : List β} :
    xs.mapM f = .ok ys ↔ List.Forall₂ (fun x y => f x = .ok y) xs ys := by
  induction xs generalizing ys with
  | nil => cases ys <;> simp [pure, Except.pure]
  | cons x xs ih =>
    rw [List.mapM_cons, bind_eq_ok]
    simp only [bind_eq_ok, ih, pure, Except.pure, Except.ok.injEq]
    constructor
    · rintro ⟨y, first, ys, others, rfl⟩
      exact .cons first others
    · rintro (_ | ⟨first, others⟩)
      exact ⟨_, first, _, others, rfl⟩

theorem inside_eq_ok {α : Type} {step : String} {c : Schema.Checked α} {a : α}
    (h : Schema.inside step c = .ok a) : c = .ok a := by
  cases c with
  | error m => cases h
  | ok a' => exact h

namespace Schema

/-- What a field with a default comes to: its checked value, or the default without one. -/
theorem defaulted_eq_ok_iff {α : Type} {es : Value.Entries} {name : String} {default a : α}
    {check : Value → Checked α} :
    defaulted es name default check = .ok a ↔
      match es.field? name with
      | some v => check v = .ok a
      | none => a = default := by
  unfold defaulted
  cases es.field? name with
  | none => simp [eq_comm]
  | some v => exact ⟨inside_eq_ok, fun h => by simp [inside, h]⟩

theorem entries_eq_ok_iff {model : String} {v : Value} {es : Value.Entries} :
    entries model v = .ok es ↔ v = .map es := by
  cases v <;> simp [entries, fail]

end Schema
end LintBridge
