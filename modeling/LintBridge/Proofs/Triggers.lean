import LintBridge.Proofs.Activity
/-!
What a cycle knows of later ones. A document is triggered when a cycle of it begins or when
it is closed, and its counter is the number of its triggers since the last shutdown
(`generation_run`). A suspended cycle keeps the number that its own trigger had
(`origin_run`), so it is current exactly when the number is the same at its last step.
-/
namespace LintBridge

open Effect (publications commands Quiet)

/-- A positive counter is current exactly when the document stands at it. -/
theorem Session.isCurrent_iff (s : Session) (uri : String) {generation : Nat}
    (h : 0 < generation) :
    s.isCurrent uri generation = true ↔ s.generation uri = generation := by
  cases hg : s.generations.get? uri with
  | none =>
    simp only [isCurrent, Session.generation, hg]
    simp
    omega
  | some g => simp [isCurrent, Session.generation, hg]

namespace Activity

/-- Does a move begin a cycle of a document or close it? -/
def triggers (a : Activity) (m : Move) (uri : String) : Bool :=
  match m.act with
  | .lint other _ language => a.session.isLintable language && other = uri
  | .close other => other = uri
  | _ => false

/-- The number of triggers after a move, where `n` is the number before it. A shutdown
begins to count anew. -/
def count (a : Activity) (m : Move) (uri : String) (n : Nat) : Nat :=
  match m.act with
  | .shutdown => 0
  | _ => if a.triggers m uri then n + 1 else n

/-- The number of triggers of a document after a run, where `n` is the number before it. -/
def tally (uri : String) : Activity → Nat → List Move → Nat
  | _, n, [] => n
  | a, n, m :: ms => tally uri (a.step m).1 (a.count m uri n) ms

/-- No move of a run begins a cycle of a document or closes it. -/
def Untouched (uri : String) : Activity → List Move → Prop
  | _, [] => True
  | a, m :: ms => a.triggers m uri = false ∧ Untouched uri (a.step m).1 ms

theorem count_of_ne_shutdown (a : Activity) {m : Move} (h : m.act ≠ .shutdown) (uri : String)
    (n : Nat) : a.count m uri n = if a.triggers m uri then n + 1 else n := by
  unfold count
  split
  next hm => exact absurd hm h
  next => rfl

theorem le_count (a : Activity) {m : Move} (h : m.act ≠ .shutdown) (uri : String) (n : Nat) :
    n ≤ a.count m uri n := by
  rw [count_of_ne_shutdown a h]
  split <;> omega

theorem le_tally (uri : String) (a : Activity) (n : Nat) {ms : List Move}
    (hs : ∀ m ∈ ms, m.act ≠ .shutdown) : n ≤ tally uri a n ms := by
  induction ms generalizing a n with
  | nil => exact Nat.le_refl n
  | cons m ms ih =>
    have first := le_count a (hs m (by simp)) uri n
    have later := ih (a.step m).1 (a.count m uri n) (fun m' h => hs m' (by simp [h]))
    exact Nat.le_trans first later

/-- Without a shutdown the number stays the same exactly when nothing triggers. -/
theorem tally_eq_iff (uri : String) (a : Activity) (n : Nat) {ms : List Move}
    (hs : ∀ m ∈ ms, m.act ≠ .shutdown) : tally uri a n ms = n ↔ Untouched uri a ms := by
  induction ms generalizing a n with
  | nil => simp [tally, Untouched]
  | cons m ms ih =>
    have hs' : ∀ m' ∈ ms, m'.act ≠ .shutdown := fun m' h => hs m' (by simp [h])
    rw [tally, Untouched, count_of_ne_shutdown a (hs m (by simp)) uri n]
    cases ht : a.triggers m uri with
    | false => simpa using ih (a.step m).1 n hs'
    | true =>
      have hl := le_tally uri (a.step m).1 (n + 1) hs'
      simp only [↓reduceIte, Bool.true_eq_false, false_and, iff_false]
      omega

theorem generation_of_generations {s s' : Session} (h : s'.generations = s.generations)
    (uri : String) : s'.generation uri = s.generation uri := by
  simp [Session.generation, h]

/-- What one move does to a counter. -/
theorem generation_step {a : Activity} (ha : a.Tidy) (m : Move) (uri : String) :
    (a.step m).1.session.generation uri = a.count m uri (a.session.generation uri) := by
  have moved := ha.moved m
  generalize a.step m = out at moved ⊢
  cases moved with
  | skipped act unlinted same quiet ended => simp [count, triggers, act, unlinted, settle, same]
  | @started other source language turn act linted searched =>
    have kept : turn.session.generation uri = (a.session.advance other).generation uri :=
      generation_of_generations searched.kept.2.1 uri
    simp only [settle, kept, Session.generation_advance]
    by_cases hu : other = uri <;> simp [count, triggers, act, linted, hu]
  | missing act gone => simp [count, triggers, act]
  | resumed act cycle resumed =>
    have kept := generation_of_generations resumed.generations uri
    simp [count, triggers, act, settle, kept]
  | @closed other act =>
    have kept : Session.generation
        { a.session.advance other with registry := a.session.registry.clear other } uri =
          (a.session.advance other).generation uri := rfl
    simp only [kept, Session.generation_advance]
    by_cases hu : other = uri <;> simp [count, triggers, act, hu]
  | reconfigured act => simp [count, triggers, act, Session.reconfigure, Session.generation]
  | queried act => simp [count, triggers, act]
  | halted act => simp [count, act, Session.shutdown, Session.generation]

/-- The counter of a document is the number of its triggers since the last shutdown. -/
theorem generation_run {a : Activity} (ha : a.Tidy) (ms : List Move) (uri : String) :
    (a.run ms).session.generation uri = tally uri a (a.session.generation uri) ms := by
  induction ms generalizing a with
  | nil => rfl
  | cons m ms ih => rw [run_cons, ih (ha.step m), generation_step ha, tally]

/-- A cycle that was begun before a move was suspended before it as well. -/
theorem origin_step {a : Activity} (ha : a.Tidy) {m : Move} {t : Nat} {c : Cycle}
    (ht : t < a.begun) (hc : (a.step m).1.cycles.get? t = some c) :
    ∃ c₀, a.cycles.get? t = some c₀ ∧ c.uri = c₀.uri ∧ c.source = c₀.source ∧
      c.generation = c₀.generation := by
  by_cases hm : a.ticket? m = some t
  · obtain ⟨-, ⟨uri, source, language, -, rfl, -⟩ | ⟨reply, c₀, -, h₀, same⟩⟩ :=
      paused_of_ticket ha hm hc
    · exact absurd ht (Nat.lt_irrefl _)
    · exact ⟨c₀, h₀, same⟩
  · rw [get?_step_of_ne hm] at hc
    exact ⟨c, hc, rfl, rfl, rfl⟩

theorem origin_run {a : Activity} (ha : a.Tidy) {ms : List Move} {t : Nat} {c : Cycle}
    (ht : t < a.begun) (hc : (a.run ms).cycles.get? t = some c) :
    ∃ c₀, a.cycles.get? t = some c₀ ∧ c.uri = c₀.uri ∧ c.source = c₀.source ∧
      c.generation = c₀.generation := by
  let kept (b : Activity) : Prop := t < b.begun ∧ ∀ c, b.cycles.get? t = some c →
    ∃ c₀, a.cycles.get? t = some c₀ ∧ c.uri = c₀.uri ∧ c.source = c₀.source ∧
      c.generation = c₀.generation
  have keeps {b : Activity} (hb : b.Tidy) (h : kept b) (m : Move) : kept (b.step m).1 := by
    refine ⟨Nat.lt_of_lt_of_le h.1 (begun_le_step b m), fun c hc => ?_⟩
    obtain ⟨c₁, h₁, hu₁, hs₁, hg₁⟩ := origin_step hb h.1 hc
    obtain ⟨c₀, h₀, hu₀, hs₀, hg₀⟩ := h.2 c₁ h₁
    exact ⟨c₀, h₀, hu₁.trans hu₀, hs₁.trans hs₀, hg₁.trans hg₀⟩
  exact (ha.run_keeps keeps ⟨ht, fun c hc => ⟨c, hc, rfl, rfl, rfl⟩⟩ ms).2 c hc

/-- A suspended cycle is about the document that its first move named, and its counter is
the one that this move left. -/
theorem origin {a : Activity} (ha : a.Tidy) {first : Move} {uri source : String}
    {language : Option String} (hm : first.act = .lint uri source language) {ms : List Move}
    {c : Cycle} (hc : (a.run (first :: ms)).cycles.get? a.begun = some c) :
    c.uri = uri ∧ c.source = source ∧ c.generation = (a.step first).1.session.generation uri ∧
      a.session.isLintable language = true := by
  have ht : a.begun < (a.step first).1.begun := by
    rw [begun_step, hm]
    exact Nat.lt_succ_self _
  obtain ⟨c₀, h₀, hu, hs, hg⟩ := origin_run (ha.step first) ht hc
  have own : a.ticket? first = some a.begun := by simp [ticket?, hm]
  obtain ⟨-, ⟨u, s, l, hl, -, lintable, hu₀, hs₀, hg₀⟩ | ⟨reply, c₁, hr, -⟩⟩ :=
    paused_of_ticket ha own h₀
  · rw [hm] at hl
    cases hl
    have counted : (a.step first).1.session.generation uri = a.session.generation uri + 1 := by
      rw [generation_step ha, count_of_ne_shutdown a (by simp [hm])]
      simp [triggers, hm, lintable]
    exact ⟨hu.trans hu₀, hs.trans hs₀, by rw [hg, hg₀, counted], lintable⟩
  · rw [hm] at hr
    cases hr

/-- With a move a cycle comes to its last step: every pass gave a result, and all of it
translates. -/
def Completes (a : Activity) (m : Move) (t : Nat) (fs : List Finding) : Prop :=
  ∃ reply c vs, m.act = .resume t reply ∧ a.cycles.get? t = some c ∧
    a.session.harvest c reply = some vs ∧ Violation.findings c.uri vs = .ok fs

/-- A move hands findings to publish and writes their quick fixes to the registry. -/
def Hands (a : Activity) (m : Move) (uri : String) (fs : List Finding) : Prop :=
  publications (a.step m).2 = [(uri, Finding.diagnostics fs)] ∧
    (a.step m).1.session.registry = a.session.registry.publish uri (Finding.actions fs)

/-- A move neither publishes nor writes the registry. -/
def Silent (a : Activity) (m : Move) : Prop :=
  publications (a.step m).2 = [] ∧ (a.step m).1.session.registry = a.session.registry

theorem Hands.not_silent {a : Activity} {m : Move} {uri : String} {fs : List Finding}
    (h : a.Hands m uri fs) : ¬ a.Silent m := by
  intro hs
  have he := h.1.symm.trans hs.1
  cases he

theorem silent_of_no_delivery {a : Activity} (ha : a.Tidy) {m : Move}
    (hs : m.act ≠ .shutdown) (h : a.delivery m = none) : a.Silent m := by
  constructor
  · rw [publications_step ha, h]
    rfl
  · rw [registry_step ha hs, h]
    rfl

theorem hands_of_delivery {a : Activity} (ha : a.Tidy) {m : Move} (hs : m.act ≠ .shutdown)
    {d : Delivery} (h : a.delivery m = some d) : a.Hands m d.uri d.findings := by
  constructor
  · rw [publications_step ha, h]
    rfl
  · rw [registry_step ha hs, h]
    rfl

/-- No step of a cycle but a last one publishes or writes anything. -/
theorem silent_of_incomplete {a : Activity} (ha : a.Tidy) {m : Move} {t : Nat} {reply : Reply}
    (hm : m.act = .resume t reply) (h : ∀ fs, ¬ a.Completes m t fs) : a.Silent m := by
  have hs : m.act ≠ .shutdown := by simp [hm]
  apply silent_of_no_delivery ha hs
  cases hc : a.cycles.get? t with
  | none => simp [delivery, hm, hc]
  | some c =>
    rw [delivery_resume hm hc]
    cases hv : a.session.harvest c reply with
    | none => exact Session.delivery_of_no_harvest hv
    | some vs =>
      cases hf : Violation.findings c.uri vs with
      | error f => simp [Session.delivery, hv, Delivery.of?_error hf]
      | ok fs => exact absurd ⟨reply, c, vs, hm, hc, hv, hf⟩ (h fs)

/-- A last step hands everything over if the document stands where the cycle's first move
left it, and nothing otherwise. -/
theorem last_step {start : Activity} (hs : start.Tidy) {first last : Move}
    {uri source : String} {language : Option String}
    (hm : first.act = .lint uri source language) {between : List Move} {fs : List Finding}
    (hc : (start.run (first :: between)).Completes last start.begun fs) :
    ((start.run (first :: between)).session.generation uri =
        (start.step first).1.session.generation uri →
      (start.run (first :: between)).Hands last uri fs) ∧
    ((start.run (first :: between)).session.generation uri ≠
        (start.step first).1.session.generation uri →
      (start.run (first :: between)).Silent last) := by
  obtain ⟨reply, c, vs, hr, hget, hv, hf⟩ := hc
  obtain ⟨rfl, -, hg, -⟩ := origin hs hm hget
  have tidy := hs.run (first :: between)
  have shut : last.act ≠ .shutdown := by simp [hr]
  have current := (start.run (first :: between)).session.isCurrent_iff c.uri
    (tidy.positive _ c hget)
  constructor
  · intro same
    have hd : (start.run (first :: between)).delivery last = some ⟨c.uri, vs, fs, hf⟩ := by
      rw [delivery_resume hr hget, Session.delivery, if_pos (current.mpr (same.trans hg.symm)),
        hv, Option.bind_some, Delivery.of?_ok hf]
    exact hands_of_delivery tidy shut hd
  · intro other
    have hd : (start.run (first :: between)).delivery last = none := by
      rw [delivery_resume hr hget, Session.delivery, if_neg]
      intro h
      exact other ((current.mp h).trans hg)
    exact silent_of_no_delivery tidy shut hd

end Activity
end LintBridge
