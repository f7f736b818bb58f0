import Mathlib
import LintBridge.Proofs.Latest
import LintBridge.Proofs.Mirror
import LintBridge.Proofs.Translation
/-!
What a query for quick fixes returns, from the output of the linter on. The record of a run
keeps what each pass of each cycle gave (`Activity.found`); what is shown of a document are
the violations of its last published cycle (`Activity.Shown`); and a query gives just the
fixes of those that meet the queried stretch (`Activity.offers_exactly`).
-/
namespace LintBridge

open Effect (publications commands Quiet)

namespace Interval

/-- Do two closed intervals share a position? -/
def Meets (a b : Interval) : Prop := ∃ p, a.Covers p ∧ b.Covers p

theorem ordered_of_covers {a : Interval} {p : Position} (h : a.Covers p) : a.Ordered :=
  Position.le_trans h.1 h.2

theorem meets_iff {a b : Interval} :
    a.Meets b ↔ a.Ordered ∧ b.Ordered ∧ a.intersects b = true := by
  constructor
  · rintro ⟨p, ha, hb⟩
    have hao := ordered_of_covers ha
    have hbo := ordered_of_covers hb
    exact ⟨hao, hbo, (intersects_iff hao hbo).mpr ⟨p, ha, hb⟩⟩
  · rintro ⟨hao, hbo, h⟩
    exact (intersects_iff hao hbo).mp h

instance (a b : Interval) : Decidable (a.Meets b) := decidable_of_iff' _ meets_iff

instance (a : Interval) (p : Position) : Decidable (a.Covers p) :=
  inferInstanceAs (Decidable (_ ∧ _))

/-- An interval meets a cursor, that is an interval of one position, if it covers it. -/
theorem meets_cursor {a : Interval} {p : Position} : a.Meets ⟨p, p⟩ ↔ a.Covers p := by
  constructor
  · rintro ⟨p', ⟨hs, hp⟩, hs', hp'⟩
    exact ⟨Position.le_trans hs hp', Position.le_trans hs' hp⟩
  · intro h
    exact ⟨p, h, Position.le_refl p, Position.le_refl p⟩

end Interval

/-- What a pass gave, with the rule file that it was run with, if it was. -/
structure PassResult where
  rules : Option String
  violations : List Violation

namespace Cycle

/-- What a suspended cycle keeps of the passes that are over. -/
def collected (c : Cycle) : List PassResult :=
  match c.stage with
  | .rulesPass _ _ base => [⟨none, base⟩]
  | _ => []

/-- What a pass of a cycle gives when its process comes to an end. -/
def passResult? (c : Cycle) (r : Reply) : Option PassResult :=
  match c.stage, r with
  | .basePass plan, .ended e =>
    ((Session.invocation plan none).conclude e).result.toOption.map (⟨none, ·⟩)
  | .rulesPass plan path _, .ended e =>
    ((Session.invocation plan (some path)).conclude e).result.toOption.map (⟨some path, ·⟩)
  | _, _ => none

end Cycle

/-- The results of the passes of a whole cycle: of the one without custom rules, and then of
the one with them if there is one. -/
inductive Complete : List PassResult → Prop where
  | base (vs : List Violation) : Complete [⟨none, vs⟩]
  | both (vs : List Violation) (path : String) (vs' : List Violation) :
    Complete [⟨none, vs⟩, ⟨some path, vs'⟩]

namespace Session

/-- A cycle that searches, or has just found the linter, has no results. -/
theorem Searched.collected_of_paused {s : Session} {uri source : String} {generation : Nat}
    {turn : Turn Standing} (h : Searched s uri source generation turn) {c : Cycle}
    (hc : turn.value = .paused c) : c.collected = [] := by
  cases h with
  | searching quiet isOpen =>
    cases hc
    rfl
  | noLinter quiet => cases hc
  | refused e quiet => cases hc
  | base quiet taken =>
    cases hc
    rfl

/-- A cycle that goes on keeps what its passes have given. -/
theorem collected_of_paused {s : Session} {fs : FileSystem} {canPublish : Bool} {c c' : Cycle}
    {r : Reply} (isOpen : c.stage.Open)
    (h : (s.resume fs canPublish c r).value = .paused c') :
    c'.collected = c.collected ++ (c.passResult? r).toList := by
  obtain ⟨uri, source, generation, stage⟩ := c
  cases stage with
  | searching search =>
    cases r with
    | looked => exact (turned_step s fs uri source generation isOpen).searched.collected_of_paused h
    | ended e =>
      cases h
      rfl
  | basePass plan =>
    cases r with
    | looked =>
      cases h
      rfl
    | ended e =>
      cases hr : ((invocation plan none).conclude e).result with
      | error f => simp [resume, hr] at h
      | ok vs =>
        simp only [resume, hr, afterBase_eq] at h
        split at h
        next f hp => cases h
        next hp =>
          obtain ⟨result, hf⟩ := finish_ended s fs canPublish
            ⟨uri, source, generation, .basePass plan⟩ vs 1
          rw [hf] at h
          cases h
        next path hp =>
          cases h
          simp [Cycle.collected, Cycle.passResult?, hr, Except.toOption]
  | rulesPass plan path base =>
    cases r with
    | looked =>
      cases h
      rfl
    | ended e =>
      cases hr : ((invocation plan (some path)).conclude e).result with
      | error f => simp [resume, hr] at h
      | ok vs =>
        obtain ⟨result, hf⟩ := finish_ended s fs canPublish
          ⟨uri, source, generation, .rulesPass plan path base⟩ (base ++ vs) 2
        simp only [resume, hr] at h
        rw [hf] at h
        cases h

theorem collected_of_begun {s : Session} {fs : FileSystem} {uri source : String}
    {language : Option String} {c : Cycle}
    (h : (s.beginCycle fs uri source language).value = .paused c) : c.collected = [] := by
  cases linted : s.isLintable language with
  | false => simp [beginCycle, linted] at h
  | true => exact (searched_beginCycle s fs uri source linted).collected_of_paused h

/-- A cycle that is harvested has come through all its passes. -/
theorem complete_of_harvest {s : Session} {c : Cycle} {r : Reply} {vs : List Violation}
    (h : s.harvest c r = some vs) :
    Complete (c.collected ++ (c.passResult? r).toList) ∧
      vs = (c.collected ++ (c.passResult? r).toList).flatMap PassResult.violations := by
  unfold harvest at h
  split at h
  next plan e hs =>
    split at h
    next vs' hr hp =>
      cases h
      have result : c.passResult? (.ended e) = some ⟨none, vs⟩ := by
        simp [Cycle.passResult?, hs, hr, Except.toOption]
      have before : c.collected = [] := by simp [Cycle.collected, hs]
      rw [result, before]
      exact ⟨.base vs, by simp⟩
    next => cases h
  next plan path base e hs =>
    split at h
    next vs' hr =>
      cases h
      have result : c.passResult? (.ended e) = some ⟨some path, vs'⟩ := by
        simp [Cycle.passResult?, hs, hr, Except.toOption]
      have before : c.collected = [⟨none, base⟩] := by simp [Cycle.collected, hs]
      rw [result, before]
      exact ⟨.both base path vs', by simp⟩
    next => cases h
  next => cases h

end Session

namespace Activity

/-- What a pass of a cycle gives with a move, if the move ends one. -/
def passResult? (a : Activity) (t : Nat) (m : Move) : Option PassResult :=
  match m.act with
  | .resume ticket reply =>
    if ticket = t then (a.cycles.get? t).bind fun c => c.passResult? reply else none
  | _ => none

/-- What the passes of a cycle give in a run, in order. -/
def found : Activity → List Move → Nat → List PassResult
  | _, [], _ => []
  | a, m :: ms, t => (a.passResult? t m).toList ++ found (a.step m).1 ms t

theorem found_append (a : Activity) (ms ms' : List Move) (t : Nat) :
    a.found (ms ++ ms') t = a.found ms t ++ (a.run ms).found ms' t := by
  induction ms generalizing a with
  | nil => rfl
  | cons m ms ih => simp [found, ih]

theorem passResult?_of_ne {a : Activity} {t : Nat} {m : Move} (h : a.ticket? m ≠ some t) :
    a.passResult? t m = none := by
  unfold passResult?
  split
  next ticket reply hm =>
    have hne : ticket ≠ t := by simpa [ticket?, hm] using h
    rw [if_neg hne]
  next => rfl

theorem passResult?_resume {a : Activity} {t : Nat} {m : Move} {reply : Reply} {c : Cycle}
    (hm : m.act = .resume t reply) (hc : a.cycles.get? t = some c) :
    a.passResult? t m = c.passResult? reply := by
  simp [passResult?, hm, hc]

theorem passResult?_of_missing {a : Activity} {t : Nat} (h : a.cycles.get? t = none) (m : Move) :
    a.passResult? t m = none := by
  unfold passResult?
  split
  next => simp [h]
  next => rfl

/-- Results are those of the passes that a cycle has behind it. -/
structure Accounted (a : Activity) (t : Nat) (results : List PassResult) : Prop where
  fresh : a.begun ≤ t → results = []
  kept : ∀ c, a.cycles.get? t = some c → results = c.collected

theorem Accounted.step {a : Activity} (ha : a.Tidy) {t : Nat} {results : List PassResult}
    (h : a.Accounted t results) (m : Move) :
    (a.step m).1.Accounted t (results ++ (a.passResult? t m).toList) := by
  have nothing (begun : a.begun ≤ t) : a.cycles.get? t = none := by
    cases hc : a.cycles.get? t with
    | none => rfl
    | some c => exact absurd (ha.below t c hc) (by omega)
  constructor
  · intro begun
    have earlier := Nat.le_trans (begun_le_step a m) begun
    rw [h.fresh earlier, passResult?_of_missing (nothing earlier)]
    rfl
  · intro c hc
    by_cases ht : a.ticket? m = some t
    · cases hm : m.act with
      | lint uri source language =>
        obtain rfl : a.begun = t := by simpa [ticket?, hm] using ht
        have paused : (a.session.beginCycle m.files uri source language).value = .paused c := by
          simp only [Activity.step, hm] at hc
          exact paused_of_get?_settle hc
        rw [h.fresh (Nat.le_refl _), passResult?_of_missing (nothing (Nat.le_refl _)),
          Session.collected_of_begun paused]
        rfl
      | resume ticket reply =>
        obtain rfl : ticket = t := by simpa [ticket?, hm] using ht
        cases h₀ : a.cycles.get? ticket with
        | none =>
          simp [Activity.step, hm, h₀] at hc
        | some c₀ =>
          rw [step_resume hm h₀] at hc
          rw [passResult?_resume hm h₀, h.kept c₀ h₀]
          exact (Session.collected_of_paused (ha.isOpen ticket c₀ h₀)
            (paused_of_get?_settle hc)).symm
      | close uri => simp [ticket?, hm] at ht
      | reconfigure config roots => simp [ticket?, hm] at ht
      | query uri range => simp [ticket?, hm] at ht
      | shutdown => simp [ticket?, hm] at ht
    · rw [get?_step_of_ne ht] at hc
      rw [passResult?_of_ne ht, h.kept c hc]
      simp

theorem Accounted.run {a : Activity} (ha : a.Tidy) {t : Nat} {results : List PassResult}
    (h : a.Accounted t results) (ms : List Move) :
    (a.run ms).Accounted t (results ++ a.found ms t) := by
  induction ms generalizing a results with
  | nil => simpa [found] using h
  | cons m ms ih => simpa [found] using ih (ha.step m) (h.step ha m)

theorem accounted_opened (config : Config.LintConfig) (roots : List FilePath) (persists : Bool)
    (home : FilePath) (packaged : String) (t : Nat) :
    (opened config roots persists home packaged).Accounted t [] := by
  constructor
  · intro begun
    rfl
  · intro c hc
    cases hc

/-- Nothing is handed to publish for a document. -/
def Unpublished (a : Activity) (uri : String) (ms : List Move) : Prop :=
  ∀ p ∈ publications (a.effects ms), p.1 ≠ uri

/-- The violations that are shown of a document after a run: none if nothing was published
for it, or if it was closed last, and else those of the passes of the cycle that published
last. -/
inductive Shown (a : Activity) (ms : List Move) (uri : String) : List Violation → Prop where
  | never (silent : a.Unpublished uri ms) : Shown a ms uri []
  | closed {before after : List Move} {m : Move} (whole : ms = before ++ m :: after)
    (act : m.act = .close uri) (last : ((a.run before).step m).1.Unpublished uri after) :
    Shown a ms uri []
  | cycle {before after : List Move} {m : Move} {t : Nat} {reply : Reply} {c : Cycle}
    {ds : List Diagnostic} (whole : ms = before ++ m :: after) (act : m.act = .resume t reply)
    (cycle : (a.run before).cycles.get? t = some c)
    (published : (uri, ds) ∈ publications ((a.run before).step m).2)
    (last : ((a.run before).step m).1.Unpublished uri after)
    (complete : Complete (a.found (before ++ [m]) t)) :
    Shown a ms uri ((a.found (before ++ [m]) t).flatMap PassResult.violations)

theorem Unpublished.append {a : Activity} {uri : String} {ms ms' : List Move}
    (h : a.Unpublished uri ms) (h' : (a.run ms).Unpublished uri ms') :
    a.Unpublished uri (ms ++ ms') := by
  intro p hp
  rw [effects_append, Effect.publications_append] at hp
  rcases List.mem_append.mp hp with hp | hp
  · exact h p hp
  · exact h' p hp

theorem Unpublished.undelivered {a : Activity} (ha : a.Tidy) {uri : String} {ms : List Move}
    (h : a.Unpublished uri ms) : ∀ d ∈ a.deliveries ms, d.uri ≠ uri := by
  intro d hd
  refine h (d.uri, d.diagnostics) ?_
  rw [publications_effects ha]
  exact List.mem_map_of_mem hd

theorem deliveries_append (a : Activity) (ms ms' : List Move) :
    a.deliveries (ms ++ ms') = a.deliveries ms ++ (a.run ms).deliveries ms' := by
  induction ms generalizing a with
  | nil => rfl
  | cons m ms ih => simp [deliveries, ih]

theorem lastDelivery_of_unpublished {a : Activity} (ha : a.Tidy) {uri : String} {ms : List Move}
    (h : a.Unpublished uri ms) : a.lastDelivery uri ms = none := by
  have others := h.undelivered ha
  simpa [lastDelivery] using others

theorem lastDelivery_split {a : Activity} (ha : a.Tidy) {uri : String} {before after : List Move}
    {m : Move} {d : Delivery} (hd : (a.run before).delivery m = some d) (hu : d.uri = uri)
    (last : ((a.run before).step m).1.Unpublished uri after) :
    a.lastDelivery uri (before ++ m :: after) = some d := by
  have later := lastDelivery_of_unpublished ((ha.run before).step m) last
  unfold lastDelivery at later ⊢
  rw [deliveries_append, deliveries, hd, List.reverse_append, List.reverse_append,
    List.find?_append, List.find?_append, later]
  simp [hu]

/-- The delivery behind a publication of a cycle, and the passes behind the delivery. -/
theorem delivery_of_publication {a : Activity} (ha : a.Tidy) {m : Move} {t : Nat} {reply : Reply}
    {c : Cycle} (hm : m.act = .resume t reply) (hc : a.cycles.get? t = some c) {uri : String}
    {ds : List Diagnostic} (h : (uri, ds) ∈ publications (a.step m).2)
    {results : List PassResult} (accounted : a.Accounted t results) :
    ∃ d, a.delivery m = some d ∧ d.uri = uri ∧
      Complete (results ++ (a.passResult? t m).toList) ∧
      d.violations = (results ++ (a.passResult? t m).toList).flatMap PassResult.violations := by
  rw [publications_step ha] at h
  cases hd : a.delivery m with
  | none => simp [hd] at h
  | some d =>
    obtain ⟨rfl, -⟩ : uri = d.uri ∧ ds = d.diagnostics := by simpa [hd] using h
    have own := hd
    rw [delivery_resume hm hc] at own
    obtain ⟨-, -, harvest⟩ := Session.delivery_eq_some own
    obtain ⟨complete, sum⟩ := Session.complete_of_harvest harvest
    rw [← accounted.kept c hc, ← passResult?_resume hm hc] at complete sum
    exact ⟨d, rfl, rfl, complete, sum⟩

/-- What is shown of a document is what was delivered last. -/
theorem Shown.delivered {a : Activity} (ha : a.Tidy) (accounted : ∀ t, a.Accounted t [])
    {ms : List Move} {uri : String} {vs : List Violation} (h : a.Shown ms uri vs) :
    (a.lastDelivery uri ms).elim [] Delivery.violations = vs := by
  cases h with
  | never silent => simp [lastDelivery_of_unpublished ha silent]
  | @closed before after m whole act last =>
    have hd : (a.run before).delivery m = some (.closing uri) := by simp [delivery, act]
    have hu : (Delivery.closing uri).uri = uri := rfl
    rw [whole, lastDelivery_split ha hd hu last]
    rfl
  | @cycle before after m t reply c ds whole act cycle published last complete =>
    have before_m := (accounted t).run ha before
    obtain ⟨d, hd, hu, -, sum⟩ :=
      delivery_of_publication (ha.run before) act cycle published before_m
    rw [whole, lastDelivery_split ha hd hu last, Option.elim_some, sum, found_append]
    simp [found]

/-- A move that publishes nothing for a document leaves what is shown of it. -/
theorem Shown.extend {a : Activity} {ms : List Move} {uri : String} {vs : List Violation}
    (h : a.Shown ms uri vs) {m : Move}
    (silent : ∀ ds, (uri, ds) ∉ publications ((a.run ms).step m).2) :
    a.Shown (ms ++ [m]) uri vs := by
  have now : (a.run ms).Unpublished uri [m] := by
    intro p hp hu
    subst hu
    exact silent p.2 (by simpa using hp)
  cases h with
  | never before => exact .never (before.append now)
  | @closed before after m' whole act last =>
    subst whole
    rw [run_append] at now
    exact .closed (List.append_assoc before (m' :: after) [m]) act (last.append now)
  | @cycle before after m' t reply c ds whole act cycle published last complete =>
    subst whole
    rw [run_append] at now
    exact .cycle (List.append_assoc before (m' :: after) [m]) act cycle published
      (last.append now) complete

/-- Something definite is shown of each document after each run. -/
theorem exists_shown {a : Activity} (ha : a.Tidy) (accounted : ∀ t, a.Accounted t [])
    (ms : List Move) (uri : String) : ∃ vs, a.Shown ms uri vs := by
  induction ms using List.reverseRecOn with
  | nil => exact ⟨[], .never (by simp [Unpublished])⟩
  | append_singleton ms m ih =>
    have nothing : (((a.run ms).step m).1).Unpublished uri [] := by simp [Unpublished]
    by_cases now : ∃ ds, (uri, ds) ∈ publications ((a.run ms).step m).2
    · obtain ⟨ds, published⟩ := now
      have tidy := ha.run ms
      obtain ⟨act, -⟩ | ⟨t, reply, c, act, cycle, -⟩ := publisher_of_publication tidy published
      · exact ⟨[], .closed rfl act nothing⟩
      · have before := (accounted t).run ha ms
        obtain ⟨-, -, -, complete, -⟩ :=
          delivery_of_publication tidy act cycle published before
        have whole : a.found (ms ++ [m]) t =
            [] ++ a.found ms t ++ ((a.run ms).passResult? t m).toList := by
          simp [found_append, found]
        rw [← whole] at complete
        exact ⟨_, .cycle rfl act cycle published nothing complete⟩
    · obtain ⟨vs, shown⟩ := ih
      exact ⟨vs, shown.extend (by simpa using now)⟩

theorem stored_run {a : Activity} (ha : a.Tidy) {ms : List Move}
    (hs : ∀ m ∈ ms, m.act ≠ .shutdown) (uri : String) (empty : a.session.registry = .empty) :
    (a.run ms).session.registry.stored uri =
      (a.lastDelivery uri ms).elim [] Delivery.actions := by
  have entry := entry_run ha hs uri
  rw [empty] at entry
  rw [Registry.stored, entry]
  cases a.lastDelivery uri ms with
  | none => rfl
  | some d => by_cases h : d.actions = [] <;> simp [Delivery.stored?, h]

/-- Choosing stored quick fixes by their anchors is choosing violations by their places. -/
theorem repairs_of_offers {uri : String} {vs : List Violation} {stored : List StoredAction}
    (h : List.Forall₂ (Violation.Offers uri) (vs.filter fun v => v.suggestedFix.isSome) stored)
    {q : Interval} (hq : q.Ordered) :
    List.Forall₂ (fun v a => Violation.Repairs v uri a)
      (vs.filter fun v => v.suggestedFix.isSome ∧ v.range.toInterval.Meets q)
      ((stored.filter fun a => a.anchor.intersects q).map StoredAction.action) := by
  have chosen : List.Forall₂ (Violation.Offers uri)
      ((vs.filter fun v => v.suggestedFix.isSome).filter fun v => v.range.toInterval.Meets q)
      (stored.filter fun a => a.anchor.intersects q) := by
    refine List.rel_filter ?_ h
    intro v a offers
    simp only [offers.anchored, decide_eq_true_eq, Interval.meets_iff]
    exact ⟨fun meets => meets.2.2, fun meets => ⟨v.range.ordered, hq, meets⟩⟩
  rw [List.filter_filter] at chosen
  rw [List.forall₂_map_right_iff]
  have repairs := chosen.imp fun v a offers => offers.repairs
  simpa [Bool.and_comm] using repairs

/-- In every run without a shutdown, a query for a stretch that does not run backwards gives
the quick fixes of just those violations shown of the document that suggest a fix and share
a position with the stretch, in the order of the violations and as often as they are there.
For a cursor these are the violations that cover it. -/
theorem offers_exactly (config : Config.LintConfig) (roots : List FilePath) (persists : Bool)
    (home : FilePath) (packaged : String) {ms : List Move} (hs : ∀ m ∈ ms, m.act ≠ .shutdown)
    (uri : String) :
    let a := opened config roots persists home packaged
    let query := (a.run ms).session.codeActions uri
    (∃ vs, a.Shown ms uri vs) ∧ ∀ vs, a.Shown ms uri vs →
      (∀ q : EditorRange, q.Ordered → List.Forall₂ (fun v fix => Violation.Repairs v uri fix)
        (vs.filter fun v => v.suggestedFix.isSome ∧ v.range.toInterval.Meets q.toInterval)
        (query q)) ∧
      ∀ (p : Position) (fits : p.Fits),
        List.Forall₂ (fun v fix => Violation.Repairs v uri fix)
          (vs.filter fun v => v.suggestedFix.isSome ∧ v.range.toInterval.Covers p)
          (query ⟨⟨p, p⟩, fits, fits⟩) := by
  intro a query
  have tidy : a.Tidy := tidy_opened config roots persists home packaged
  have accounted := accounted_opened config roots persists home packaged
  refine ⟨exists_shown tidy accounted ms uri, ?_⟩
  intro vs shown
  have stored := stored_run tidy hs uri rfl
  have offers : List.Forall₂ (Violation.Offers uri) (vs.filter fun v => v.suggestedFix.isSome)
      ((a.run ms).session.registry.stored uri) := by
    rw [stored, ← shown.delivered tidy accounted]
    cases hd : a.lastDelivery uri ms with
    | none => exact .nil
    | some d =>
      have hu : d.uri = uri := by simpa using List.find?_some hd
      subst hu
      exact Violation.forall₂_offers_actions d.translated
  have queried : ∀ q : EditorRange, q.Ordered →
      List.Forall₂ (fun v fix => Violation.Repairs v uri fix)
        (vs.filter fun v => v.suggestedFix.isSome ∧ v.range.toInterval.Meets q.toInterval)
        (query q) := by
    intro q hq
    exact repairs_of_offers offers hq
  refine ⟨queried, ?_⟩
  intro p fits
  have cursor := queried ⟨⟨p, p⟩, fits, fits⟩ (Position.le_refl p)
  simpa only [Interval.meets_cursor] using cursor

/-- A position, with coordinates of one digit each, as the linter prints it. -/
def printedPosition (line character : Char) : List Char :=
  "\x7b\"line\":".toList ++ [line] ++ ",\"character\":".toList ++ [character, '\x7d']

def printedRange (start stop : List Char) : List Char :=
  "\x7b\"start\":".toList ++ start ++ ",\"end\":".toList ++ stop ++ ['\x7d']

/-- A batch of one violation, on characters 2 to 4 of line 1, whose fix edits line 3. -/
def fixableText : List Char :=
  "[\x7b\"range\":".toList ++ printedRange (printedPosition '1' '2') (printedPosition '1' '4') ++
    ",\"severity\":2,\"code\":\"c\"".toList ++ ",\"source\":\"l\",\"message\":\"m\"".toList ++
    ",\"suggestedfix\":\x7b\"fix\":\"f\",\"range\":".toList ++
    printedRange (printedPosition '3' '0') (printedPosition '3' '0') ++ "\x7d\x7d]".toList

def fixableBatch : List UInt8 := fixableText.map fun c => UInt8.ofNat c.toNat

def fixable : Violation :=
  ⟨⟨⟨⟨1, 2⟩, ⟨1, 4⟩⟩, by decide⟩, .warning, "c", "l", "m", none, none,
    some ⟨"f", ⟨⟨⟨3, 0⟩, ⟨3, 0⟩⟩, by decide⟩⟩⟩

/-- The violations in a text, if it is a batch. -/
def batchOf? (text : List Char) : Option (List Violation) :=
  match Json.document text with
  | .ok (.list vs) => (Batch.records 0 vs).toOption
  | _ => none

theorem parse_of_batchOf? {octets : List UInt8} {text : List Char} {found : List Violation}
    (characters : Text.Utf8.lenientFuel (octets.length + 1) octets [] = text)
    (batch : batchOf? text = some found) :
    Batch.parse (Text.Utf8.decodeLenient octets) = .ok found := by
  unfold Batch.parse Json.decode Text.Utf8.decodeLenient
  rw [characters, String.toList_ofList]
  unfold batchOf? at batch
  split at batch
  next vs hd =>
    cases hr : Batch.records 0 vs with
    | error f => simp [hr, Except.toOption] at batch
    | ok found' =>
      simp only [hr, Except.toOption, Option.some.injEq] at batch
      simp [hd, Except.mapError, hr, batch]
  next => cases batch

theorem parse_fixableBatch :
    Batch.parse (Text.Utf8.decodeLenient fixableBatch) = .ok [fixable] :=
  have characters : Text.Utf8.lenientFuel (fixableBatch.length + 1) fixableBatch [] =
      fixableText := by
    decide +kernel
  have batch : batchOf? fixableText = some [fixable] := by
    decide +kernel
  parse_of_batchOf? characters batch

/-- A single cycle, whose process prints a batch. -/
theorem shown_single {octets : List UInt8} {vs : List Violation}
    (parsed : Batch.parse (Text.Utf8.decodeLenient octets) = .ok vs) (fits : ∀ v ∈ vs, v.Fits) :
    (configured "lute" "").Shown [.plain (.lint "u" "x" none),
      .plain (.resume 0 (.ended (.exited (some 0) octets [])))] "u" vs := by
  have tidy : (configured "lute" "").Tidy := tidy_opened _ _ _ _ _
  let a := (configured "lute" "").run [.plain (.lint "u" "x" none)]
  let reply : Reply := .ended (.exited (some 0) octets [])
  let m := Move.plain (.resume 0 reply)
  let c : Cycle := ⟨"u", "x", 1, .basePass ⟨"lute", none, none⟩⟩
  have cycle : a.cycles.get? 0 = some c := by cbv
  have current : a.session.isCurrent "u" 1 = true := by cbv
  have rules : a.session.rulesPath "u" = .ok none := by cbv
  have result : ((Session.invocation ⟨"lute", none, none⟩ none).conclude
      (.exited (some 0) octets [])).result = .ok vs := by
    simp [Invocation.conclude, Session.invocation, Invocation.hasNoTime, Invocation.exited, parsed]
  have passed : a.passResult? 0 m = some ⟨none, vs⟩ := by
    rw [passResult?_resume rfl cycle]
    simp [Cycle.passResult?, c, reply, result, Except.toOption]
  have found : (configured "lute" "").found ([.plain (.lint "u" "x" none)] ++ [m]) 0 =
      [⟨none, vs⟩] := by
    have first : (configured "lute" "").found [.plain (.lint "u" "x" none)] 0 = [] := rfl
    rw [found_append, first]
    simp only [found, List.nil_append, List.append_nil]
    exact congrArg Option.toList passed
  obtain ⟨findings, translated⟩ := (@Violation.findings_isOk_iff "u" vs).mpr fits
  have delivered : a.delivery m = some ⟨"u", vs, findings, translated⟩ := by
    have harvest : a.session.harvest c reply = some vs := by
      simp [Session.harvest, c, reply, result, rules]
    rw [delivery_resume rfl cycle, Session.delivery, if_pos current, harvest]
    exact Delivery.of?_ok translated
  have published : ("u", Finding.diagnostics findings) ∈ publications (a.step m).2 := by
    rw [publications_step (tidy.run _), delivered]
    simp [Delivery.diagnostics]
  have complete :
      Complete ((configured "lute" "").found ([.plain (.lint "u" "x" none)] ++ [m]) 0) := by
    rw [found]
    exact .base vs
  have nothing : (a.step m).1.Unpublished "u" [] := by simp [Unpublished]
  have shown : (configured "lute" "").Shown ([.plain (.lint "u" "x" none)] ++ m :: []) "u" _ :=
    .cycle rfl rfl cycle published nothing complete
  rw [found] at shown
  simpa using shown

/-- A fix that edits another line is found at the end of its violation's range and not where
it edits. -/
theorem offers_fix_elsewhere :
    let ms := [.plain (.lint "u" "x" none),
      .plain (.resume 0 (.ended (.exited (some 0) fixableBatch [])))]
    let cursor (p : Position) (fits : p.Fits) : EditorRange := ⟨⟨p, p⟩, fits, fits⟩
    let query := ((configured "lute" "").run ms).session.codeActions "u"
    (∀ m ∈ ms, m.act ≠ .shutdown) ∧ (configured "lute" "").Shown ms "u" [fixable] ∧
      (∃ fix, query (cursor ⟨1, 4⟩ (by decide)) = [fix] ∧ fixable.Repairs "u" fix) ∧
      query (cursor ⟨3, 0⟩ (by decide)) = [] := by
  intro ms cursor query
  have hs : ∀ m ∈ ms, m.act ≠ .shutdown := by simp [ms, Move.plain]
  have fits : ∀ v ∈ [fixable], v.Fits := by
    simp [fixable, Violation.Fits, Interval.Fits, Position.Fits, maxCoordinate]
  have shown := shown_single parse_fixableBatch fits
  obtain ⟨-, exactly⟩ :=
    offers_exactly ⟨"lute", "", none, none, ["luau"], none⟩ [] false ⟨1, []⟩ "lute" hs "u"
  obtain ⟨-, atCursor⟩ := exactly [fixable] shown
  have inside : [fixable].filter
      (fun v => v.suggestedFix.isSome ∧ v.range.toInterval.Covers ⟨1, 4⟩) = [fixable] := by decide
  have outside : [fixable].filter
      (fun v => v.suggestedFix.isSome ∧ v.range.toInterval.Covers ⟨3, 0⟩) = [] := by decide
  have offered := atCursor ⟨1, 4⟩ (by decide)
  have none := atCursor ⟨3, 0⟩ (by decide)
  rw [inside] at offered
  rw [outside] at none
  obtain ⟨fix, rest, repairs, tail, whole⟩ := List.forall₂_cons_left_iff.mp offered
  rw [List.forall₂_nil_left_iff] at tail none
  rw [tail] at whole
  exact ⟨hs, shown, ⟨fix, whole, repairs⟩, none⟩

end Activity
end LintBridge
