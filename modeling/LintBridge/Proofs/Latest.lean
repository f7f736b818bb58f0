import Mathlib
import LintBridge.Proofs.Triggers
/-!
The latest trigger wins. As long as a session is not shut down, every suspended cycle has a
counter of its own that its document has reached (`Numbered`). A trigger outdates all cycles
that were begun before it (`outdated`), so a cycle hands its findings over only if nothing
triggered its document after it, and the counters of the cycles that do so grow.
-/
namespace LintBridge

open Effect (publications commands Quiet)

namespace Activity

/-- Every suspended cycle has a counter that its document has reached, and shares it with no
other cycle of the document. -/
structure Numbered (a : Activity) : Prop where
  reached : ∀ t c, a.cycles.get? t = some c → c.generation ≤ a.session.generation c.uri
  distinct : ∀ t t' c c', a.cycles.get? t = some c → a.cycles.get? t' = some c' →
    c.uri = c'.uri → c.generation = c'.generation → t = t'

theorem numbered_opened (config : Config.LintConfig) (roots : List FilePath) (persists : Bool)
    (home : FilePath) (packaged : String) :
    (opened config roots persists home packaged).Numbered := by
  constructor
  · intro t c h
    cases h
  · intro t t' c c' h
    cases h

/-- Without a shutdown no counter goes back. -/
theorem generation_le_step {a : Activity} (ha : a.Tidy) {m : Move} (hs : m.act ≠ .shutdown)
    (uri : String) : a.session.generation uri ≤ (a.step m).1.session.generation uri := by
  rw [generation_step ha]
  exact le_count a hs uri _

/-- A suspended cycle was suspended before the move with the same counter, or it was begun
with it and has the new counter of its document. -/
theorem numbered_cases {a : Activity} (ha : a.Tidy) {m : Move} {t : Nat} {c : Cycle}
    (hc : (a.step m).1.cycles.get? t = some c) :
    (∃ c₀, a.cycles.get? t = some c₀ ∧ c.uri = c₀.uri ∧ c.generation = c₀.generation) ∨
      t = a.begun ∧ c.generation = a.session.generation c.uri + 1 ∧
        (a.step m).1.session.generation c.uri = a.session.generation c.uri + 1 := by
  by_cases ht : a.ticket? m = some t
  · obtain ⟨-, ⟨uri, source, language, hm, rfl, lintable, rfl, -, hg⟩ |
      ⟨reply, c₀, -, h₀, hu, -, hg⟩⟩ := paused_of_ticket ha ht hc
    · refine .inr ⟨rfl, hg, ?_⟩
      rw [generation_step ha, count_of_ne_shutdown a (by simp [hm])]
      simp [triggers, hm, lintable]
    · exact .inl ⟨c₀, h₀, hu, hg⟩
  · rw [get?_step_of_ne ht] at hc
    exact .inl ⟨c, hc, rfl, rfl⟩

theorem Numbered.step {a : Activity} (ha : a.Tidy) (hn : a.Numbered) {m : Move}
    (hs : m.act ≠ .shutdown) : (a.step m).1.Numbered := by
  constructor
  · intro t c hc
    obtain ⟨c₀, h₀, hu, hg⟩ | ⟨-, hg, hnew⟩ := numbered_cases ha hc
    · rw [hu, hg]
      exact Nat.le_trans (hn.reached t c₀ h₀) (generation_le_step ha hs c₀.uri)
    · omega
  · intro t t' c c' hc hc' hu hg
    obtain ⟨c₀, h₀, hu₀, hg₀⟩ | ⟨rfl, hg₀, -⟩ := numbered_cases ha hc
    · obtain ⟨c₁, h₁, hu₁, hg₁⟩ | ⟨rfl, hg₁, -⟩ := numbered_cases ha hc'
      · exact hn.distinct t t' c₀ c₁ h₀ h₁ (by rw [← hu₀, hu, hu₁]) (by rw [← hg₀, hg, hg₁])
      · have old := hn.reached t c₀ h₀
        rw [← hu₀, ← hg₀, hu] at old
        omega
    · obtain ⟨c₁, h₁, hu₁, hg₁⟩ | ⟨rfl, -, -⟩ := numbered_cases ha hc'
      · have old := hn.reached t' c₁ h₁
        rw [← hu₁, ← hg₁, ← hu] at old
        omega
      · rfl

theorem Numbered.run {a : Activity} (ha : a.Tidy) (hn : a.Numbered) {ms : List Move}
    (hs : ∀ m ∈ ms, m.act ≠ .shutdown) : (a.run ms).Numbered :=
  ha.run_keeps_of (fun ha hn _ halts => hn.step ha halts) hn hs

/-- A trigger leaves every cycle of its document that was begun before it behind, for good. -/
theorem outdated {a : Activity} (ha : a.Tidy) (hn : a.Numbered) {m : Move} {uri : String}
    (trigger : a.triggers m uri = true) {ms : List Move} (hs : ∀ m' ∈ m :: ms, m'.act ≠ .shutdown)
    {t : Nat} (ht : t < a.begun) {c : Cycle} (hc : (a.run (m :: ms)).cycles.get? t = some c)
    (hu : c.uri = uri) : c.generation < (a.run (m :: ms)).session.generation uri := by
  have shut : m.act ≠ .shutdown := hs m (by simp)
  obtain ⟨c₀, h₀, hu₀, -, hg₀⟩ := origin_run ha ht hc
  have old := hn.reached t c₀ h₀
  have triggered : (a.step m).1.session.generation uri = a.session.generation uri + 1 := by
    rw [generation_step ha, count_of_ne_shutdown a shut, if_pos trigger]
  have later : (a.step m).1.session.generation uri ≤ (a.run (m :: ms)).session.generation uri := by
    rw [run_cons, generation_run (ha.step m)]
    exact le_tally uri _ _ (fun m' h => hs m' (by simp [h]))
  rw [← hu₀, ← hg₀, hu] at old
  omega

/-- The counter of the cycle that hands its findings over for a document with a move. -/
def publisher? (a : Activity) (uri : String) (m : Move) : Option Nat :=
  match m.act with
  | .resume ticket _ => (a.cycles.get? ticket).bind fun c =>
    ((publications (a.step m).2).find? fun p => p.1 = uri).map fun _ => c.generation
  | _ => none

/-- The counters of the cycles that hand their findings over for a document, in the order in
which they do so. -/
def publishers (uri : String) : Activity → List Move → List Nat
  | _, [] => []
  | a, m :: ms => (a.publisher? uri m).toList ++ publishers uri (a.step m).1 ms

/-- A publishing cycle is current, and gone afterwards. -/
theorem publisher?_eq_some {a : Activity} (ha : a.Tidy) {uri : String} {m : Move} {g : Nat}
    (h : a.publisher? uri m = some g) :
    ∃ t reply c, m.act = .resume t reply ∧ a.cycles.get? t = some c ∧ c.uri = uri ∧
      c.generation = g ∧ a.session.generation uri = g ∧ (a.step m).1.cycles.get? t = none := by
  cases hm : m.act with
  | resume t reply =>
    simp only [publisher?, hm] at h
    obtain ⟨c, hc, hp⟩ := Option.bind_eq_some_iff.mp h
    obtain ⟨p, published, rfl⟩ := Option.map_eq_some_iff.mp hp
    rw [publications_step ha] at published
    cases hd : a.delivery m with
    | none => simp [hd] at published
    | some d =>
      have about : d.uri = uri := by
        have found := List.find?_some published
        simp only [hd, Option.toList_some, List.map_cons, List.map_nil] at published
        obtain rfl := List.mem_singleton.mp (List.mem_of_find?_eq_some published)
        simpa using found
      rw [delivery_resume hm hc] at hd
      obtain ⟨newest, hu, -⟩ := Session.delivery_eq_some hd
      have own : c.uri = uri := hu.symm.trans about
      have current := (a.session.isCurrent_iff c.uri (ha.positive t c hc)).mp newest
      obtain ⟨result, ended, -⟩ := (ha.resumed hc m.files m.canPublish reply).ended_of_delivery hd
      refine ⟨t, reply, c, rfl, hc, own, rfl, by rw [← own]; exact current, ?_⟩
      rw [step_resume hm hc, get?_settle, if_pos rfl, ended]
  | lint other source language => simp [publisher?, hm] at h
  | close other => simp [publisher?, hm] at h
  | reconfigure config roots => simp [publisher?, hm] at h
  | query other range => simp [publisher?, hm] at h
  | shutdown => simp [publisher?, hm] at h

/-- A document has reached a counter, and no cycle of it can come back to it. -/
def Passed (a : Activity) (uri : String) (g : Nat) : Prop :=
  g ≤ a.session.generation uri ∧
    ∀ t c, a.cycles.get? t = some c → c.uri = uri → c.generation ≠ g

theorem Passed.step {a : Activity} (ha : a.Tidy) {uri : String} {g : Nat} (h : a.Passed uri g)
    {m : Move} (hs : m.act ≠ .shutdown) : (a.step m).1.Passed uri g := by
  refine ⟨Nat.le_trans h.1 (generation_le_step ha hs uri), ?_⟩
  intro t c hc hu
  obtain ⟨c₀, h₀, hu₀, hg₀⟩ | ⟨-, hg, -⟩ := numbered_cases ha hc
  · rw [hg₀]
    exact h.2 t c₀ h₀ (hu₀.symm.trans hu)
  · have reached := h.1
    rw [hu] at hg
    omega

/-- The counter of a publishing cycle is passed by its last step. -/
theorem passed_of_publisher {a : Activity} (ha : a.Tidy) (hn : a.Numbered) {uri : String}
    {m : Move} {g : Nat} (h : a.publisher? uri m = some g) : (a.step m).1.Passed uri g := by
  obtain ⟨t, reply, c, hm, hc, rfl, rfl, hg, gone⟩ := publisher?_eq_some ha h
  have shut : m.act ≠ .shutdown := by simp [hm]
  refine ⟨by rw [← hg]; exact generation_le_step ha shut c.uri, ?_⟩
  intro t' c' hc' hu' hg'
  by_cases ht : t = t'
  · subst ht
    rw [gone] at hc'
    cases hc'
  · have other : a.ticket? m ≠ some t' := by simpa [ticket?, hm] using ht
    rw [get?_step_of_ne other] at hc'
    exact ht (hn.distinct t t' c c' hc hc' hu'.symm hg'.symm)

/-- After a counter is passed, only cycles with greater ones publish. -/
theorem lt_of_mem_publishers {a : Activity} (ha : a.Tidy) {uri : String} {g : Nat}
    (h : a.Passed uri g) {ms : List Move} (hs : ∀ m ∈ ms, m.act ≠ .shutdown) :
    ∀ g' ∈ publishers uri a ms, g < g' := by
  induction ms generalizing a with
  | nil =>
    intro g' hg'
    cases hg'
  | cons m ms ih =>
    intro g' hg'
    obtain now | later := List.mem_append.mp hg'
    · obtain ⟨t, reply, c, -, hc, hu, rfl, current, -⟩ :=
        publisher?_eq_some ha (Option.mem_toList.mp now)
      have reached := h.1
      have unlike := h.2 t c hc hu
      omega
    · have quiet : ∀ m' ∈ ms, m'.act ≠ .shutdown := fun m' hm' => hs m' (by simp [hm'])
      exact ih (ha.step m) (h.step ha (hs m (by simp))) quiet g' later

/-- The counters of the publishing cycles of a document grow. -/
theorem publishers_increasing {a : Activity} (ha : a.Tidy) (hn : a.Numbered) (uri : String)
    {ms : List Move} (hs : ∀ m ∈ ms, m.act ≠ .shutdown) :
    (publishers uri a ms).Pairwise (· < ·) := by
  induction ms generalizing a with
  | nil => exact .nil
  | cons m ms ih =>
    have shut := hs m (by simp)
    have hs' : ∀ m' ∈ ms, m'.act ≠ .shutdown := fun m' h => hs m' (by simp [h])
    have rest := ih (ha.step m) (hn.step ha shut) hs'
    rw [publishers]
    cases hp : a.publisher? uri m with
    | none => exact rest
    | some g =>
      exact List.pairwise_cons.mpr
        ⟨lt_of_mem_publishers (ha.step m) (passed_of_publisher ha hn hp) hs', rest⟩

/-- Every publication for a document is that of a closing, or of a current cycle. -/
theorem publisher_of_publication {a : Activity} (ha : a.Tidy) {m : Move} {uri : String}
    {ds : List Diagnostic} (h : (uri, ds) ∈ publications (a.step m).2) :
    m.act = .close uri ∧ ds = [] ∨ ∃ t reply c, m.act = .resume t reply ∧
      a.cycles.get? t = some c ∧ c.uri = uri ∧ a.session.generation uri = c.generation := by
  rw [publications_step ha] at h
  cases hd : a.delivery m with
  | none => simp [hd] at h
  | some d =>
    obtain ⟨rfl, rfl⟩ : uri = d.uri ∧ ds = d.diagnostics := by simpa [hd] using h
    cases hm : m.act with
    | close other =>
      simp only [delivery, hm, Option.some.injEq] at hd
      subst hd
      exact .inl ⟨rfl, rfl⟩
    | resume t reply =>
      simp only [delivery, hm] at hd
      obtain ⟨c, hc, hd⟩ := Option.bind_eq_some_iff.mp hd
      obtain ⟨newest, hu, -⟩ := Session.delivery_eq_some hd
      have current := (a.session.isCurrent_iff c.uri (ha.positive t c hc)).mp newest
      exact .inr ⟨t, reply, c, rfl, hc, hu.symm, by rw [hu]; exact current⟩
    | lint other source language => simp [delivery, hm] at hd
    | reconfigure config roots => simp [delivery, hm] at hd
    | query other range => simp [delivery, hm] at hd
    | shutdown => simp [delivery, hm] at hd

/-- A document stands at the counter of a cycle exactly if nothing triggered it since. -/
theorem stands_iff_untouched {a : Activity} (ha : a.Tidy) (first : Move) (uri : String)
    {ms : List Move} (hs : ∀ m ∈ ms, m.act ≠ .shutdown) :
    (a.run (first :: ms)).session.generation uri = (a.step first).1.session.generation uri ↔
      Untouched uri (a.step first).1 ms := by
  rw [run_cons, generation_run (ha.step first)]
  exact tally_eq_iff uri (a.step first).1 _ hs

/-- The last step of a cycle hands its findings over exactly if nothing triggered its
document after its first move, and is silent otherwise. -/
theorem hands_iff_untouched {a : Activity} (ha : a.Tidy) {first last : Move}
    {uri source : String} {language : Option String} (hm : first.act = .lint uri source language)
    {between : List Move} (hs : ∀ m ∈ between, m.act ≠ .shutdown) {fs : List Finding}
    (hc : (a.run (first :: between)).Completes last a.begun fs) :
    ((a.run (first :: between)).Hands last uri fs ↔ Untouched uri (a.step first).1 between) ∧
      (¬ Untouched uri (a.step first).1 between → (a.run (first :: between)).Silent last) := by
  obtain ⟨hands, silent⟩ := last_step ha hm hc
  have stands := stands_iff_untouched ha first uri hs
  refine ⟨⟨?_, fun h => hands (stands.mpr h)⟩, fun h => silent (fun he => h (stands.mp he))⟩
  intro handed
  by_cases h : Untouched uri (a.step first).1 between
  · exact h
  · have quiet := silent (fun he => h (stands.mp he))
    exact absurd quiet handed.not_silent

/-- Without a closing and without the last step of a cycle nothing is published or written. -/
theorem silent_of_no_completion {a : Activity} (ha : a.Tidy) {m : Move} (hs : m.act ≠ .shutdown)
    (hclose : ∀ uri, m.act ≠ .close uri) (h : ∀ t fs, ¬ a.Completes m t fs) : a.Silent m := by
  cases hm : m.act with
  | resume t reply => exact silent_of_incomplete ha hm (h t)
  | close uri => exact absurd hm (hclose uri)
  | shutdown => exact absurd hm hs
  | lint uri source language => exact silent_of_no_delivery ha hs (by simp [delivery, hm])
  | reconfigure config roots => exact silent_of_no_delivery ha hs (by simp [delivery, hm])
  | query uri range => exact silent_of_no_delivery ha hs (by simp [delivery, hm])

/-- What is published for a document after a closing comes from a cycle that was begun later,
or from a further closing. -/
theorem newer_after_closing {a : Activity} (ha : a.Tidy) (hn : a.Numbered) {closing m : Move}
    {uri : String} (hm : closing.act = .close uri) {between : List Move}
    (hs : ∀ m' ∈ between, m'.act ≠ .shutdown) {ds : List Diagnostic}
    (h : (uri, ds) ∈ publications ((a.run (closing :: between)).step m).2) :
    m.act = .close uri ∧ ds = [] ∨ ∃ t reply, m.act = .resume t reply ∧ a.begun ≤ t := by
  obtain hclose | ⟨t, reply, c, hr, hc, hu, current⟩ :=
    publisher_of_publication (ha.run (closing :: between)) h
  · exact .inl hclose
  · refine .inr ⟨t, reply, hr, ?_⟩
    have trigger : a.triggers closing uri = true := by simp [triggers, hm]
    have quiet : ∀ m' ∈ closing :: between, m'.act ≠ .shutdown := by
      intro m' hm'
      obtain rfl | later := List.mem_cons.mp hm'
      · simp [hm]
      · exact hs m' later
    by_cases ht : t < a.begun
    · have behind := outdated ha hn trigger quiet ht hc hu
      omega
    · exact Nat.le_of_not_lt ht

/-- The latest trigger of a document wins. -/
structure LatestWins (start : Activity) (ms : List Move) : Prop where
  /-- A cycle that comes to its last step hands its findings over exactly if nothing has
  triggered its document after its first move; otherwise it changes nothing. -/
  decided : ∀ before between after first last uri source language fs,
    ms = before ++ first :: (between ++ last :: after) →
    first.act = .lint uri source language →
    (start.run (before ++ first :: between)).Completes last (start.run before).begun fs →
    ((start.run (before ++ first :: between)).Hands last uri fs ↔
        Untouched uri (start.run (before ++ [first])) between) ∧
      (¬ Untouched uri (start.run (before ++ [first])) between →
        (start.run (before ++ first :: between)).Silent last)
  /-- No other step of a cycle publishes or writes anything. -/
  otherwise : ∀ before after m, ms = before ++ m :: after →
    (∀ uri, m.act ≠ .close uri) → (∀ t fs, ¬ (start.run before).Completes m t fs) →
    (start.run before).Silent m
  increasing : ∀ uri, (publishers uri start ms).Pairwise (· < ·)
  /-- After a closing only cycles that were begun after it publish for the document, and
  further closings, which publish an empty list. -/
  closed : ∀ before between after closing m uri ds,
    ms = before ++ closing :: (between ++ m :: after) → closing.act = .close uri →
    (uri, ds) ∈ publications ((start.run (before ++ closing :: between)).step m).2 →
    m.act = .close uri ∧ ds = [] ∨
      ∃ t reply, m.act = .resume t reply ∧ (start.run before).begun ≤ t

/-- In every run without a shutdown the latest trigger of each document wins. -/
theorem latest_trigger_wins (config : Config.LintConfig) (roots : List FilePath)
    (persists : Bool) (home : FilePath) (packaged : String) {ms : List Move}
    (hs : ∀ m ∈ ms, m.act ≠ .shutdown) :
    (opened config roots persists home packaged).LatestWins ms := by
  have tidy := tidy_opened config roots persists home packaged
  have numbered := numbered_opened config roots persists home packaged
  refine ⟨?_, ?_, fun uri => publishers_increasing tidy numbered uri hs, ?_⟩
  · intro before between after first last uri source language fs hms hm hc
    have quiet : ∀ m ∈ between, m.act ≠ .shutdown := fun m h => hs m (by simp [hms, h])
    rw [run_append] at hc ⊢
    rw [run_append]
    exact hands_iff_untouched (tidy.run before) hm quiet hc
  · intro before after m hms hclose incomplete
    exact silent_of_no_completion (tidy.run before) (hs m (by simp [hms])) hclose incomplete
  · intro before between after closing m uri ds hms hm published
    have earlier : ∀ m ∈ before, m.act ≠ .shutdown := fun m h => hs m (by simp [hms, h])
    have quiet : ∀ m ∈ between, m.act ≠ .shutdown := fun m h => hs m (by simp [hms, h])
    rw [run_append] at published
    exact newer_after_closing (tidy.run before) (numbered.run tidy earlier) hm quiet published

/-- Of two cycles at once the later one publishes, and so does one after a closing. -/
theorem latest_of_three_wins :
    let first := Move.plain (.lint "u" "x" none)
    let ms := [first, first, .answer 0, .answer 1, .plain (.close "u"), first, .answer 2]
    (∀ m ∈ ms, m.act ≠ .shutdown) ∧ (configured "lute" "").LatestWins ms ∧
      publishers "u" (configured "lute" "") ms = [2, 4] ∧
      ((configured "lute" "").run [first, first]).Completes (.answer 0) 0 [] := by
  intro first ms
  have hs : ∀ m ∈ ms, m.act ≠ .shutdown := by simp [ms, first, Move.plain, Move.answer]
  refine ⟨hs, latest_trigger_wins _ _ _ _ _ hs, by cbv, ?_⟩
  refine ⟨.ended (.exited (some 0) [91, 93] []), ⟨"u", "x", 1, .basePass ⟨"lute", none, none⟩⟩,
    [], rfl, ?_, ?_, rfl⟩
  · cbv
  · cbv

/-- A second closing publishes although no cycle was ever begun. And a cycle whose document
has an address that cannot be read publishes nothing although it has a linter, its first pass
gave a result that translates, and nothing was begun after it: with a rule file configured it
fails between its passes. -/
theorem latest_wins_exceptions :
    let closing := Move.plain (.close "u")
    let a := (configured "lute" "r.luau").run [.plain (.lint "file://[x" "x" none)]
    let plan : PassPlan := ⟨"lute", none, none⟩
    (publications ((configured "lute" "").effects [closing, closing]) = [("u", []), ("u", [])] ∧
      ((configured "lute" "").run [closing, closing]).begun = 0) ∧
    a.cycles.get? 0 = some ⟨"file://[x", "x", 1, .basePass plan⟩ ∧
      ((Session.invocation plan none).conclude (.exited (some 0) [91, 93] [])).result = .ok [] ∧
      Violation.findings "file://[x" [] = .ok [] ∧
      publications (a.step (.answer 0)).2 = [] ∧ (a.step (.answer 0)).1.cycles = [] := by
  refine ⟨⟨by cbv, by cbv⟩, by cbv, by cbv, rfl, by cbv, by cbv⟩

end Activity
end LintBridge
