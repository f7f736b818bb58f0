import Mathlib
import LintBridge.Proofs.Activity
/-!
The passes of a cycle and the configuration behind them. The linter, its directory and its
time limit are taken when the first pass is started, the rule file when that pass is over.
A configuration that comes in between is therefore followed in part
(`passes_determined_iff`).
-/
namespace LintBridge

open Effect (publications commands Quiet)

/-- A pass of the linter as it is started. -/
structure Pass where
  command : List String
  cwd : Option String
  limit : Option Seconds

namespace PassPlan

def pass (plan : PassPlan) (rules : Option String) (source : String) : Pass :=
  ⟨(Session.command plan rules source).1, (Session.command plan rules source).2, plan.limit⟩

/-- The pass without custom rules, and the one with them if there is a rule file. -/
def passes (plan : PassPlan) (rules : Option String) (source : String) : List Pass :=
  plan.pass none source :: (rules.map fun path => plan.pass (some path) source).toList

theorem pass_inj {plan plan' : PassPlan} {source : String}
    (h : plan.pass none source = plan'.pass none source) : plan = plan' := by
  obtain ⟨executable, cwd, limit⟩ := plan
  obtain ⟨executable', cwd', limit'⟩ := plan'
  have line := congrArg Pass.command h
  have he : executable = executable' := (List.cons.inj line).1
  have hc : cwd = cwd' := congrArg Pass.cwd h
  have hl : limit = limit' := congrArg Pass.limit h
  rw [he, hc, hl]

/-- Different plans or rule files give different passes. -/
theorem passes_inj {plan plan' : PassPlan} {rules rules' : Option String} {source : String} :
    plan.passes rules source = plan'.passes rules' source ↔ plan = plan' ∧ rules = rules' := by
  constructor
  · intro h
    obtain ⟨first, rest⟩ := List.cons.inj h
    have same := pass_inj first
    subst same
    refine ⟨rfl, ?_⟩
    cases rules with
    | none =>
      cases rules' with
      | none => rfl
      | some path' => cases rest
    | some path =>
      cases rules' with
      | none => cases rest
      | some path' =>
        have args : Command.ruleArgs (some path) = Command.ruleArgs (some path') := by
          simpa [pass, Session.command, Command.line] using rest
        unfold Command.ruleArgs at args
        by_cases hp : path = "" <;> by_cases hp' : path' = "" <;> simp_all
  · rintro ⟨rfl, rfl⟩
    rfl

end PassPlan

namespace Session

/-- The executable that a configuration stands for: the one it names, and a linter that was
found is named from then on, or else the one that comes with the program. -/
def executable (s : Session) : String :=
  if s.config.executablePath = "" then s.bundledPath else s.config.executablePath

/-- What the configuration determines for all passes. -/
def settings (s : Session) : PassPlan :=
  ⟨s.executable, s.config.manifestDirectory, s.config.timeout.map .real⟩

/-- The passes that the configuration and the folders determine for a document. -/
def passes (s : Session) (uri source : String) : Except Failure (List Pass) :=
  (s.rulesPath uri).map fun rules => s.settings.passes rules source

/-- A linter as the configuration has it. -/
inductive Known (s : Session) : Toolchain → Prop where
  | explicit (named : s.config.executablePath ≠ "") :
    Known s ⟨s.config.executablePath, none, .explicit⟩
  | foreman (directory : String) (named : s.config.executablePath ≠ "")
    (kept : s.config.manifestDirectory = some directory) :
    Known s ⟨s.config.executablePath, some directory, .foreman⟩
  | bundled : Known s ⟨s.bundledPath, none, .bundled⟩

/-- The linter of a session, if there is one, is as the configuration has it. -/
def Consistent (s : Session) : Prop := ∀ t, s.toolchain = some t → s.Known t

/-- A bundled linter has its place only when no other one is named. -/
def Proper (s : Session) (t : Toolchain) : Prop :=
  t.origin = .bundled → s.config.executablePath = "" ∨ s.config.executablePath = s.bundledPath

theorem Known.of_config {s s' : Session} {t : Toolchain} (h : s.Known t)
    (hc : s'.config = s.config) (hp : s'.packaged = s.packaged) : s'.Known t := by
  cases h with
  | explicit named =>
    rw [← hc] at named ⊢
    exact .explicit named
  | foreman directory named kept =>
    rw [← hc] at named kept ⊢
    exact .foreman directory named kept
  | bundled =>
    have hb : s.bundledPath = s'.bundledPath := by simp [bundledPath, hc, hp]
    rw [hb]
    exact .bundled

theorem Consistent.of_config {s s' : Session} (h : s.Consistent) (hc : s'.config = s.config)
    (hp : s'.packaged = s.packaged) (ht : s'.toolchain = s.toolchain) : s'.Consistent := by
  intro t hs
  rw [ht] at hs
  exact (h t hs).of_config hc hp

/-- A linter that is taken over is as the configuration has it then. -/
theorem Taken.known_linter {s s' : Session} {t : Toolchain} (h : Taken s t s')
    (hs : s.Consistent) : s'.Known t := by
  cases h with
  | known h => exact hs t h
  | explicit h => exact .explicit h
  | discovered executable directory h => exact .foreman directory h rfl
  | bundled => exact .bundled

theorem Taken.consistent {s s' : Session} {t : Toolchain} (h : Taken s t s')
    (hs : s.Consistent) : s'.Consistent := by
  intro t' ht'
  have own := h.known_linter hs
  rw [h.toolchain] at ht'
  cases ht'
  exact own

theorem Searched.consistent {s : Session} {uri source : String} {generation : Nat}
    {turn : Turn Standing} (h : Searched s uri source generation turn) (hs : s.Consistent) :
    turn.session.Consistent := by
  cases h with
  | searching quiet isOpen => exact hs
  | noLinter quiet => exact hs
  | refused e quiet => exact hs
  | base quiet taken => exact taken.consistent hs

theorem Resumed.consistent {s : Session} {fs : FileSystem} {canPublish : Bool} {c : Cycle}
    {r : Reply} {turn : Turn Standing} (h : Resumed s fs canPublish c r turn)
    (hs : s.Consistent) : turn.session.Consistent := by
  cases h with
  | idle none => exact hs
  | search none stage searched => exact searched.consistent hs
  | failed none quiet => exact hs
  | rules none quiet stage rules => exact hs
  | @last es vs n harvest quiet =>
    obtain ⟨r, hr⟩ := finish_session s fs canPublish c vs n
    simp only [hr]
    exact hs.of_config rfl rfl rfl

/-- What a cycle takes from a linter is what the configuration determines, unless the linter
is a bundled one although another one is named. -/
theorem plan_eq_settings_iff {s : Session} {t : Toolchain} (h : s.Known t) :
    s.plan t = s.settings ↔ s.Proper t := by
  cases h with
  | explicit named => simp [plan, settings, executable, workingDirectory, Proper, named]
  | foreman directory named kept =>
    simp [plan, settings, executable, workingDirectory, Proper, named, kept]
  | bundled =>
    by_cases named : s.config.executablePath = ""
    · simp [plan, settings, executable, workingDirectory, Proper, named]
    · simp [plan, settings, executable, workingDirectory, Proper, named, eq_comm]

/-- A configured linter is always found. -/
theorem resolve_named {fs : FileSystem} {home : FilePath} {explicit : String}
    {roots : List FilePath} (named : explicit ≠ "") :
    (Toolchain.resolve fs home explicit roots).1 = .ok (some ⟨explicit, none, .explicit⟩) := by
  simp [Toolchain.resolve, Toolchain.Search.start, Toolchain.Search.step, named]

end Session

/-- The time limit under which a cycle waits for a pass. -/
def Cycle.limit (c : Cycle) : Option Seconds :=
  match c.stage with
  | .searching _ => none
  | .basePass plan => plan.limit
  | .rulesPass plan _ _ => plan.limit

/-- Does a cycle wait for its first pass? -/
def Cycle.inBase (c : Cycle) : Bool :=
  match c.stage with
  | .basePass _ => true
  | _ => false

def Standing.cycle? : Standing → Option Cycle
  | .paused c => some c
  | .ended _ => none

/-- What is known of a cycle: the passes that were started for it, the session with which the
first one was started, and the session by which it was over. -/
structure History where
  passes : List Pass
  started : Option Session
  ended : Option Session

namespace History

def empty : History := ⟨[], none, none⟩

/-- A step that a cycle, if it had begun, makes from a session. -/
def add (h : History) (s : Session) (c : Option Cycle) (turn : Turn Standing) : History :=
  let passes : List Pass := (commands turn.effects).map fun p =>
    ⟨p.1, p.2, turn.value.cycle?.bind Cycle.limit⟩
  { passes := h.passes ++ passes
    started := h.started.or (passes.head?.map fun _ => turn.session)
    ended := h.ended.or
      (if c.any Cycle.inBase && !turn.value.cycle?.any Cycle.inBase then some s else none) }

end History

/-- How far a suspended cycle has come, and what it was started with. -/
inductive Progress (c : Cycle) : History → Prop where
  | searching {search : Toolchain.Search} (stage : c.stage = .searching search) :
    Progress c .empty
  | base {s : Session} {t : Toolchain} (stage : c.stage = .basePass (s.plan t))
    (linter : s.toolchain = some t) (known : s.Known t) :
    Progress c ⟨(s.plan t).passes none c.source, some s, none⟩
  | rules {s s' : Session} {t : Toolchain} {path : String} {vs : List Violation}
    (stage : c.stage = .rulesPass (s.plan t) path vs) (linter : s.toolchain = some t)
    (known : s.Known t) (rules : s'.rulesPath c.uri = .ok (some path)) :
    Progress c ⟨(s.plan t).passes (some path) c.source, some s, some s'⟩

namespace Session

/-- A search ends with a first pass under the configuration of that moment. -/
theorem Searched.progress {s : Session} {uri source : String} {generation : Nat}
    {turn : Turn Standing} (h : Searched s uri source generation turn) (hs : s.Consistent)
    (before : Session) {was : Option Cycle} (search : was.any Cycle.inBase = false) {c : Cycle}
    (hc : turn.value = .paused c) : Progress c (History.empty.add before was turn) := by
  cases h with
  | @searching fs es found quiet isOpen =>
    cases hc
    have still : Progress ⟨uri, source, generation, .searching found⟩ .empty := .searching rfl
    simpa [History.add, quiet.2, search, History.empty] using still
  | noLinter quiet => cases hc
  | refused e quiet => cases hc
  | @base s' fs es t quiet taken =>
    cases hc
    have now : Progress ⟨uri, source, generation, .basePass (s'.plan t)⟩
        ⟨(s'.plan t).passes none source, some s', none⟩ :=
      .base rfl taken.toolchain (taken.known_linter hs)
    simpa [History.add, quiet.2, search, History.empty, PassPlan.passes, PassPlan.pass,
      Standing.cycle?, Cycle.limit] using now

/-- A step of a cycle carries its history on. -/
theorem Resumed.progress {s : Session} {fs : FileSystem} {canPublish : Bool} {c : Cycle}
    {r : Reply} {turn : Turn Standing} (h : Resumed s fs canPublish c r turn)
    (hs : s.Consistent) {hist : History} (hp : Progress c hist) {c' : Cycle}
    (hc : turn.value = .paused c') : Progress c' (hist.add s (some c) turn) := by
  cases h with
  | idle none =>
    cases hc
    have same : hist.add s (some c) ⟨s, fs, [], .paused c⟩ = hist := by
      simp [History.add, Standing.cycle?]
    rw [same]
    exact hp
  | @search state turn none stage searched =>
    have idle : (some c).any Cycle.inBase = false := by simp [Cycle.inBase, stage]
    cases hp with
    | searching stage' => exact searched.progress hs s idle hc
    | base stage' linter known => simp [stage] at stage'
    | rules stage' linter known rules => simp [stage] at stage'
  | failed none quiet => cases hc
  | @rules es plan path vs none quiet stage rules =>
    cases hc
    cases hp with
    | searching stage' => simp [stage] at stage'
    | @base s₁ t stage' linter known =>
      obtain rfl : plan = s₁.plan t := by simpa [stage] using stage'
      have now : Progress { c with stage := .rulesPass (s₁.plan t) path vs }
          ⟨(s₁.plan t).passes (some path) c.source, some s₁, some s⟩ :=
        .rules rfl linter known rules
      simpa [History.add, quiet.2, PassPlan.passes, PassPlan.pass, Standing.cycle?, Cycle.limit,
        Cycle.inBase, stage] using now
    | rules stage' linter known rules' => simp [stage] at stage'
  | @last es vs n harvest quiet =>
    obtain ⟨result, hr⟩ := finish_ended s fs canPublish c vs n
    rw [hr] at hc
    cases hc

/-- The history of a cycle that makes its delivery. -/
theorem Resumed.delivered_history {s : Session} {fs : FileSystem} {canPublish : Bool}
    {c : Cycle} {r : Reply} {turn : Turn Standing} (h : Resumed s fs canPublish c r turn)
    {hist : History} (hp : Progress c hist) {d : Delivery} (hd : s.delivery c r = some d) :
    ∃ s₁ s₂ t rules, hist.add s (some c) turn =
        ⟨(s₁.plan t).passes rules c.source, some s₁, some s₂⟩ ∧
      s₁.toolchain = some t ∧ s₁.Known t ∧ s₂.rulesPath c.uri = .ok rules := by
  obtain ⟨-, -, harvest⟩ := delivery_eq_some hd
  obtain ⟨es, n, quiet, rfl⟩ := h.of_harvest harvest
  have silent : commands (es ++ (s.finish fs canPublish c d.violations n).effects) = [] := by
    rw [Effect.commands_append, quiet.2, commands_finish]
    rfl
  obtain ⟨result, ended⟩ := finish_ended s fs canPublish c d.violations n
  obtain ⟨plan, stage, noRules⟩ | ⟨plan, path, base, stage⟩ := stage_of_harvest harvest
  · cases hp with
    | searching stage' => simp [stage] at stage'
    | @base s₁ t stage' linter known =>
      refine ⟨s₁, s, t, none, ?_, linter, known, noRules⟩
      simp [History.add, silent, ended, Standing.cycle?, Cycle.inBase, stage]
    | rules stage' linter known rules => simp [stage] at stage'
  · cases hp with
    | searching stage' => simp [stage] at stage'
    | base stage' linter known => simp [stage] at stage'
    | @rules s₁ s₂ t path' vs' stage' linter known rules =>
      refine ⟨s₁, s₂, t, some path', ?_, linter, known, rules⟩
      simp [History.add, silent]

end Session

namespace Activity

/-- A move as it enters the history of a cycle. -/
def record (a : Activity) (t : Nat) (m : Move) (h : History) : History :=
  match m.act with
  | .lint uri source language =>
    if a.begun = t then h.add a.session none (a.session.beginCycle m.files uri source language)
    else h
  | .resume ticket reply =>
    if ticket = t then
      match a.cycles.get? ticket with
      | none => h
      | some c => h.add a.session (some c) (a.session.resume m.files m.canPublish c reply)
    else h
  | _ => h

/-- The history of a cycle after a run, with what is known of it before. -/
def history (t : Nat) : Activity → History → List Move → History
  | _, h, [] => h
  | a, h, m :: ms => history t (a.step m).1 (a.record t m h) ms

theorem history_append (t : Nat) (a : Activity) (h : History) (ms ms' : List Move) :
    history t a h (ms ++ ms') = history t (a.run ms) (history t a h ms) ms' := by
  induction ms generalizing a h with
  | nil => rfl
  | cons m ms ih => exact ih (a.step m).1 (a.record t m h)

/-- The linter of a session stays as the configuration has it. -/
theorem consistent_step {a : Activity} (ha : a.Tidy) (hs : a.session.Consistent) (m : Move) :
    (a.step m).1.session.Consistent := by
  have moved := ha.moved m
  generalize a.step m = out at moved ⊢
  cases moved with
  | skipped act unlinted same quiet ended => simpa [settle, same] using hs
  | started act linted searched => exact searched.consistent (hs.of_config rfl rfl rfl)
  | missing act gone => exact hs
  | resumed act cycle resumed => exact resumed.consistent hs
  | closed act => exact hs.of_config rfl rfl rfl
  | reconfigured act =>
    intro t ht
    cases ht
  | queried act => exact hs
  | halted act =>
    intro t ht
    cases ht

/-- A history fits a ticket: nothing is known of one that was not given out, and that of a
suspended cycle tells how far it has come. -/
structure Followed (a : Activity) (t : Nat) (h : History) : Prop where
  unborn : a.begun ≤ t → h = .empty
  progress : ∀ c, a.cycles.get? t = some c → Progress c h

theorem followed_step {a : Activity} (ha : a.Tidy) (hs : a.session.Consistent) {t : Nat}
    {h : History} (hf : a.Followed t h) (m : Move) :
    (a.step m).1.Followed t (a.record t m h) := by
  by_cases own : a.ticket? m = some t
  · cases hm : m.act with
    | lint uri source language =>
      obtain rfl : a.begun = t := by simpa [ticket?, hm] using own
      obtain rfl := hf.unborn (Nat.le_refl _)
      constructor
      · intro hb
        rw [begun_step, hm] at hb
        exact absurd hb (Nat.not_succ_le_self _)
      · intro c hc
        have hv : (a.session.beginCycle m.files uri source language).value = .paused c := by
          simp only [step, hm] at hc
          exact paused_of_get?_settle hc
        cases hl : a.session.isLintable language with
        | false => simp [Session.beginCycle, hl] at hv
        | true =>
          have searched := Session.searched_beginCycle a.session m.files uri source hl
          have before : (a.session.advance uri).Consistent := hs.of_config rfl rfl rfl
          have fresh : (none : Option Cycle).any Cycle.inBase = false := rfl
          have now := searched.progress before a.session fresh hv
          simpa [record, hm] using now
    | resume ticket reply =>
      obtain rfl : ticket = t := by simpa [ticket?, hm] using own
      cases hc₀ : a.cycles.get? ticket with
      | none =>
        have idle : (a.step m).1 = a := by simp [step, hm, hc₀]
        have same : a.record ticket m h = h := by simp [record, hm, hc₀]
        rw [idle, same]
        exact hf
      | some c₀ =>
        constructor
        · intro hb
          have given := Nat.lt_of_lt_of_le (ha.below ticket c₀ hc₀) (begun_le_step a m)
          omega
        · intro c hc
          rw [step_resume hm hc₀] at hc
          have resumed := ha.resumed hc₀ m.files m.canPublish reply
          have now := resumed.progress hs (hf.progress c₀ hc₀) (paused_of_get?_settle hc)
          simpa [record, hm, hc₀] using now
    | close uri => simp [ticket?, hm] at own
    | reconfigure config roots => simp [ticket?, hm] at own
    | query uri range => simp [ticket?, hm] at own
    | shutdown => simp [ticket?, hm] at own
  · have same : a.record t m h = h := by
      cases hm : m.act <;> simp_all [record, ticket?]
    rw [same]
    constructor
    · intro hb
      exact hf.unborn (Nat.le_trans (begun_le_step a m) hb)
    · intro c hc
      rw [get?_step_of_ne own] at hc
      exact hf.progress c hc

theorem followed_run {a : Activity} (ha : a.Tidy) (hs : a.session.Consistent) {t : Nat}
    {h : History} (hf : a.Followed t h) (ms : List Move) :
    (a.run ms).Followed t (history t a h ms) := by
  induction ms generalizing a h with
  | nil => exact hf
  | cons m ms ih => exact ih (ha.step m) (consistent_step ha hs m) (followed_step ha hs hf m)

theorem followed_opened (config : Config.LintConfig) (roots : List FilePath) (persists : Bool)
    (home : FilePath) (packaged : String) (t : Nat) :
    (opened config roots persists home packaged).Followed t .empty := by
  constructor
  · intro hb
    rfl
  · intro c h
    cases h

/-- The history of a cycle with the move by which it publishes. -/
theorem history_of_publication {a : Activity} (ha : a.Tidy) {m : Move} {t : Nat} {reply : Reply}
    (hm : m.act = .resume t reply) (published : publications (a.step m).2 ≠ []) {h : History}
    (hf : a.Followed t h) :
    ∃ c s₁ s₂ linter rules, a.cycles.get? t = some c ∧
      a.record t m h = ⟨(s₁.plan linter).passes rules c.source, some s₁, some s₂⟩ ∧
      s₁.toolchain = some linter ∧ s₁.Known linter ∧ s₂.rulesPath c.uri = .ok rules := by
  cases hc : a.cycles.get? t with
  | none => simp [step, hm, hc] at published
  | some c =>
    cases hd : a.session.delivery c reply with
    | none => simp [publications_step ha, delivery_resume hm hc, hd] at published
    | some d =>
      have resumed := ha.resumed hc m.files m.canPublish reply
      obtain ⟨s₁, s₂, linter, rules, same, ht, known, hr⟩ :=
        resumed.delivered_history (hf.progress c hc) hd
      refine ⟨c, s₁, s₂, linter, rules, rfl, ?_, ht, known, hr⟩
      simpa [record, hm, hc] using same

/-- The passes of a cycle are those that the configuration and the folders of the moment at
which the first one was started determine for its document. -/
def OneConfiguration (h : History) (c : Cycle) : Prop :=
  ∃ s, h.started = some s ∧ s.passes c.uri c.source = .ok h.passes

/-- A cycle that publishes was run by one configuration exactly if the rule file of its
document was the same when its first pass was over as when it was started, and its linter was
not the bundled one while another one was configured. -/
theorem passes_determined_iff (config : Config.LintConfig) (roots : List FilePath)
    (persists : Bool) (home : FilePath) (packaged : String) (ms : List Move) {m : Move} {t : Nat}
    {reply : Reply} (hm : m.act = .resume t reply)
    (published :
      publications (((opened config roots persists home packaged).run ms).step m).2 ≠ []) :
    ∃ c s₁ s₂ linter rules,
      ((opened config roots persists home packaged).run ms).cycles.get? t = some c ∧
      history t (opened config roots persists home packaged) .empty (ms ++ [m]) =
        ⟨(s₁.plan linter).passes rules c.source, some s₁, some s₂⟩ ∧
      s₁.toolchain = some linter ∧ s₂.rulesPath c.uri = .ok rules ∧
      (OneConfiguration
          (history t (opened config roots persists home packaged) .empty (ms ++ [m])) c ↔
        s₁.Proper linter ∧ s₁.rulesPath c.uri = s₂.rulesPath c.uri) := by
  have tidy := tidy_opened config roots persists home packaged
  have consistent : (opened config roots persists home packaged).session.Consistent := by
    intro t ht
    cases ht
  have followed := followed_run tidy consistent
    (followed_opened config roots persists home packaged t) ms
  obtain ⟨c, s₁, s₂, linter, rules, hc, hh, ht, known, hr⟩ :=
    history_of_publication (tidy.run ms) hm published followed
  have whole : history t (opened config roots persists home packaged) .empty (ms ++ [m]) =
      ⟨(s₁.plan linter).passes rules c.source, some s₁, some s₂⟩ := by
    rw [history_append]
    exact hh
  refine ⟨c, s₁, s₂, linter, rules, hc, whole, ht, hr, ?_⟩
  rw [whole, hr, ← Session.plan_eq_settings_iff known]
  constructor
  · rintro ⟨s, hs, determined⟩
    cases hs
    cases first : s₁.rulesPath c.uri with
    | error f => simp [Session.passes, first, Except.map] at determined
    | ok rules₁ =>
      simp only [Session.passes, first, Except.map, Except.ok.injEq] at determined
      obtain ⟨same, rfl⟩ := PassPlan.passes_inj.mp determined
      exact ⟨same.symm, rfl⟩
  · rintro ⟨same, first⟩
    refine ⟨s₁, rfl, ?_⟩
    simp only [Session.passes, first, Except.map, same]

/-- A linter that is configured while the first pass runs is left to later cycles. -/
theorem passes_of_one_configuration :
    let changed : Config.LintConfig := ⟨"b/lute", "", none, none, ["luau"], none⟩
    let ms := [.plain (.lint "u" "x" none), .plain (.reconfigure changed none)]
    let start := configured "a/lute" ""
    (∃ reply, (Move.answer 0).act = .resume 0 reply) ∧
      publications ((start.run ms).step (.answer 0)).2 = [("u", [])] ∧
      ∃ c s₁ s₂ linter rules, (start.run ms).cycles.get? 0 = some c ∧
        history 0 start .empty (ms ++ [.answer 0]) =
          ⟨(s₁.plan linter).passes rules c.source, some s₁, some s₂⟩ ∧
        s₁.toolchain = some linter ∧ s₂.rulesPath c.uri = .ok rules ∧
        (OneConfiguration (history 0 start .empty (ms ++ [.answer 0])) c ↔
          s₁.Proper linter ∧ s₁.rulesPath c.uri = s₂.rulesPath c.uri) := by
  intro changed ms start
  have published : publications ((start.run ms).step (.answer 0)).2 = [("u", [])] := by cbv
  have nonempty : publications ((start.run ms).step (.answer 0)).2 ≠ [] := by
    rw [published]
    simp
  exact ⟨⟨_, rfl⟩, published, passes_determined_iff _ _ _ _ _ ms rfl nonempty⟩

/-- A rule file that is configured while the first pass runs is used by the linter of before. -/
theorem passes_of_two_configurations :
    let changed : Config.LintConfig := ⟨"b/lute", "/r.luau", none, none, ["luau"], none⟩
    let ms := [.plain (.lint "u" "x" none), .plain (.reconfigure changed none), .answer 0,
      .answer 0]
    let start := configured "a/lute" ""
    publications (start.effects ms) = [("u", [])] ∧
      commands (start.effects ms) = [(["a/lute", "lint", "-j", "-s", "x"], none),
        (["a/lute", "lint", "-j", "-r", "/r.luau", "-s", "x"], none)] ∧
      ¬ ∃ c, c.uri = "u" ∧ c.source = "x" ∧ OneConfiguration (history 0 start .empty ms) c := by
  intro changed ms start
  have effects : (publications (start.effects ms), commands (start.effects ms)) =
      ([("u", [])], [(["a/lute", "lint", "-j", "-s", "x"], none),
        (["a/lute", "lint", "-j", "-r", "/r.luau", "-s", "x"], none)]) := by cbv
  have known : ((history 0 start .empty ms).passes.length,
      (history 0 start .empty ms).started.map
        fun s => (s.passes "u" "x").toOption.map List.length) = (2, some (some 1)) := by cbv
  obtain ⟨published, spawned⟩ := Prod.mk.inj effects
  obtain ⟨two, one⟩ := Prod.mk.inj known
  refine ⟨published, spawned, ?_⟩
  rintro ⟨c, hu, hs, s, started, determined⟩
  rw [hu, hs] at determined
  simp [started, determined, Except.toOption, two] at one

end Activity
end LintBridge
