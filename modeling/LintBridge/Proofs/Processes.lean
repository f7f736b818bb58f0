import LintBridge.Proofs.Employment
import LintBridge.Proofs.Passes
import LintBridge.Proofs.RulePaths
import LintBridge.Proofs.Uninterrupted
/-!
What is done to the processes of a cycle. From the linter that a cycle has got to its end, one
process is started, and one more if a rule file is configured when the first one has ended
(`PassPlan.Full`), unless the first one was refused for a NUL or the address of the document cannot
be read; one that outlasts its time is killed (`PassPlan.Course`). Nothing else is ever done to a
process (`Activity.processes_follow_course`).
-/
namespace LintBridge

namespace Effect

/-- Is an effect one on a process? -/
def isOnProcess : Effect → Bool
  | .spawn .. | .kill | .await => true
  | _ => false

/-- What effects do to processes, in order. -/
def handling (es : List Effect) : List Effect := es.filter isOnProcess

@[simp] theorem handling_nil : handling [] = [] := rfl

@[simp] theorem handling_append (es es' : List Effect) :
    handling (es ++ es') = handling es ++ handling es' := by
  simp [handling]

@[simp] theorem handling_reports (cycle : Option Log.CycleContext) (events : List Log.Event) :
    handling (Session.reports cycle events) = [] := by
  simp [handling, Session.reports, isOnProcess]

end Effect

open Effect (handling)

namespace PassPlan

/-- The start of the first process of a cycle. -/
def first (plan : PassPlan) (source : String) : Effect :=
  .spawn [plan.executable, "lint", "-j", "-s", source] plan.cwd

/-- The start of the second one. -/
def second (plan : PassPlan) (path source : String) : Effect :=
  .spawn [plan.executable, "lint", "-j", "-r", path, "-s", source] plan.cwd

/-- Does a process outlast its time, and is it gone then by itself? One that exits does so only
if it has no time at all. -/
def outlasted? (plan : PassPlan) : ProcessEnd → Option Bool
  | .outlasted gone => some gone
  | .exited .. => if (Session.invocation plan none).hasNoTime then some false else none
  | .refused _ | .refusedArgument => none

/-- What is done to a process that has come to an end: one that has outlasted its time is killed,
and then waited for unless it was gone. -/
def aftermath (plan : PassPlan) (e : ProcessEnd) : List Effect :=
  match plan.outlasted? e with
  | none => []
  | some gone => .kill :: if gone then [] else [.await]

/-- A cycle can go on to its second process: the first one was not refused for a NUL, and the
address of the document can be read. -/
def Passable (uri : String) (e : ProcessEnd) : Prop :=
  e ≠ .refusedArgument ∧ Uri.hostFault? (Uri.parts uri).authority = none

/-- What was done to the processes of a cycle that has got its linter, and how they have ended,
each with the session of that time, by where the cycle is suspended unless it is over, and by
whether it has failed. -/
inductive Course (plan : PassPlan) (uri source : String) :
    Option Stage → Bool → List Effect → List (Session × ProcessEnd) → Prop where
  | first : Course plan uri source (some (.basePass plan)) false [plan.first source] []
  | single {s : Session} {e : ProcessEnd} {failed : Bool}
    (alone : s.config.ruleConfigPath = "" ∨ failed = true ∧ ¬ Passable uri e) :
    Course plan uri source none failed (plan.first source :: plan.aftermath e) [(s, e)]
  | second {s : Session} {e : ProcessEnd} {path : String} (found : List Violation)
    (passable : Passable uri e) (configured : s.config.ruleConfigPath ≠ "")
    (resolved : s.rulesPath uri = .ok (some path)) (filled : path ≠ "") :
    Course plan uri source (some (.rulesPass plan path found)) false
      (plan.first source :: plan.aftermath e ++ [plan.second path source]) [(s, e)]
  | both {s s' : Session} {e e' : ProcessEnd} {path : String} {failed : Bool}
    (passable : Passable uri e) (configured : s.config.ruleConfigPath ≠ "")
    (resolved : s.rulesPath uri = .ok (some path)) (filled : path ≠ "") :
    Course plan uri source none failed
      (plan.first source :: plan.aftermath e ++ plan.second path source :: plan.aftermath e')
      [(s, e), (s', e')]

/-- The course of a cycle that is over and has had a second process exactly if a rule file was
configured when its first one had ended. -/
inductive Full (plan : PassPlan) (uri source : String) :
    List Effect → List (Session × ProcessEnd) → Prop where
  | single {s : Session} {e : ProcessEnd} (unset : s.config.ruleConfigPath = "") :
    Full plan uri source (plan.first source :: plan.aftermath e) [(s, e)]
  | both {s s' : Session} {e e' : ProcessEnd} {path : String}
    (configured : s.config.ruleConfigPath ≠ "") (resolved : s.rulesPath uri = .ok (some path))
    (filled : path ≠ "") :
    Full plan uri source
      (plan.first source :: plan.aftermath e ++ plan.second path source :: plan.aftermath e')
      [(s, e), (s', e')]

variable {plan : PassPlan} {uri source : String} {failed : Bool} {handled : List Effect}
  {ends : List (Session × ProcessEnd)}

/-- A full course with one process is that of a cycle without a rule file. -/
theorem Full.unset {s : Session} {e : ProcessEnd} (h : plan.Full uri source handled [(s, e)]) :
    s.config.ruleConfigPath = "" := by
  cases h with
  | single unset => exact unset

/-- A course is full if no rule file was configured when its first process had ended, or if its
cycle could go on, and only then. -/
theorem Course.full_iff (h : plan.Course uri source none failed handled ends) :
    plan.Full uri source handled ends ↔ ∀ s e, ends.head? = some (s, e) →
      s.config.ruleConfigPath = "" ∨ Passable uri e := by
  cases h with
  | @single s e _ alone =>
    constructor
    · intro full s' e' here
      cases here
      exact .inl full.unset
    · intro goesOn
      obtain unset | ⟨-, blocked⟩ := alone
      · exact .single unset
      · exact .single ((goesOn s e rfl).resolve_right blocked)
  | both passable configured resolved filled =>
    refine iff_of_true (.both configured resolved filled) fun s e here => ?_
    cases here
    exact .inr passable

/-- The course of a cycle that has not failed is full. -/
theorem Course.full_of_returned (h : plan.Course uri source none false handled ends) :
    plan.Full uri source handled ends := by
  cases h with
  | single alone => exact .single (alone.resolve_right (by simp))
  | both passable configured resolved filled => exact .both configured resolved filled

end PassPlan

/-- Has a cycle ended with a failure? -/
def Standing.fails : Standing → Bool
  | .ended (.error _) => true
  | _ => false

theorem Standing.fails_of_cycle? {v : Standing} {c : Cycle} (h : v.cycle? = some c) :
    v.fails = false := by
  cases v with
  | paused => rfl
  | ended => cases h

/-- A process that has exited in time is left alone. -/
theorem Invocation.fate_exited (i : Invocation) (status : Option Int)
    (stdout stderr : List UInt8) : (i.exited status stdout stderr).fate = .left := by
  unfold exited
  dsimp only
  split
  next => rfl
  next => split <;> rfl

/-- A run that can be started and whose output can be read returns. -/
theorem Invocation.exists_result (i : Invocation) {e : ProcessEnd}
    (startable : e ≠ .refusedArgument) (short : ∀ digits, ¬ e.Overlong digits) :
    ∃ vs, (i.conclude e).result = .ok vs := by
  cases timed : i.hasNoTime with
  | false =>
    obtain ⟨refused, -⟩ | ⟨digits, overlong, -⟩ | ⟨result, -⟩ := i.conclude_cases timed e
    · exact absurd refused startable
    · exact absurd overlong (short digits)
    · exact ⟨_, result⟩
  | true =>
    cases e with
    | refusedArgument => exact absurd rfl startable
    | refused err => exact ⟨[], rfl⟩
    | outlasted gone => exact ⟨[], rfl⟩
    | exited status stdout stderr => exact ⟨[], by simp [conclude, timed, timedOut, failing]⟩

namespace Session

/-- A rule file is found by its path as it is resolved, which is not empty. -/
theorem rulesPath_filled {s : Session} {uri path : String}
    (h : s.rulesPath uri = .ok (some path)) : s.config.ruleConfigPath ≠ "" ∧ path ≠ "" := by
  have configured : s.config.ruleConfigPath ≠ "" := by
    intro empty
    simp [rulesPath, empty] at h
  refine ⟨configured, ?_⟩
  unfold rulesPath at h
  rw [if_neg (by simpa using configured)] at h
  cases root : rootFor s.roots uri with
  | error f => simp [root, Except.map] at h
  | ok root =>
    simp only [root, Except.map, Except.ok.injEq, Option.some.injEq] at h
    rw [← h]
    exact RulePath.resolve_ne_empty configured _

theorem handling_startPass (c : Log.CycleContext) (plan : PassPlan) (source : String) :
    handling (startPass c plan none source) = [plan.first source] := rfl

theorem handling_startPass_some (c : Log.CycleContext) (plan : PassPlan) {path : String}
    (filled : path ≠ "") (source : String) :
    handling (startPass c plan (some path) source) = [plan.second path source] := by
  simp [handling, startPass, Effect.isOnProcess, invocation, Command.line, Command.ruleArgs, filled,
    PassPlan.second, Command.subcommand, Command.jsonFlag, Command.rulesFlag, Command.sourceFlag]

theorem handling_endPass (c : Log.CycleContext) (plan : PassPlan) (rules : Option String)
    (e : ProcessEnd) :
    handling (endPass c ((invocation plan rules).conclude e)) = plan.aftermath e := by
  have noTime : (invocation plan rules).hasNoTime = (invocation plan none).hasNoTime := rfl
  rw [endPass, Effect.handling_append, Effect.handling_reports, List.append_nil]
  cases e with
  | refused err => rfl
  | refusedArgument => rfl
  | outlasted gone => cases gone <;> rfl
  | exited status stdout stderr =>
    rw [Invocation.conclude, noTime, PassPlan.aftermath, PassPlan.outlasted?]
    cases (invocation plan none).hasNoTime with
    | false => simp [Invocation.fate_exited]
    | true => rfl

theorem handling_finish (s : Session) (fs : FileSystem) (canPublish : Bool) (c : Cycle)
    (vs : List Violation) (n : Nat) : handling (s.finish fs canPublish c vs n).effects = [] := by
  unfold finish
  split
  · exact Effect.handling_reports _ _
  · split
    · rfl
    · split <;> rfl

/-- What a step of a search gives to its cycle: a linter that was known already, or the one that
the session takes over. -/
def obtained (s : Session) (fs : FileSystem) (known : Bool) (step : Toolchain.SearchStep) :
    Option Toolchain :=
  match step.search with
  | .settled found =>
    if known then found else (s.adopt fs found).toOption.bind fun taken => taken.2.2.2
  | _ => none

/-- What a step of a search does to processes, by the linter that its cycle gets from it. -/
inductive Equips (source : String) : Option Toolchain → Turn Standing → Prop where
  | without {turn : Turn Standing} (idle : handling turn.effects = [])
    (searches : ∀ c, turn.value.cycle? = some c → ∃ search, c.stage = .searching search) :
    Equips source none turn
  | first {t : Toolchain} {plan : PassPlan} {c : Cycle} {turn : Turn Standing}
    (own : plan.executable = t.executable) (started : handling turn.effects = [plan.first source])
    (paused : turn.value.cycle? = some c) (stage : c.stage = .basePass plan) :
    Equips source (some t) turn

theorem equips_enterBase (s : Session) (fs : FileSystem) (uri source : String) (generation : Nat)
    (found : Option Toolchain) {es : List Effect} (idle : handling es = []) :
    Equips source found { s.enterBase fs uri source generation found with
      effects := es ++ (s.enterBase fs uri source generation found).effects } := by
  cases found with
  | none => exact .without (by simp [enterBase, idle]) (by rintro c ⟨⟩)
  | some t => exact .first rfl (by simp [enterBase, idle, handling_startPass]) rfl rfl

/-- A cycle that gets a linter starts its first process with it at once. -/
theorem equips_afterSearch (s : Session) (fs : FileSystem) (uri source : String)
    (generation : Nat) (known : Bool) (step : Toolchain.SearchStep) :
    Equips source (s.obtained fs known step)
      (s.afterSearch fs uri source generation known step) := by
  obtain ⟨events, search⟩ := step
  have waiting : Equips source none
      ⟨s, fs, reports (some ⟨uri, generation⟩) events,
        .paused ⟨uri, source, generation, .searching search⟩⟩ := by
    refine .without (Effect.handling_reports _ _) ?_
    rintro c ⟨⟩
    exact ⟨_, rfl⟩
  cases search with
  | settled found =>
    cases known with
    | true => exact equips_enterBase s fs uri source generation found (Effect.handling_reports _ _)
    | false =>
      cases taken : s.adopt fs found with
      | error e =>
        have lost : s.obtained fs false ⟨events, .settled found⟩ = none := by
          simp [obtained, taken, Except.toOption]
        rw [lost]
        exact .without (by simp [afterSearch, taken])
          (by simp [afterSearch, taken, Standing.cycle?])
      | ok out =>
        have got : s.obtained fs false ⟨events, .settled found⟩ = out.2.2.2 := by
          simp [obtained, taken, Except.toOption]
        have idle : handling (reports (some ⟨uri, generation⟩) events ++
            reports (some ⟨uri, generation⟩) out.2.2.1) = [] := by simp
        have entered := equips_enterBase out.1 out.2.1 uri source generation out.2.2.2 idle
        rw [got]
        simpa [afterSearch, taken] using entered
  | refused e => exact .without (Effect.handling_reports _ _) (by rintro c ⟨⟩)
  | manifests roots => exact waiting
  | binary manifest => exact waiting

/-- The end of a process, with the session of that time, if a cycle was waiting for one. -/
def endings (s : Session) (c : Cycle) (r : Reply) : List (Session × ProcessEnd) :=
  match c.stage, r with
  | .searching _, _ => []
  | _, .looked => []
  | _, .ended e => [(s, e)]

theorem resume_basePass_error {s : Session} {c : Cycle} {plan : PassPlan} {e : ProcessEnd}
    {f : Failure} (stage : c.stage = .basePass plan)
    (result : ((invocation plan none).conclude e).result = .error f) (fs : FileSystem)
    (canPublish : Bool) :
    s.resume fs canPublish c (.ended e) =
      ⟨s, fs, endPass ⟨c.uri, c.generation⟩ ((invocation plan none).conclude e),
        .ended (.error f)⟩ := by
  simp [resume, stage, result]

theorem resume_rulesPass_error {s : Session} {c : Cycle} {plan : PassPlan} {path : String}
    {found : List Violation} {e : ProcessEnd} {f : Failure}
    (stage : c.stage = .rulesPass plan path found)
    (result : ((invocation plan (some path)).conclude e).result = .error f) (fs : FileSystem)
    (canPublish : Bool) :
    s.resume fs canPublish c (.ended e) =
      ⟨s, fs, endPass ⟨c.uri, c.generation⟩ ((invocation plan (some path)).conclude e),
        .ended (.error f)⟩ := by
  simp [resume, stage, result]

/-- A cycle that waits for a process takes no look. -/
theorem resume_busy {s : Session} {c : Cycle} (busy : ∀ search, c.stage ≠ .searching search)
    (fs : FileSystem) (canPublish : Bool) :
    s.resume fs canPublish c .looked = ⟨s, fs, [], .paused c⟩ ∧ s.endings c .looked = [] := by
  cases stage : c.stage with
  | searching search => exact absurd stage (busy search)
  | _ => simp [resume, endings, stage]

theorem endings_ended {s : Session} {c : Cycle} (busy : ∀ search, c.stage ≠ .searching search)
    (e : ProcessEnd) : s.endings c (.ended e) = [(s, e)] := by
  cases stage : c.stage with
  | searching search => exact absurd stage (busy search)
  | _ => simp [endings, stage]

/-- The first process ends: its cycle starts the second one, or is over. -/
theorem handling_basePass {s : Session} {c : Cycle} {plan : PassPlan}
    (stage : c.stage = .basePass plan) {e : ProcessEnd} (short : ∀ digits, ¬ e.Overlong digits)
    (fs : FileSystem) (canPublish : Bool) :
    let turn := s.resume fs canPublish c (.ended e)
    (∃ path found, PassPlan.Passable c.uri e ∧ s.rulesPath c.uri = .ok (some path) ∧
      turn.value = .paused { c with stage := .rulesPass plan path found } ∧
      handling turn.effects = plan.aftermath e ++ [plan.second path c.source]) ∨
    (s.config.ruleConfigPath = "" ∨ turn.value.fails = true ∧ ¬ PassPlan.Passable c.uri e) ∧
      turn.value.cycle? = none ∧ handling turn.effects = plan.aftermath e := by
  intro turn
  have handled := handling_endPass ⟨c.uri, c.generation⟩ plan none e
  by_cases refused : e = .refusedArgument
  · subst refused
    have failed := resume_basePass_error (s := s) stage
      (rfl : ((invocation plan none).conclude .refusedArgument).result = _) fs canPublish
    refine .inr ⟨.inr ⟨?_, fun passable => passable.1 rfl⟩, ?_, ?_⟩
    · exact congrArg (fun turn => turn.value.fails) failed
    · exact congrArg (fun turn => turn.value.cycle?) failed
    · exact (congrArg (fun turn => handling turn.effects) failed).trans handled
  · obtain ⟨vs, result⟩ := (invocation plan none).exists_result refused short
    have ended : turn = after _ (s.afterBase fs canPublish c plan vs) :=
      resume_basePass stage result fs canPublish
    rw [afterBase_eq] at ended
    cases rules : s.rulesPath c.uri with
    | error f =>
      rw [rules] at ended
      have told : ¬ ∃ path?, s.rulesPath c.uri = .ok path? := by simp [rules]
      rw [exists_rulesPath_iff, not_or] at told
      refine .inr ⟨.inr ⟨?_, fun passable => told.2 passable.2⟩, ?_, ?_⟩
      · rw [ended]
        rfl
      · rw [ended]
        rfl
      · simp [ended, after, handled]
    | ok path? =>
      rw [rules] at ended
      cases path? with
      | none =>
        obtain ⟨_, value⟩ := finish_ended s fs canPublish c vs 1
        have unset : s.config.ruleConfigPath = "" := by
          simpa using (isSome_of_rulesPath rules).symm
        refine .inr ⟨.inl unset, ?_, ?_⟩
        · rw [ended]
          simp [after, value, Standing.cycle?]
        · simp [ended, after, handled, handling_finish]
      | some path =>
        have readable := (exists_rulesPath_iff.mp ⟨_, rules⟩).resolve_left
          (rulesPath_filled rules).1
        refine .inl ⟨path, vs, ⟨refused, readable⟩, rfl, ?_, ?_⟩
        · rw [ended]
          rfl
        · simp [ended, after, handled, handling_startPass_some _ _ (rulesPath_filled rules).2]

/-- The second process ends, and its cycle is over. -/
theorem handling_rulesPass {s : Session} {c : Cycle} {plan : PassPlan} {path : String}
    {found : List Violation} (stage : c.stage = .rulesPass plan path found) (e : ProcessEnd)
    (fs : FileSystem) (canPublish : Bool) :
    let turn := s.resume fs canPublish c (.ended e)
    turn.value.cycle? = none ∧ handling turn.effects = plan.aftermath e := by
  intro turn
  have handled := handling_endPass ⟨c.uri, c.generation⟩ plan (some path) e
  cases result : ((invocation plan (some path)).conclude e).result with
  | error f =>
    have failed := resume_rulesPass_error (s := s) stage result fs canPublish
    constructor
    · exact congrArg (fun turn => turn.value.cycle?) failed
    · exact (congrArg (fun turn => handling turn.effects) failed).trans handled
  | ok vs =>
    have ended : turn = after _ (s.finish fs canPublish c (found ++ vs) 2) :=
      resume_rulesPass stage result fs canPublish
    obtain ⟨_, value⟩ := finish_ended s fs canPublish c (found ++ vs) 2
    constructor
    · rw [ended]
      simp [after, value, Standing.cycle?]
    · simp [ended, after, handled, handling_finish]

end Session

theorem PassPlan.Course.busy {plan : PassPlan} {uri source : String} {stage : Stage} {failed : Bool}
    {handled : List Effect} {ends : List (Session × ProcessEnd)}
    (h : plan.Course uri source (some stage) failed handled ends) (search : Toolchain.Search) :
    stage ≠ .searching search := by
  rintro rfl
  cases h

/-- With every step a cycle stays on its course. -/
theorem PassPlan.Course.resume {plan : PassPlan} {c : Cycle} {handled : List Effect}
    {ends : List (Session × ProcessEnd)} {failed : Bool}
    (h : plan.Course c.uri c.source (some c.stage) failed handled ends)
    (s : Session) (fs : FileSystem) (canPublish : Bool) {r : Reply}
    (short : ∀ e, r = .ended e → ∀ digits, ¬ e.Overlong digits) :
    let turn := s.resume fs canPublish c r
    plan.Course c.uri c.source (turn.value.cycle?.map Cycle.stage) (failed || turn.value.fails)
      (handled ++ handling turn.effects) (ends ++ s.endings c r) := by
  intro turn
  cases r with
  | looked =>
    obtain ⟨idle, none⟩ := Session.resume_busy h.busy (s := s) fs canPublish
    change turn = _ at idle
    rw [idle, none, Effect.handling_nil, List.append_nil, List.append_nil]
    simpa [Standing.fails, Standing.cycle?] using h
  | ended e =>
    rw [Session.endings_ended h.busy]
    generalize stage : c.stage = at_ at h
    cases h with
    | first =>
      rw [Bool.false_or]
      obtain ⟨path, found, passable, resolved, value, handled⟩ | ⟨alone, done, handled⟩ :=
        Session.handling_basePass stage (short e rfl) fs canPublish
      · obtain ⟨configured, filled⟩ := Session.rulesPath_filled resolved
        rw [handled, value]
        exact .second found passable configured resolved filled
      · rw [handled, done]
        exact .single alone
    | second found passable configured resolved filled =>
      obtain ⟨done, handled⟩ := Session.handling_rulesPass stage e fs canPublish
      rw [handled, done, List.append_assoc]
      exact .both passable configured resolved filled

/-- What a cycle has come by in a run: its document with the text, its linter, what was done to
processes in its moves, how its processes have ended, each with the session of that time, and
whether it has failed. -/
structure Trail where
  document : Option (String × String)
  linter : Option Toolchain
  handled : List Effect
  ends : List (Session × ProcessEnd)
  failed : Bool

def Trail.empty : Trail := ⟨none, none, [], [], false⟩

namespace Activity

/-- The document and the text with which a move begins a cycle. -/
def document? (m : Move) : Option (String × String) :=
  match m.act with
  | .lint uri source _ => some (uri, source)
  | _ => none

/-- The linter that a cycle gets with a move. -/
def obtained? (a : Activity) (m : Move) : Option Toolchain :=
  match m.act with
  | .lint uri _ language =>
    if a.session.isLintable language then
      let s := a.session.advance uri
      s.obtained m.files s.toolchain.isSome s.startSearch
    else none
  | .resume ticket .looked => (a.cycles.get? ticket).bind fun c => match c.stage with
    | .searching search => a.session.obtained m.files false (search.step m.files a.session.home)
    | _ => none
  | _ => none

/-- The process that ends with a move. -/
def endings (a : Activity) (m : Move) : List (Session × ProcessEnd) :=
  match m.act with
  | .resume ticket reply => (a.cycles.get? ticket).elim [] fun c => a.session.endings c reply
  | _ => []

/-- Does the cycle of a move end with it, and with a failure? -/
def fails (a : Activity) (m : Move) : Bool :=
  match m.act with
  | .lint uri source language => (a.session.beginCycle m.files uri source language).value.fails
  | .resume ticket reply => (a.cycles.get? ticket).any fun c =>
    (a.session.resume m.files m.canPublish c reply).value.fails
  | _ => false

/-- A move as it enters the trail of a cycle. -/
def mark (a : Activity) (t : Nat) (m : Move) (h : Trail) : Trail :=
  if a.ticket? m = some t then
    { document := h.document.or (document? m)
      linter := h.linter.or (a.obtained? m)
      handled := h.handled ++ handling (a.step m).2
      ends := h.ends ++ a.endings m
      failed := h.failed || a.fails m }
  else h

/-- The trail of a cycle after a run, with what is known of it before. -/
def trail (t : Nat) : Activity → Trail → List Move → Trail
  | _, h, [] => h
  | a, h, m :: ms => trail t (a.step m).1 (a.mark t m h) ms

/-- A trail fits a ticket: nothing is known of one that was not given out, nothing was done to
processes for a cycle that has got no linter yet, and any other one is on its course. -/
structure Traced (a : Activity) (t : Nat) (h : Trail) : Prop where
  unborn : a.begun ≤ t → h = .empty
  document : ∀ c, a.cycles.get? t = some c → h.document = some (c.uri, c.source)
  unequipped : h.linter = none → h.handled = [] ∧ h.ends = [] ∧
    ∀ c, a.cycles.get? t = some c → ∃ search, c.stage = .searching search
  equipped : ∀ linter, h.linter = some linter → ∃ uri source plan,
    h.document = some (uri, source) ∧ plan.executable = linter.executable ∧
      PassPlan.Course plan uri source ((a.cycles.get? t).map Cycle.stage) h.failed h.handled h.ends
  going : ∀ c, a.cycles.get? t = some c → h.failed = false

theorem traced_opened (config : Config.LintConfig) (roots : List FilePath) (persists : Bool)
    (home : FilePath) (packaged : String) (t : Nat) :
    (opened config roots persists home packaged).Traced t .empty := by
  refine ⟨fun _ => rfl, ?_, fun _ => ⟨rfl, rfl, ?_⟩, ?_, fun _ _ => rfl⟩
  · rintro c ⟨⟩
  · rintro c ⟨⟩
  · rintro linter ⟨⟩

/-- A cycle that searches, or that has just got its linter. -/
theorem traced_of_equips {a : Activity} {t : Nat} {uri source : String}
    {found : Option Toolchain} {turn : Turn Standing} (equips : Session.Equips source found turn)
    (born : t < a.begun) (cycle : a.cycles.get? t = turn.value.cycle?)
    (same : ∀ c, a.cycles.get? t = some c → c.uri = uri ∧ c.source = source) :
    a.Traced t ⟨some (uri, source), found, handling turn.effects, [], turn.value.fails⟩ := by
  refine ⟨fun unborn => absurd born (Nat.not_lt.mpr unborn), ?_, ?_, ?_, ?_⟩
  · intro c hc
    obtain ⟨hu, hs⟩ := same c hc
    rw [hu, hs]
  · rintro ⟨⟩
    cases equips with
    | without idle searches => exact ⟨idle, rfl, fun c hc => searches c (cycle ▸ hc)⟩
  · rintro linter ⟨⟩
    cases equips with
    | first own started paused stage =>
      refine ⟨uri, source, _, rfl, own, ?_⟩
      rw [cycle, paused, started, Option.map_some, stage, Standing.fails_of_cycle? paused]
      exact .first
  · intro c hc
    exact Standing.fails_of_cycle? (cycle ▸ hc)

theorem equips_lint {a : Activity} {m : Move} {uri source : String} {language : Option String}
    (hm : m.act = .lint uri source language) :
    Session.Equips source (a.obtained? m)
      (a.session.beginCycle m.files uri source language) := by
  cases linted : a.session.isLintable language with
  | false =>
    have skipped : a.obtained? m = none := by simp [obtained?, hm, linted]
    rw [skipped]
    refine .without ?_ ?_
    · simp [Session.beginCycle, linted]
    · intro c hc
      simp [Session.beginCycle, linted, Standing.cycle?] at hc
  | true =>
    have equips := Session.equips_afterSearch (a.session.advance uri) m.files uri source
      (a.session.generation uri + 1) (a.session.advance uri).toolchain.isSome
      (a.session.advance uri).startSearch
    simpa [obtained?, hm, Session.beginCycle, linted] using equips

/-- A look of a search. A cycle that searches is not concerned with the end of a process. -/
theorem equips_search {a : Activity} {m : Move} {ticket : Nat} {reply : Reply} {c : Cycle}
    {search : Toolchain.Search} (hm : m.act = .resume ticket reply)
    (hc : a.cycles.get? ticket = some c) (stage : c.stage = .searching search) :
    Session.Equips c.source (a.obtained? m)
      (a.session.resume m.files m.canPublish c reply) := by
  cases reply with
  | looked =>
    have equips := a.session.equips_afterSearch m.files c.uri c.source c.generation false
      (search.step m.files a.session.home)
    rw [Session.resume_looked stage]
    simpa [obtained?, hm, hc, stage] using equips
  | ended e =>
    have none : a.obtained? m = none := by simp [obtained?, hm]
    rw [Session.resume_searching stage, none]
    refine .without rfl ?_
    rintro c ⟨⟩
    exact ⟨search, stage⟩

/-- The cycle of a ticket after a move that settles it. -/
theorem get?_settle_own (a : Activity) (ticket : Nat) (turn : Turn Standing) :
    (a.settle ticket turn).cycles.get? ticket = turn.value.cycle? := by
  rw [get?_settle, if_pos rfl]
  cases turn.value <;> rfl

/-- A cycle begins. -/
theorem traced_lint {a : Activity} (ha : a.Tidy) {m : Move} {uri source : String}
    {language : Option String} (hm : m.act = .lint uri source language) :
    (a.step m).1.Traced a.begun (a.mark a.begun m .empty) := by
  have own : a.ticket? m = some a.begun := by simp [ticket?, hm]
  have marked : a.mark a.begun m .empty = ⟨some (uri, source), a.obtained? m,
      handling (a.session.beginCycle m.files uri source language).effects, [],
      (a.session.beginCycle m.files uri source language).value.fails⟩ := by
    simp [mark, own, Trail.empty, document?, endings, fails, hm, step_lint a hm]
  rw [marked]
  refine traced_of_equips (equips_lint hm) ?_ ?_ fun c hc => ?_
  · rw [begun_step, hm]
    exact Nat.lt_succ_self _
  · rw [step_lint a hm]
    exact get?_settle_own _ _ _
  · obtain ⟨-, ⟨uri', source', language', hl, -, -, hu, hs, -⟩ | ⟨reply, c₀, hr, -⟩⟩ :=
      paused_of_ticket ha own hc
    · rw [hm] at hl
      cases hl
      exact ⟨hu, hs⟩
    · rw [hm] at hr
      cases hr

/-- A suspended cycle goes on. -/
theorem Traced.resume {a : Activity} (ha : a.Tidy) {t : Nat} {h : Trail} (ht : a.Traced t h)
    {m : Move} {reply : Reply} {c : Cycle} (hm : m.act = .resume t reply)
    (hc : a.cycles.get? t = some c)
    (short : ∀ e, reply = .ended e → ∀ digits, ¬ e.Overlong digits) :
    (a.step m).1.Traced t (a.mark t m h) := by
  have own : a.ticket? m = some t := by simp [ticket?, hm]
  have step := step_resume hm hc
  have document := ht.document c hc
  have going := ht.going c hc
  have born : t < (a.step m).1.begun :=
    Nat.lt_of_lt_of_le (ha.below t c hc) (begun_le_step a m)
  have cycle : (a.step m).1.cycles.get? t =
      (a.session.resume m.files m.canPublish c reply).value.cycle? := by
    rw [step]
    exact get?_settle_own _ _ _
  have same (c' : Cycle) (hc' : (a.step m).1.cycles.get? t = some c') :
      c'.uri = c.uri ∧ c'.source = c.source := by
    obtain ⟨-, ⟨uri, source, language, hl, -⟩ | ⟨reply', c₀, -, h₀, hu, hs, -⟩⟩ :=
      paused_of_ticket ha own hc'
    · rw [hm] at hl
      cases hl
    · rw [hc] at h₀
      cases h₀
      exact ⟨hu, hs⟩
  cases got : h.linter with
  | none =>
    obtain ⟨handled, ended, searches⟩ := ht.unequipped got
    obtain ⟨search, stage⟩ := searches c hc
    have marked : a.mark t m h = ⟨some (c.uri, c.source), a.obtained? m,
        handling (a.session.resume m.files m.canPublish c reply).effects, [],
        (a.session.resume m.files m.canPublish c reply).value.fails⟩ := by
      simp [mark, own, document, got, handled, ended, endings, hm, hc, Session.endings, stage,
        step, going, fails]
    rw [marked]
    exact traced_of_equips (equips_search hm hc stage) born cycle same
  | some linter =>
    obtain ⟨uri, source, plan, known, executable, course⟩ := ht.equipped linter got
    rw [document] at known
    cases known
    rw [hc] at course
    have next := course.resume a.session m.files m.canPublish short
    have marked : a.mark t m h = ⟨some (c.uri, c.source), some linter,
        h.handled ++ handling (a.session.resume m.files m.canPublish c reply).effects,
        h.ends ++ a.session.endings c reply,
        h.failed || (a.session.resume m.files m.canPublish c reply).value.fails⟩ := by
      simp [mark, own, document, got, endings, fails, hm, hc, step]
    rw [marked]
    refine ⟨fun unborn => absurd born (Nat.not_lt.mpr unborn), ?_, by simp, ?_, ?_⟩
    · intro c' hc'
      obtain ⟨hu, hs⟩ := same c' hc'
      rw [hu, hs]
    · rintro linter ⟨⟩
      exact ⟨c.uri, c.source, plan, rfl, executable, cycle ▸ next⟩
    · intro c' hc'
      rw [going, Bool.false_or]
      exact Standing.fails_of_cycle? (cycle ▸ hc')

/-- Does no process exit with status zero after it has printed an integer with too many digits? -/
def Short (ms : List Move) : Prop :=
  ∀ m ∈ ms, ∀ ticket e, m.act = .resume ticket (.ended e) → ∀ digits, ¬ e.Overlong digits

theorem Traced.step {a : Activity} (ha : a.Tidy) {t : Nat} {h : Trail} (ht : a.Traced t h)
    {m : Move} (short : Short [m]) : (a.step m).1.Traced t (a.mark t m h) := by
  have short := short m List.mem_cons_self
  by_cases own : a.ticket? m = some t
  · cases hm : m.act with
    | lint uri source language =>
      obtain rfl : a.begun = t := by simpa [ticket?, hm] using own
      obtain rfl := ht.unborn (Nat.le_refl _)
      exact traced_lint ha hm
    | resume ticket reply =>
      obtain rfl : ticket = t := by simpa [ticket?, hm] using own
      cases hc : a.cycles.get? ticket with
      | some c => exact ht.resume ha hm hc fun e he => short ticket e (he ▸ hm)
      | none =>
        have missing : a.step m = (a, []) := by simp [Activity.step, hm, hc]
        have nothing : a.obtained? m = none := by cases reply <;> simp [obtained?, hm, hc]
        have unmarked : a.mark ticket m h = h := by
          simp [mark, own, document?, nothing, endings, fails, hm, hc, missing]
        rw [missing, unmarked]
        exact ht
    | _ => simp [ticket?, hm] at own
  · have other := get?_step_of_ne own
    have unmarked : a.mark t m h = h := if_neg own
    rw [unmarked]
    refine ⟨fun unborn => ht.unborn (Nat.le_trans (begun_le_step a m) unborn), ?_, ?_, ?_, ?_⟩
    · rw [other]
      exact ht.document
    · rw [other]
      exact ht.unequipped
    · rw [other]
      exact ht.equipped
    · rw [other]
      exact ht.going

theorem Traced.run {a : Activity} (ha : a.Tidy) {t : Nat} {h : Trail} (ht : a.Traced t h)
    {ms : List Move} (short : Short ms) : (a.run ms).Traced t (trail t a h ms) := by
  induction ms generalizing a h with
  | nil => exact ht
  | cons m ms ih =>
    obtain ⟨first, later⟩ := List.forall_mem_cons.mp short
    exact ih (ha.step m) (ht.step ha (List.forall_mem_singleton.mpr first)) later

/-- A move that is not one of a cycle does nothing to processes. -/
theorem handling_of_no_ticket {a : Activity} {m : Move} (h : a.ticket? m = none) :
    handling (a.step m).2 = [] := by
  cases hm : m.act with
  | lint uri source language => simp [ticket?, hm] at h
  | resume ticket reply => simp [ticket?, hm] at h
  | _ => simp [Activity.step, hm, Session.closeDocument, handling, Effect.isOnProcess]

/-- In every run, processes are handled by the moves of cycles only. A cycle that has got no linter
does nothing to any process, and a cycle that has got one is on its course, with the document and
the text with which it was begun and the executable of its linter. When it is over, its course is
full if it has not failed. It is full as well if it has failed, unless a rule file was configured
when the first process had ended, and that one was refused for a NUL or the address of the document
cannot be read. -/
theorem processes_follow_course (config : Config.LintConfig) (roots : List FilePath)
    (persists : Bool) (home : FilePath) (packaged : String) {ms : List Move} (short : Short ms)
    (t : Nat) :
    let a := (opened config roots persists home packaged).run ms
    let h := trail t (opened config roots persists home packaged) .empty ms
    (∀ m, a.ticket? m = none → handling (a.step m).2 = []) ∧
      (h.linter = none → h.handled = []) ∧
      ∀ linter, h.linter = some linter → ∃ uri source, ∃ plan : PassPlan,
        h.document = some (uri, source) ∧ plan.executable = linter.executable ∧
        plan.Course uri source ((a.cycles.get? t).map Cycle.stage) h.failed h.handled h.ends ∧
        (a.cycles.get? t = none →
          (plan.Full uri source h.handled h.ends ↔ ∀ s e, h.ends.head? = some (s, e) →
            s.config.ruleConfigPath = "" ∨ PassPlan.Passable uri e) ∧
          (h.failed = false → plan.Full uri source h.handled h.ends)) := by
  intro a h
  have traced : a.Traced t h :=
    (traced_opened config roots persists home packaged t).run (tidy_opened _ _ _ _ _) short
  refine ⟨fun m => handling_of_no_ticket, fun without => (traced.unequipped without).1,
    fun linter got => ?_⟩
  obtain ⟨uri, source, plan, document, own, course⟩ := traced.equipped linter got
  refine ⟨uri, source, plan, document, own, course, fun done => ?_⟩
  rw [done, Option.map_none] at course
  exact ⟨course.full_iff, fun returned => (returned ▸ course).full_of_returned⟩

/-- Both processes of a cycle outlast their time, and the second one is gone by itself then. That
the cycle is outdated between them makes no difference. -/
theorem outdated_course_of_late_processes :
    let config : Config.LintConfig :=
      ⟨"lute", "r.luau", none, none, ["luau"], some (.finite false 1 0)⟩
    let start := opened config [] false ⟨1, []⟩ "/lute"
    let ms : List Move := [.plain (.lint "u" "x" none), .plain (.lint "u" "y" none),
      .plain (.resume 0 (.ended (.outlasted false))), .plain (.resume 0 (.ended (.outlasted true)))]
    let h := trail 0 start .empty ms
    Short ms ∧ h.linter = some ⟨"lute", none, .explicit⟩ ∧ (start.run ms).cycles.get? 0 = none ∧
      h.handled = [.spawn ["lute", "lint", "-j", "-s", "x"] none, .kill, .await,
        .spawn ["lute", "lint", "-j", "-r", "r.luau", "-s", "x"] none, .kill] ∧
      ∃ plan : PassPlan, plan.executable = "lute" ∧ plan.Full "u" "x" h.handled h.ends := by
  intro config start ms h
  have short : Short ms := by
    intro m hm ticket e he digits
    rintro ⟨stdout, stderr, rfl, -⟩
    simp [ms, Move.plain] at hm
    rcases hm with rfl | rfl | rfl | rfl <;> simp at he
  have linter : h.linter = some ⟨"lute", none, .explicit⟩ := by cbv
  have done : (start.run ms).cycles.get? 0 = none :=
    Option.isNone_iff_eq_none.mp (by decide +kernel)
  have document : h.document = some ("u", "x") := by decide +kernel
  obtain ⟨-, -, equipped⟩ := processes_follow_course config [] false ⟨1, []⟩ "/lute" short 0
  obtain ⟨uri, source, plan, known, executable, -, finished⟩ := equipped _ linter
  obtain ⟨rfl, rfl⟩ : "u" = uri ∧ "x" = source := by
    simpa using document.symm.trans known
  have returned : h.failed = false := by decide +kernel
  exact ⟨short, linter, done, by cbv, plan, executable, (finished done).2 returned⟩

/-- With a rule file configured, a document whose address cannot be read gets no second process,
though its first one has printed an empty batch and its cycle is over. -/
theorem unreadable_address_ends_course :
    let start := configured "/opt/lute" "/opt/rules.luau"
    let ms : List Move := [.plain (.lint "file://[x" "x" (some "luau")), .answer 0]
    let h := trail 0 start .empty ms
    Short ms ∧ h.linter = some ⟨"/opt/lute", none, .explicit⟩ ∧
      (start.run ms).cycles.get? 0 = none ∧
      h.ends.map (fun p => (p.1.config.ruleConfigPath, p.2)) =
        [("/opt/rules.luau", Session.emptyBatch)] ∧
      handling (start.effects ms) = [.spawn ["/opt/lute", "lint", "-j", "-s", "x"] none] := by
  intro start ms h
  have short : Short ms := by
    intro m hm ticket e he digits
    simp [ms, Move.plain, Move.answer] at hm
    rcases hm with rfl | rfl
    · cases he
    · cases he
      exact Session.ordinary_emptyBatch.short digits
  have done : (start.run ms).cycles.get? 0 = none :=
    Option.isNone_iff_eq_none.mp (by decide +kernel)
  exact ⟨short, by cbv, done, by decide +kernel, by cbv⟩

end Activity
end LintBridge
