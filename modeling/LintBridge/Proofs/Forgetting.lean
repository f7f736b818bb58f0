import LintBridge.Proofs.Passes
import LintBridge.Proofs.Survival
/-!
A discovery that is forgotten. While cycles run one after the other, the linter that was found
through a manifest is also the one of the configuration. So it makes no difference for the
processes that start from then on whether the linter is still known, or was dropped and is taken
from the configuration (`Activity.forgetting_keeps_linter`).
-/
namespace LintBridge

open Effect (commands Quiet)

namespace Session

/-- Does a session suit a suspended cycle that is its only one? It knows no linter during a search,
and during the passes the one that they follow. -/
def Suits (s : Session) : Stage → Prop
  | .searching _ => s.toolchain = none
  | .basePass plan | .rulesPass plan _ _ => ∃ t, s.toolchain = some t ∧ plan = s.plan t

theorem Turned.suits {s : Session} {fs : FileSystem} {uri source : String} {generation : Nat}
    {search : Toolchain.Search} {turn : Turn Standing}
    (h : Turned s fs uri source generation search turn) (unknown : s.toolchain = none) {c : Cycle}
    (hc : turn.value = .paused c) : turn.session.Suits c.stage := by
  cases h with
  | searching quiet isOpen =>
    cases hc
    exact unknown
  | nothing quiet missing => cases hc
  | refused quiet look => cases hc
  | found quiet adopts =>
    cases hc
    exact ⟨_, adopts.taken.toolchain, rfl⟩

theorem suits_beginCycle {s : Session} (fs : FileSystem) (uri source : String)
    {language : Option String} (linted : s.isLintable language = true) {c : Cycle}
    (hc : (s.beginCycle fs uri source language).value = .paused c) :
    (s.beginCycle fs uri source language).session.Suits c.stage := by
  cases ht : s.toolchain with
  | some t =>
    rw [Activity.beginCycle_known ht fs uri source linted] at hc ⊢
    cases hc
    exact ⟨t, ht, rfl⟩
  | none => exact (Activity.beginCycle_unknown ht fs uri source linted).suits ht hc

theorem Suits.follows {s : Session} {stage : Stage} (h : s.Suits stage)
    (busy : ∀ search, stage ≠ .searching search) :
    ∃ t, s.toolchain = some t ∧ Follows (s.plan t) stage := by
  cases stage with
  | searching search => exact absurd rfl (busy search)
  | basePass plan =>
    obtain ⟨t, known, rfl⟩ := h
    exact ⟨t, known, .base⟩
  | rulesPass plan path found =>
    obtain ⟨t, known, rfl⟩ := h
    exact ⟨t, known, .rules path found⟩

theorem suits_of_follows {s : Session} {t : Toolchain} (known : s.toolchain = some t)
    {stage : Stage} (h : Follows (s.plan t) stage) : s.Suits stage := by
  cases h with
  | base => exact ⟨t, known, rfl⟩
  | rules path found => exact ⟨t, known, rfl⟩

theorem Suits.resume {s : Session} {c : Cycle} (h : s.Suits c.stage)
    (isOpen : c.stage.Open) (fs : FileSystem) (canPublish : Bool)
    (r : Reply) {c' : Cycle} (hc : (s.resume fs canPublish c r).value = .paused c') :
    (s.resume fs canPublish c r).session.Suits c'.stage := by
  obtain busy | ⟨search, stage⟩ : (∀ search, c.stage ≠ .searching search) ∨
      ∃ search, c.stage = .searching search := by
    cases c.stage <;> simp
  · obtain ⟨t, known, follows⟩ := h.follows busy
    obtain ⟨⟨registry, session⟩, -⟩ := (s.resumed fs canPublish c r isOpen).passes_only busy
    have next := (resume_follows follows fs canPublish r).2 c' hc
    rw [session]
    exact suits_of_follows known next
  · cases r with
    | looked =>
      have unfinished : search.Open := by rwa [stage] at isOpen
      have unknown : s.toolchain = none := by rwa [stage] at h
      have turned := turned_step s fs c.uri c.source c.generation unfinished
      rw [resume_looked stage] at hc ⊢
      exact turned.suits unknown hc
    | ended e =>
      rw [resume_searching stage] at hc ⊢
      cases hc
      exact h

end Session

namespace Activity

/-- While a cycle is suspended, nothing happens but that it goes on. -/
def Sequential : Activity → List Move → Prop
  | _, [] => True
  | a, m :: ms => ((∃ t c, a.cycles.get? t = some c) → ∃ t reply, m.act = .resume t reply) ∧
    Sequential (a.step m).1 ms

/-- At most one cycle is suspended, and the session suits it. -/
structure Alone (a : Activity) : Prop where
  single : ∀ t c t' c', a.cycles.get? t = some c → a.cycles.get? t' = some c' → t = t'
  suits : ∀ t c, a.cycles.get? t = some c → a.session.Suits c.stage

/-- Nothing is said of a session without a suspended cycle. -/
theorem alone_of_none {a : Activity} (h : ∀ t, a.cycles.get? t = none) : a.Alone := by
  constructor
  · intro t c t' c' hc
    rw [h t] at hc
    cases hc
  · intro t c hc
    rw [h t] at hc
    cases hc

/-- A cycle that pauses is the only one if no other one was suspended. -/
theorem alone_settle {a : Activity} {ticket : Nat} {turn : Turn Standing}
    (others : ∀ t, t ≠ ticket → a.cycles.get? t = none)
    (suits : ∀ c, turn.value = .paused c → turn.session.Suits c.stage) :
    (a.settle ticket turn).Alone := by
  have own {t : Nat} {c : Cycle} (hc : (a.settle ticket turn).cycles.get? t = some c) :
      t = ticket := by
    by_contra other
    rw [get?_settle, if_neg (Ne.symm other), others t other] at hc
    cases hc
  constructor
  · intro t c t' c' hc hc'
    rw [own hc, own hc']
  · intro t c hc
    obtain rfl := own hc
    exact suits c (paused_of_get?_settle hc)

theorem Alone.step {a : Activity} (ha : a.Tidy) (h : a.Alone) {m : Move}
    (turn : (∃ t c, a.cycles.get? t = some c) → ∃ t reply, m.act = .resume t reply) :
    (a.step m).1.Alone := by
  have idle (other : ∀ t reply, m.act ≠ .resume t reply) (t : Nat) : a.cycles.get? t = none := by
    cases hc : a.cycles.get? t with
    | none => rfl
    | some c =>
      obtain ⟨t', reply, hm⟩ := turn ⟨t, c, hc⟩
      exact absurd hm (other t' reply)
  cases hm : m.act with
  | lint uri source language =>
    rw [step_lint a hm]
    refine alone_settle (fun t _ => idle (by simp [hm]) t) fun c hc => ?_
    cases linted : a.session.isLintable language with
    | false => simp [Session.beginCycle, linted] at hc
    | true => exact Session.suits_beginCycle m.files uri source linted hc
  | resume ticket reply =>
    cases hc : a.cycles.get? ticket with
    | none =>
      have same : (a.step m).1 = a := by simp [Activity.step, hm, hc]
      rw [same]
      exact h
    | some c =>
      rw [step_resume hm hc]
      refine alone_settle (fun t other => ?_) fun c' hc' =>
        (h.suits ticket c hc).resume (ha.isOpen ticket c hc) m.files m.canPublish reply hc'
      cases ht : a.cycles.get? t with
      | none => rfl
      | some c' => exact absurd (h.single t c' ticket c ht hc) other
  | _ =>
    refine alone_of_none fun t => ?_
    rw [get?_step_of_ne (by simp [ticket?, hm])]
    exact idle (by simp [hm]) t

theorem Alone.run {a : Activity} (ha : a.Tidy) (h : a.Alone) {ms : List Move}
    (sequential : a.Sequential ms) : (a.run ms).Alone := by
  induction ms generalizing a with
  | nil => exact h
  | cons m ms ih => exact ih (ha.step m) (h.step ha sequential.1) sequential.2

end Activity

namespace Session

/-- Does a configuration name a linter and the directory in which it is found? -/
structure Names (config : Config.LintConfig) (t : Toolchain) : Prop where
  filled : t.executable ≠ ""
  executable : config.executablePath = t.executable
  found : t.ruleDirectory ≠ none
  directory : config.manifestDirectory = t.ruleDirectory

/-- A linter that was found through a manifest is named by the configuration. -/
theorem Known.names {s : Session} {t : Toolchain} (h : s.Known t) (foreman : t.origin = .foreman) :
    Names s.config t := by
  cases h with
  | explicit named => cases foreman
  | foreman directory named kept => exact ⟨named, rfl, by simp, kept⟩
  | bundled => cases foreman

/-- How a configuration runs a linter that it names. -/
def runOf (config : Config.LintConfig) (t : Toolchain) : PassPlan :=
  ⟨t.executable, t.ruleDirectory, config.timeout.map .real⟩

/-- A session of a configuration that knows a linter, or takes its executable from there, or
knows none. -/
structure Retains (config : Config.LintConfig) (t : Toolchain) (s : Session) : Prop where
  config : s.config = config
  linter : ∀ t', s.toolchain = some t' → t' = t ∨ t' = ⟨t.executable, none, .explicit⟩

section
variable {config : Config.LintConfig} {t : Toolchain} {s s' : Session}

theorem Retains.of_same (h : s.Retains config t) (hc : s'.config = s.config)
    (ht : s'.toolchain = s.toolchain ∨ s'.toolchain = none) : s'.Retains config t := by
  refine ⟨hc.trans h.config, fun t' known => ?_⟩
  obtain same | none := ht
  · exact h.linter t' (same.symm.trans known)
  · rw [none] at known
    cases known

/-- A linter that is named is run in the same way whether it is known or was forgotten. -/
theorem Retains.plan_eq (names : Names config t) (h : s.Retains config t) {t' : Toolchain}
    (known : s.toolchain = some t') : s.plan t' = runOf config t := by
  obtain ⟨directory, hd⟩ := Option.ne_none_iff_exists'.mp names.found
  obtain rfl | rfl := h.linter t' known
  · simp [plan, runOf, workingDirectory, h.config, names.directory, hd]
  · simp [plan, runOf, workingDirectory, h.config, names.directory]

/-- A cycle begins with its first pass at once. -/
theorem Retains.beginCycle (names : Names config t) (h : s.Retains config t) (fs : FileSystem)
    (uri source : String) {language : Option String} (linted : s.isLintable language = true) :
    let turn := s.beginCycle fs uri source language
    turn.session.Retains config t ∧
      commands turn.effects = [command (runOf config t) none source] ∧
      ∀ c, turn.value = .paused c → Follows (runOf config t) c.stage := by
  intro turn
  cases known : s.toolchain with
  | some t' =>
    have begun : turn = _ := Activity.beginCycle_known known fs uri source linted
    have plan : (s.advance uri).plan t' = runOf config t := h.plan_eq names known
    rw [begun, plan]
    refine ⟨h.of_same rfl (.inl rfl), rfl, ?_⟩
    rintro c ⟨⟩
    exact .base
  | none =>
    have turned := Activity.beginCycle_unknown known fs uri source linted
    have named : s.config.executablePath = t.executable := by rw [h.config, names.executable]
    have start : (Toolchain.Search.start s.config.executablePath s.roots).search =
        .settled (some ⟨s.config.executablePath, none, .explicit⟩) := by
      simp [Toolchain.Search.start, named, names.filled]
    rw [start] at turned
    change Turned _ _ _ _ _ _ turn at turned
    generalize turn = turn at turned
    cases turned with
    | searching quiet isOpen => exact isOpen.elim
    | refused quiet look => simp at look
    | @found _ t' s' fs' es quiet adopts =>
      have retains : s'.Retains config t := by
        cases adopts with
        | explicit _ =>
          refine ⟨h.config, ?_⟩
          rintro t' ⟨⟩
          rw [advance_config, named]
          exact .inr rfl
      rw [retains.plan_eq names adopts.taken.toolchain]
      refine ⟨retains, by simp [quiet.2], ?_⟩
      rintro c ⟨⟩
      exact .base

end

end Session

namespace Activity

/-- The configuration is replaced by nothing but itself, with whatever folders. -/
def KeepsConfiguration : Activity → List Move → Prop
  | _, [] => True
  | a, m :: ms =>
    (∀ config roots, m.act = .reconfigure config roots → config = a.session.config) ∧
      KeepsConfiguration (a.step m).1 ms

/-- A session and its suspended cycles, when all of them run a linter that is named. -/
structure Settled (config : Config.LintConfig) (t : Toolchain) (a : Activity) : Prop where
  session : a.session.Retains config t
  cycles : ∀ ticket c, a.cycles.get? ticket = some c →
    Session.Follows (Session.runOf config t) c.stage

section
variable {config : Config.LintConfig} {t : Toolchain} {a : Activity}

theorem settled_settle
    (cycles : ∀ ticket c, a.cycles.get? ticket = some c →
      Session.Follows (Session.runOf config t) c.stage)
    {ticket : Nat} {turn : Turn Standing} (session : turn.session.Retains config t)
    (follows : ∀ c, turn.value = .paused c → Session.Follows (Session.runOf config t) c.stage) :
    (a.settle ticket turn).Settled config t := by
  refine ⟨session, fun other c hc => ?_⟩
  by_cases own : other = ticket
  · subst own
    exact follows c (paused_of_get?_settle hc)
  · rw [get?_settle, if_neg (Ne.symm own)] at hc
    exact cycles other c hc

/-- Every process that a move starts runs the linter in its directory. -/
theorem Settled.step (names : Session.Names config t) (h : a.Settled config t) {m : Move}
    (same : ∀ config roots, m.act = .reconfigure config roots → config = a.session.config) :
    (a.step m).1.Settled config t ∧
      ∀ command ∈ commands (a.step m).2, Command.Runs t.executable t.ruleDirectory command := by
  cases hm : m.act with
  | lint uri source language =>
    rw [step_lint a hm]
    cases linted : a.session.isLintable language with
    | false =>
      have skipped : a.session.beginCycle m.files uri source language = ⟨a.session, m.files,
          Session.reports none [.skippedLanguage uri language], .ended (.ok none)⟩ := by
        simp [Session.beginCycle, linted]
      rw [skipped]
      refine ⟨settled_settle ?_ h.session (by rintro c ⟨⟩), ?_⟩
      · exact h.cycles
      · simp [(Session.quiet_reports _ _).2]
    | true =>
      obtain ⟨session, started, follows⟩ :=
        h.session.beginCycle names m.files uri source linted
      refine ⟨settled_settle ?_ session follows, ?_⟩
      · exact h.cycles
      · rw [started]
        simp [Command.Runs, Session.command, Command.line, Session.runOf]
  | resume ticket reply =>
    cases hc : a.cycles.get? ticket with
    | none =>
      have missing : a.step m = (a, []) := by simp [Activity.step, hm, hc]
      rw [missing]
      exact ⟨h, by simp⟩
    | some c =>
      have follows := h.cycles ticket c hc
      have busy : ∀ search, c.stage ≠ .searching search := by
        intro search hs
        rw [hs] at follows
        cases follows
      have isOpen : c.stage.Open := by
        cases stage : c.stage with
        | searching search => exact absurd stage (busy search)
        | _ => trivial
      have resumed := a.session.resumed m.files m.canPublish c reply isOpen
      obtain ⟨⟨registry, session⟩, -⟩ := resumed.passes_only busy
      obtain ⟨started, next⟩ := Session.resume_follows follows m.files m.canPublish reply
      rw [step_resume hm hc]
      refine ⟨settled_settle h.cycles ?_ next, started⟩
      rw [session]
      exact h.session.of_same rfl (.inl rfl)
  | close uri =>
    simp only [Activity.step, hm]
    exact ⟨⟨h.session.of_same rfl (.inl rfl), h.cycles⟩, by simp [Session.closeDocument, commands]⟩
  | reconfigure config roots =>
    obtain rfl := same config roots hm
    simp only [Activity.step, hm]
    exact ⟨⟨h.session.of_same rfl (.inr rfl), h.cycles⟩, by simp⟩
  | query uri range =>
    simp only [Activity.step, hm]
    exact ⟨h, by simp⟩
  | shutdown =>
    simp only [Activity.step, hm]
    exact ⟨⟨h.session.of_same rfl (.inr rfl), h.cycles⟩, by simp⟩

theorem Settled.run (names : Session.Names config t) (h : a.Settled config t) {ms : List Move}
    (own : a.KeepsConfiguration ms) :
    (a.run ms).Settled config t ∧
      ∀ command ∈ commands (a.effects ms), Command.Runs t.executable t.ruleDirectory command := by
  induction ms generalizing a with
  | nil => exact ⟨h, by simp⟩
  | cons m ms ih =>
    obtain ⟨next, first⟩ := h.step names own.1
    obtain ⟨last, later⟩ := ih next own.2
    refine ⟨last, ?_⟩
    rw [effects_cons, Effect.commands_append]
    exact List.forall_mem_append.mpr ⟨first, later⟩

end

/-- A linter that was found through a manifest while cycles ran one after the other may be
forgotten: as long as the configuration is replaced by nothing but itself, every process that is
started, in whatever order and whatever becomes of the files, runs it in its directory, and every
document that is linted gets such a process at once. -/
theorem forgetting_keeps_linter (config : Config.LintConfig) (roots : List FilePath)
    (persists : Bool) (home : FilePath) (packaged : String) {before later : List Move}
    (sequential : (opened config roots persists home packaged).Sequential before) {t : Toolchain}
    (known : ((opened config roots persists home packaged).run before).session.toolchain = some t)
    (foreman : t.origin = .foreman)
    (own : ((opened config roots persists home packaged).run before).KeepsConfiguration later) :
    let a := (opened config roots persists home packaged).run before
    a.session.workingDirectory t = t.ruleDirectory ∧
      (∀ command ∈ commands (a.effects later),
        Command.Runs t.executable t.ruleDirectory command) ∧
      (a.run later).session.config = a.session.config ∧
      (∀ t', (a.run later).session.toolchain = some t' →
        t' = t ∨ t' = ⟨t.executable, none, .explicit⟩) ∧
      ∀ m uri source language, m.act = .lint uri source language →
        a.session.isLintable language = true →
          ∃ first, commands ((a.run later).step m).2 = [first] ∧
            Command.Runs t.executable t.ruleDirectory first := by
  intro a
  have tidy := tidy_opened config roots persists home packaged
  have unknown : (opened config roots persists home packaged).session.Consistent := by
    rintro t ⟨⟩
  have consistent := tidy.run_keeps consistent_step unknown before
  have names := (consistent t known).names foreman
  have retains : a.session.Retains a.session.config t := by
    refine ⟨rfl, fun t' known' => ?_⟩
    rw [known] at known'
    exact .inl (Option.some.inj known').symm
  have alone := (alone_of_none (fun t => rfl)).run tidy sequential
  have settled : a.Settled a.session.config t := by
    refine ⟨retains, fun ticket c hc => ?_⟩
    have suits := alone.suits ticket c hc
    have busy : ∀ search, c.stage ≠ .searching search := by
      intro search hs
      rw [hs] at suits
      exact absurd (suits.symm.trans known) (by simp)
    obtain ⟨t', known', follows⟩ := suits.follows busy
    rwa [retains.plan_eq names known'] at follows
  obtain ⟨last, started⟩ := settled.run names own
  refine ⟨?_, started, last.session.config, last.session.linter, ?_⟩
  · exact congrArg PassPlan.cwd (retains.plan_eq names known)
  · intro m uri source language hm linted
    have linted' : (a.run later).session.isLintable language = true := by
      simpa [Session.isLintable, last.session.config] using linted
    obtain ⟨-, begun, -⟩ := last.session.beginCycle names m.files uri source linted'
    rw [step_lint _ hm]
    exact ⟨_, begun, rfl, rfl⟩

/-- The linter of a folder is forgotten twice, with the folder closed and all files gone, and is
run again for each document. -/
theorem forgetting_with_vanished_files :
    let before := searchedFolder ++ [⟨.resume 0 .looked, equippedFiles, true⟩, .answer 0]
    let a := folderOpened.run before
    let later : List Move := [.plain (.reconfigure a.session.config (some [])),
      .plain (.lint "u" "y" none), .plain .shutdown, .plain (.lint "v" "z" none), .answer 1]
    folderOpened.Sequential before ∧ a.session.toolchain = some discovered ∧
      a.KeepsConfiguration later ∧
      commands (a.effects later) = [⟨[discovered.executable, "lint", "-j", "-s", "y"], some "/w"⟩,
        ⟨[discovered.executable, "lint", "-j", "-s", "z"], some "/w"⟩] ∧
      (∀ command ∈ commands (a.effects later),
        Command.Runs discovered.executable discovered.ruleDirectory command) ∧
      (a.run later).session.toolchain = some ⟨discovered.executable, none, .explicit⟩ := by
  intro before a later
  have sequential : folderOpened.Sequential before := by
    refine ⟨?_, fun _ => ⟨_, _, rfl⟩, fun _ => ⟨_, _, rfl⟩, fun _ => ⟨_, _, rfl⟩, trivial⟩
    rintro ⟨t, c, ⟨⟩⟩
  have known : a.session.toolchain = some discovered := by decide +kernel
  have own : a.KeepsConfiguration later := by
    refine ⟨?_, by simp [Move.plain], by simp [Move.plain], by simp [Move.plain],
      by simp [Move.answer, Move.plain], trivial⟩
    rintro config roots ⟨⟩
    rfl
  have kept := forgetting_keeps_linter (linterConfig "") [⟨1, [['w']]⟩] false ⟨1, [['h']]⟩ "/lute"
    sequential known rfl own
  exact ⟨sequential, known, own, by decide +kernel, kept.2.1, by decide +kernel⟩

end Activity
end LintBridge
