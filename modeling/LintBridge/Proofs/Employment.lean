import LintBridge.Proofs.Activity
/-!
The linter of a cycle among others: which move begins the first pass of which cycle, and
with which linter. A move that has to do with the linter at all begins a cycle, is a look of
a search, or changes the configuration (`Activity.Sought`).
-/
namespace LintBridge

open Effect (publications commands Quiet)

theorem Toolchain.Search.origin_of_start {explicit : String} {roots : List FilePath}
    {t : Toolchain} (h : (start explicit roots).search = .settled (some t)) :
    t.origin = .explicit := by
  unfold start at h
  split at h
  · cases h
    rfl
  · split at h <;> cases h

theorem Toolchain.Search.origin_of_step {search : Toolchain.Search} (isOpen : search.Open)
    {fs : FileSystem} {home : FilePath} {t : Toolchain}
    (h : (search.step fs home).search = .settled (some t)) : t.origin = .foreman := by
  cases search with
  | settled t => exact isOpen.elim
  | refused e => exact isOpen.elim
  | manifests roots =>
    rw [step] at h
    split at h <;> cases h
  | binary manifest =>
    simp only [step] at h
    split at h <;> cases h
    rfl

namespace Session

/-- A linter that is taken over was found, or is the bundled one. -/
theorem Adopts.found_or_bundled {s s' : Session} {fs : FileSystem} {found : Option Toolchain}
    {t : Toolchain} (h : Adopts s fs found t s') :
    found = some t ∨ found = none ∧ t.origin = .bundled ∧
      fs.isFile (.ofText s.bundledPath) = .ok true := by
  cases h with
  | explicit named => exact .inl rfl
  | discovered executable directory named => exact .inl rfl
  | bundled there => exact .inr ⟨rfl, rfl, there⟩

theorem Adopts.executable_of_bundled {now next : Session} {fs : FileSystem}
    {found : Option Toolchain} {t : Toolchain} (adopts : Adopts now fs found t next)
    (origin : t.origin = .bundled) : t.executable = now.bundledPath := by
  cases adopts with
  | explicit named => cases origin
  | discovered executable directory named => cases origin
  | bundled there => rfl

theorem Turned.home {s : Session} {fs : FileSystem} {uri source : String} {generation : Nat}
    {search : Toolchain.Search} {turn : Turn Standing}
    (h : Turned s fs uri source generation search turn) : turn.session.home = s.home := by
  cases h with
  | searching quiet isOpen => rfl
  | nothing quiet missing => rfl
  | refused quiet look => rfl
  | found quiet adopts => cases adopts <;> rfl

/-- A search puts no empty name in the place of a linter. -/
theorem Turned.named {s : Session} {fs : FileSystem} {uri source : String} {generation : Nat}
    {search : Toolchain.Search} {turn : Turn Standing}
    (h : Turned s fs uri source generation search turn) (named : s.config.executablePath ≠ "") :
    turn.session.config.executablePath ≠ "" := by
  cases h with
  | searching quiet isOpen => exact named
  | nothing quiet missing => exact named
  | refused quiet look => exact named
  | found quiet adopts =>
    cases adopts with
    | explicit _ => exact named
    | discovered executable directory other => exact other
    | bundled there => exact named

/-- A search that goes on is the one that a step has come to. -/
theorem Turned.search_of_paused {s : Session} {fs : FileSystem} {uri source : String}
    {generation : Nat} {search : Toolchain.Search} {turn : Turn Standing}
    (h : Turned s fs uri source generation search turn) {c : Cycle}
    (hc : turn.value = .paused c) {search' : Toolchain.Search}
    (stage : c.stage = .searching search') :
    search' = search ∧ search.Open := by
  cases h with
  | searching quiet isOpen =>
    cases hc
    cases stage
    exact ⟨rfl, isOpen⟩
  | nothing quiet missing => cases hc
  | refused quiet look => cases hc
  | found quiet adopts =>
    cases hc
    cases stage

/-- A step of a cycle that does not search has nothing to do with the linter. -/
theorem Resumed.passes_only {s : Session} {fs : FileSystem} {canPublish : Bool} {c : Cycle}
    {r : Reply} {turn : Turn Standing} (h : Resumed s fs canPublish c r turn)
    (busy : ∀ search, c.stage ≠ .searching search) :
    (∃ registry, turn.session = { s with registry }) ∧
      ∀ c', turn.value = .paused c' → (∀ search, c'.stage ≠ .searching search) ∧
        ∀ plan, c'.stage = .basePass plan → commands turn.effects = [] := by
  cases h with
  | idle none =>
    refine ⟨⟨s.registry, rfl⟩, ?_⟩
    rintro c' ⟨⟩
    exact ⟨busy, fun _ _ => rfl⟩
  | search none stage searched => exact absurd stage (busy _)
  | failed none quiet => exact ⟨⟨s.registry, rfl⟩, by rintro c' ⟨⟩⟩
  | rules none quiet stage rules =>
    refine ⟨⟨s.registry, rfl⟩, ?_⟩
    rintro c' ⟨⟩
    exact ⟨by simp, by simp⟩
  | @last es vs n harvest quiet =>
    obtain ⟨result, ended⟩ := finish_ended s fs canPublish c vs n
    refine ⟨finish_session s fs canPublish c vs n, ?_⟩
    intro c' hc
    rw [ended] at hc
    cases hc

end Session

namespace Activity

/-- Does a move begin the first pass of a cycle, with this linter? -/
structure Employs (a : Activity) (m : Move) (ticket : Nat) (linter : Toolchain) : Prop where
  own : a.ticket? m = some ticket
  known : (a.step m).1.session.toolchain = some linter
  pass : ∃ c, (a.step m).1.cycles.get? ticket = some c ∧
    c.stage = .basePass ((a.step m).1.session.plan linter) ∧
    commands (a.step m).2 = [Session.command ((a.step m).1.session.plan linter) none c.source]

/-- Does any move of a run begin the first pass of a cycle, with this linter? -/
def Employed : Activity → List Move → Nat → Toolchain → Prop
  | _, [], _, _ => False
  | a, m :: ms, ticket, linter => a.Employs m ticket linter ∨ Employed (a.step m).1 ms ticket linter

/-- Does a cycle search, and has its search come so far? -/
def Searching (a : Activity) (ticket : Nat) (search : Toolchain.Search) : Prop :=
  ∃ c, a.cycles.get? ticket = some c ∧ c.stage = .searching search

/-- A session after a change of its configuration. -/
def reconfigured (a : Activity) (config : Config.LintConfig) (folders : Option (List FilePath)) :
    Activity :=
  { a with session := a.session.reconfigure config folders }

/-- Everything that a move can have to do with the linter. -/
inductive Sought (a : Activity) (m : Move) : Activity × List Effect → Prop where
  | aside {out : Activity × List Effect}
    (same : ∃ registry generations toolchain, out.1.session =
      { a.session with registry, generations, toolchain })
    (linter : out.1.session.toolchain = a.session.toolchain ∨
      m.act = .shutdown ∧ out.1.session.toolchain = none)
    (searches : ∀ t search, out.1.Searching t search → a.Searching t search)
    (employs : ∀ t linter, a.Employs m t linter → t = a.begun) : Sought a m out
  | begun {uri source : String} {language : Option String} {turn : Turn Standing}
    (act : m.act = .lint uri source language) (unknown : a.session.toolchain = none)
    (turned : Session.Turned (a.session.advance uri) m.files uri source
      (a.session.generation uri + 1)
      (Toolchain.Search.start a.session.config.executablePath a.session.roots).search turn) :
    Sought a m ({ a with begun := a.begun + 1 }.settle a.begun turn, turn.effects)
  | looked {ticket : Nat} {c : Cycle} {search : Toolchain.Search} {turn : Turn Standing}
    (act : m.act = .resume ticket .looked) (cycle : a.cycles.get? ticket = some c)
    (stage : c.stage = .searching search)
    (turned : Session.Turned a.session m.files c.uri c.source c.generation
      (search.step m.files a.session.home).search turn) :
    Sought a m (a.settle ticket turn, turn.effects)
  | changed {config : Config.LintConfig} {roots : Option (List FilePath)}
    (act : m.act = .reconfigure config roots) : Sought a m (a.reconfigured config roots, [])

theorem searching_settle {a : Activity} {ticket t : Nat} {turn : Turn Standing}
    {search : Toolchain.Search} (h : (a.settle ticket turn).Searching t search) :
    (t = ticket ∧ ∃ c, turn.value = .paused c ∧ c.stage = .searching search) ∨
      t ≠ ticket ∧ a.Searching t search := by
  obtain ⟨c, hc, stage⟩ := h
  by_cases ht : t = ticket
  · subst ht
    exact .inl ⟨rfl, c, paused_of_get?_settle hc, stage⟩
  · rw [get?_settle, if_neg (Ne.symm ht)] at hc
    exact .inr ⟨ht, c, hc, stage⟩

/-- A search after a move of its cycle is the one that a step has come to. -/
theorem searching_of_turned {a : Activity} {ticket t : Nat} {s : Session} {fs : FileSystem}
    {uri source : String} {generation : Nat} {search search' : Toolchain.Search}
    {turn : Turn Standing} (turned : Session.Turned s fs uri source generation search turn)
    (h : (a.settle ticket turn).Searching t search') :
    (t = ticket ∧ search' = search ∧ search.Open) ∨
      t ≠ ticket ∧ a.Searching t search' := by
  obtain ⟨rfl, c, hc, stage⟩ | other := searching_settle h
  · exact .inl ⟨rfl, turned.search_of_paused hc stage⟩
  · exact .inr other

/-- A cycle that begins its first pass pauses in it. -/
theorem employs_settle_iff {a b : Activity} {m : Move} {ticket : Nat} {turn : Turn Standing}
    (step : a.step m = (b.settle ticket turn, turn.effects)) (own : a.ticket? m = some ticket)
    {t : Nat} {linter : Toolchain} :
    a.Employs m t linter ↔ t = ticket ∧ turn.session.toolchain = some linter ∧
      ∃ c, turn.value = .paused c ∧ c.stage = .basePass (turn.session.plan linter) ∧
        commands turn.effects = [Session.command (turn.session.plan linter) none c.source] := by
  have session : (a.step m).1.session = turn.session := by
    rw [step]
    rfl
  constructor
  · rintro ⟨own', known, c, hc, stage, started⟩
    obtain rfl : ticket = t := by simpa [own] using own'
    rw [session] at known stage started
    rw [step] at hc started
    exact ⟨rfl, known, c, paused_of_get?_settle hc, stage, started⟩
  · rintro ⟨rfl, known, c, hc, stage, started⟩
    refine ⟨own, by rw [session, known], c, ?_, by rw [session, stage], ?_⟩
    · rw [step, get?_settle, if_pos rfl, hc]
    · rw [session, step, started]

/-- A search ends with a linter if and only if its cycle begins its first pass with it. -/
theorem employs_iff_adopts {a b : Activity} {m : Move} {ticket : Nat} {turn : Turn Standing}
    (step : a.step m = (b.settle ticket turn, turn.effects)) (own : a.ticket? m = some ticket)
    {s : Session} {fs : FileSystem} {uri source : String} {generation : Nat}
    {search : Toolchain.Search}
    (turned : Session.Turned s fs uri source generation search turn) {t : Nat}
    {linter : Toolchain} :
    a.Employs m t linter ↔ t = ticket ∧
      ∃ found, search = .settled found ∧ Session.Adopts s fs found linter turn.session := by
  rw [employs_settle_iff step own]
  refine and_congr_right fun _ => ?_
  cases turned with
  | searching quiet isOpen =>
    constructor
    · rintro ⟨-, c, hc, stage, -⟩
      cases hc
      cases stage
    · rintro ⟨found, rfl, -⟩
      exact isOpen.elim
  | nothing quiet missing =>
    constructor
    · rintro ⟨-, c, hc, -⟩
      cases hc
    · rintro ⟨found, hs, adopts⟩
      cases hs
      obtain hf | ⟨-, -, there⟩ := adopts.found_or_bundled
      · cases hf
      · simp [missing] at there
  | @refused search fs' es e quiet look =>
    constructor
    · rintro ⟨-, c, hc, -⟩
      cases hc
    · rintro ⟨found, rfl, adopts⟩
      obtain refused | ⟨settled, refused⟩ := look
      · cases refused
      · cases settled
        obtain hf | ⟨-, -, there⟩ := adopts.found_or_bundled
        · cases hf
        · rw [refused] at there
          cases there
  | @found found linter' s' fs' es quiet adopts =>
    have known := adopts.taken.toolchain
    constructor
    · rintro ⟨known', c, hc, stage, started⟩
      rw [known] at known'
      cases known'
      exact ⟨found, rfl, adopts⟩
    · rintro ⟨found', hs, adopts'⟩
      have same := adopts'.taken.toolchain
      rw [known] at same
      cases same
      exact ⟨known, _, rfl, rfl, by simp [quiet.2]⟩

theorem step_lint (a : Activity) {m : Move} {uri source : String} {language : Option String}
    (hm : m.act = .lint uri source language) :
    a.step m = ({ a with begun := a.begun + 1 }.settle a.begun
      (a.session.beginCycle m.files uri source language),
      (a.session.beginCycle m.files uri source language).effects) := by
  simp [step, hm]

/-- A session whose linter is known begins a cycle with its first pass. -/
theorem beginCycle_known {s : Session} {t : Toolchain} (known : s.toolchain = some t)
    (fs : FileSystem) (uri source : String) {language : Option String}
    (linted : s.isLintable language = true) :
    s.beginCycle fs uri source language =
      ⟨s.advance uri, fs,
        Session.startPass ⟨uri, s.generation uri + 1⟩ ((s.advance uri).plan t) none source,
        .paused ⟨uri, source, s.generation uri + 1, .basePass ((s.advance uri).plan t)⟩⟩ := by
  simp [Session.beginCycle, linted, Session.startSearch, known, Session.afterSearch,
    Session.reports, Session.enterBase, Session.plan]

/-- A session whose linter is not known begins a cycle with a search. -/
theorem beginCycle_unknown {s : Session} (unknown : s.toolchain = none) (fs : FileSystem)
    (uri source : String) {language : Option String} (linted : s.isLintable language = true) :
    Session.Turned (s.advance uri) fs uri source (s.generation uri + 1)
      (Toolchain.Search.start s.config.executablePath s.roots).search
      (s.beginCycle fs uri source language) := by
  have turned := Session.turned_start (s.advance uri) fs uri source (s.generation uri + 1)
  simpa [Session.beginCycle, linted, Session.startSearch, unknown] using turned

/-- A move that leaves the suspended cycles as they are and starts no process. -/
theorem Sought.of_still {a b : Activity} {m : Move} {es : List Effect}
    (step : a.step m = (b, es)) (cycles : b.cycles = a.cycles) (still : commands es = [])
    (same : ∃ registry generations toolchain, b.session =
      { a.session with registry, generations, toolchain })
    (linter : b.session.toolchain = a.session.toolchain ∨
      m.act = .shutdown ∧ b.session.toolchain = none) :
    a.Sought m (a.step m) := by
  rw [step]
  refine .aside same linter ?_ ?_
  · rintro t search ⟨c, hc, stage⟩
    rw [cycles] at hc
    exact ⟨c, hc, stage⟩
  · rintro t linter ⟨-, -, c, -, -, started⟩
    rw [step, still] at started
    cases started

/-- A move of a cycle that does not come to another stage of a search, or to its first pass
with a linter that was not known. -/
theorem Sought.of_settle {a b : Activity} {m : Move} {ticket : Nat} {turn : Turn Standing}
    (step : a.step m = (b.settle ticket turn, turn.effects)) (cycles : b.cycles = a.cycles)
    (own : a.ticket? m = some ticket)
    (same : ∃ registry generations, turn.session = { a.session with registry, generations })
    (searches : ∀ c search, turn.value = .paused c → c.stage = .searching search →
      a.Searching ticket search)
    (passes : ∀ c plan, turn.value = .paused c → c.stage = .basePass plan →
      ticket = a.begun ∨ commands turn.effects = []) : a.Sought m (a.step m) := by
  obtain ⟨registry, generations, session⟩ := same
  rw [step]
  refine .aside ⟨registry, generations, a.session.toolchain, session⟩ ?_ ?_ ?_
  · have kept : turn.session.toolchain = a.session.toolchain := by rw [session]
    exact .inl kept
  · intro t search h
    obtain ⟨rfl, c, hc, stage⟩ | ⟨-, c, hc, stage⟩ := searching_settle h
    · exact searches c search hc stage
    · rw [cycles] at hc
      exact ⟨c, hc, stage⟩
  · intro t linter h
    obtain ⟨rfl, -, c, hc, stage, started⟩ := (employs_settle_iff step own).mp h
    obtain begun | still := passes c _ hc stage
    · exact begun
    · rw [still] at started
      cases started

theorem Tidy.sought_resume {a : Activity} (ha : a.Tidy) {m : Move} {ticket : Nat} {reply : Reply}
    (hm : m.act = .resume ticket reply) {c : Cycle} (hc : a.cycles.get? ticket = some c) :
    a.Sought m (a.step m) := by
  have step := step_resume hm hc
  have own : a.ticket? m = some ticket := by simp [ticket?, hm]
  have resumed := ha.resumed hc m.files m.canPublish reply
  obtain busy | ⟨search, hs⟩ : (∀ search, c.stage ≠ .searching search) ∨
      ∃ search, c.stage = .searching search := by
    cases c.stage <;> simp
  · obtain ⟨⟨registry, session⟩, paused⟩ := resumed.passes_only busy
    refine .of_settle step rfl own ⟨registry, a.session.generations, session⟩ ?_ ?_
    · intro c' search hc' stage
      exact absurd stage ((paused c' hc').1 search)
    · intro c' plan hc' stage
      exact .inr ((paused c' hc').2 plan stage)
  · -- A search goes on only with a look.
    cases reply with
    | looked =>
      have isOpen : search.Open := by
        have waits := ha.isOpen ticket c hc
        rwa [hs] at waits
      have turned := Session.turned_step a.session m.files c.uri c.source c.generation isOpen
      rw [step]
      refine .looked hm hc hs ?_
      rwa [Session.resume_looked hs]
    | ended e =>
      rw [Session.resume_searching hs] at step
      refine .of_settle step rfl own ⟨a.session.registry, a.session.generations, rfl⟩ ?_ ?_
      · rintro c' search' ⟨⟩ stage
        exact ⟨c, hc, stage⟩
      · intro c' plan hc' stage
        exact .inr rfl

theorem sought_lint {a : Activity} {m : Move} {uri source : String} {language : Option String}
    (hm : m.act = .lint uri source language) : a.Sought m (a.step m) := by
  have step := step_lint a hm
  have own : a.ticket? m = some a.begun := by simp [ticket?, hm]
  cases hl : a.session.isLintable language with
  | false =>
    have skipped : a.session.beginCycle m.files uri source language =
        ⟨a.session, m.files, Session.reports none [.skippedLanguage uri language],
          .ended (.ok none)⟩ := by
      simp [Session.beginCycle, hl]
    rw [skipped] at step
    refine .of_settle step rfl own ⟨a.session.registry, a.session.generations, rfl⟩ ?_ ?_
    · rintro c search ⟨⟩
    · rintro c plan ⟨⟩
  | true =>
    cases ht : a.session.toolchain with
    | some t =>
      rw [beginCycle_known ht m.files uri source hl] at step
      refine .of_settle step rfl own ⟨_, _, rfl⟩ ?_ ?_
      · rintro c search ⟨⟩ ⟨⟩
      · rintro c plan - -
        exact .inl rfl
    | none =>
      rw [step]
      exact .begun hm ht (beginCycle_unknown ht m.files uri source hl)

theorem Tidy.sought {a : Activity} (ha : a.Tidy) (m : Move) : a.Sought m (a.step m) := by
  cases hm : m.act with
  | lint uri source language => exact sought_lint hm
  | resume ticket reply =>
    cases hc : a.cycles.get? ticket with
    | none =>
      have step : a.step m = (a, []) := by simp [Activity.step, hm, hc]
      exact .of_still step rfl rfl ⟨_, _, _, rfl⟩ (.inl rfl)
    | some c => exact ha.sought_resume hm hc
  | close uri =>
    have step : a.step m = ({ a with
        session := { a.session.advance uri with registry := a.session.registry.clear uri } },
        [.publish uri []]) := by
      simp only [Activity.step, hm]
      rfl
    exact .of_still step rfl rfl ⟨_, _, _, rfl⟩ (.inl rfl)
  | reconfigure config roots =>
    simp only [Activity.step, hm]
    exact .changed hm
  | query uri range =>
    have step : a.step m = (a, []) := by simp [Activity.step, hm]
    exact .of_still step rfl rfl ⟨_, _, _, rfl⟩ (.inl rfl)
  | shutdown =>
    have step : a.step m = ({ a with session := a.session.shutdown }, []) := by
      simp [Activity.step, hm]
    exact .of_still step rfl rfl ⟨_, _, _, rfl⟩ (.inr ⟨hm, rfl⟩)

variable {a b : Activity} {w : List Move} {m : Move}

/-- A cycle begins its first pass during a run if it does so with one of its moves. -/
theorem employed_iff {ms : List Move} {t : Nat} {linter : Toolchain} :
    a.Employed ms t linter ↔ ∃ w m, w ++ [m] <+: ms ∧ (a.run w).Employs m t linter := by
  induction ms generalizing a with
  | nil => simp [Employed]
  | cons first rest ih =>
    simp only [Employed, ih]
    constructor
    · rintro (employs | ⟨w, m, before, employs⟩)
      · exact ⟨[], first, by simp, employs⟩
      · exact ⟨first :: w, m, by simpa using before, employs⟩
    · rintro ⟨w, m, before, employs⟩
      cases w with
      | nil =>
        obtain ⟨rfl, -⟩ := List.cons_prefix_cons.mp before
        exact .inl employs
      | cons head w =>
        obtain ⟨rfl, before⟩ := List.cons_prefix_cons.mp (by simpa using before)
        exact .inr ⟨w, m, by simpa using before, employs⟩

/-- Something happens in a run with one more move if it does so before or with that move. -/
theorem exists_prefix_concat {P : List Move → Move → Prop} :
    (∃ v m', v ++ [m'] <+: w ++ [m] ∧ P v m') ↔ (∃ v m', v ++ [m'] <+: w ∧ P v m') ∨ P w m := by
  simp only [List.prefix_concat_iff]
  constructor
  · rintro ⟨v, m', same | before, happens⟩
    · obtain ⟨rfl, rfl⟩ := List.append_singleton_inj.mp same
      exact .inr happens
    · exact .inl ⟨v, m', before, happens⟩
  · rintro (⟨v, m', before, happens⟩ | happens)
    · exact ⟨v, m', .inr before, happens⟩
    · exact ⟨w, m, .inl rfl, happens⟩

theorem employed_concat {t : Nat} {linter : Toolchain} :
    b.Employed (w ++ [m]) t linter ↔ b.Employed w t linter ∨ (b.run w).Employs m t linter := by
  simp only [employed_iff, exists_prefix_concat]

/-- A linter that is known is employed by a cycle at its beginning. -/
theorem employs_known {linter : Toolchain} (known : a.session.toolchain = some linter)
    {uri source : String} {language : Option String} (hm : m.act = .lint uri source language)
    (linted : a.session.isLintable language = true) : a.Employs m a.begun linter := by
  have step := step_lint a hm
  rw [beginCycle_known known m.files uri source linted] at step
  exact (employs_settle_iff step (by simp [ticket?, hm])).mpr ⟨rfl, known, _, rfl, rfl, rfl⟩

/-- A search that ends with a linter was under way before, and what it ends with is taken over. -/
theorem Tidy.adopts_of_employs (ha : a.Tidy) {t : Nat} {linter : Toolchain}
    (employs : a.Employs m t linter) (early : t < a.begun) :
    ∃ search found, search.Open ∧ a.Searching t search ∧
      (search.step m.files a.session.home).search = .settled found ∧
      Session.Adopts a.session m.files found linter (a.step m).1.session := by
  have sought := ha.sought m
  generalize step : a.step m = out at sought
  cases sought with
  | aside session kept searches employed =>
    have := employed t linter employs
    omega
  | @begun uri source language turn act unknown turned =>
    obtain ⟨rfl, -⟩ := (employs_iff_adopts step (by simp [ticket?, act]) turned).mp employs
    omega
  | @looked ticket c search turn act cycle stage turned =>
    obtain ⟨rfl, found, settled, adopts⟩ :=
      (employs_iff_adopts step (by simp [ticket?, act]) turned).mp employs
    have isOpen : search.Open := by
      have waits := ha.isOpen t c cycle
      rwa [stage] at waits
    exact ⟨search, found, isOpen, ⟨c, cycle, stage⟩, settled, adopts⟩
  | changed act =>
    have own := employs.own
    simp [ticket?, act] at own

/-- A search that was begun before ends with a discovery, which is then in the configuration, or
with the bundled linter. -/
theorem Tidy.discovered_or_bundled (ha : a.Tidy) {t : Nat} {linter : Toolchain}
    (employs : a.Employs m t linter) (early : t < a.begun) :
    (∃ executable directory, executable ≠ "" ∧
        linter = ⟨executable, some directory, .foreman⟩ ∧
        (a.step m).1.session.config = { a.session.config with
          executablePath := executable, manifestDirectory := some directory }) ∨
      linter.origin = .bundled := by
  obtain ⟨search, found, isOpen, -, settled, adopts⟩ := ha.adopts_of_employs employs early
  generalize (a.step m).1.session = next at adopts
  cases adopts with
  | explicit named => cases Toolchain.Search.origin_of_step isOpen settled
  | discovered executable directory named => exact .inl ⟨executable, directory, named, rfl, rfl⟩
  | bundled there => exact .inr rfl

end Activity
end LintBridge
