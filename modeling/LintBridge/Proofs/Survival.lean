import LintBridge.Proofs.Discovery
import LintBridge.Proofs.Recall
import LintBridge.Proofs.Escapes
import LintBridge.Proofs.Records
/-!
What becomes of a discovery in later sessions. A session writes the linter that it has found below
the folder of the manifest; a later one reads the record of its first folder. So a discovery
survives exactly if that record is the one that was written, as it is if the manifest stands in the
first folder (`Server.discovery_survives_iff`).
-/
namespace LintBridge

open Effect (commands)

namespace Session

/-- A stage with a process, by its plan. -/
inductive Follows (plan : PassPlan) : Stage → Prop
  | base : Follows plan (.basePass plan)
  | rules (path : String) (found : List Violation) : Follows plan (.rulesPass plan path found)

/-- Every process of a cycle follows the plan of its first one. -/
theorem resume_follows {s : Session} {c : Cycle} {plan : PassPlan} (h : Follows plan c.stage)
    (fs : FileSystem) (canPublish : Bool) (r : Reply) :
    (∀ command ∈ commands (s.resume fs canPublish c r).effects,
        Command.Runs plan.executable plan.cwd command) ∧
      ∀ c', (s.resume fs canPublish c r).value = .paused c' → Follows plan c'.stage := by
  have busy : ∀ search, c.stage ≠ .searching search := by
    rintro search hs
    rw [hs] at h
    cases h
  have isOpen : c.stage.Open := by
    generalize c.stage = stage at h ⊢
    cases h <;> trivial
  have resumed := s.resumed fs canPublish c r isOpen
  generalize s.resume fs canPublish c r = turn at resumed
  cases resumed with
  | idle none =>
    refine ⟨by simp, ?_⟩
    rintro c' ⟨⟩
    exact h
  | search none stage searched => exact absurd stage (busy _)
  | failed none quiet => exact ⟨by simp [quiet.2], by rintro c' ⟨⟩⟩
  | @rules es plan' path vs none quiet stage rules =>
    rw [stage] at h
    cases h
    refine ⟨by simp [quiet.2, Command.Runs, command, Command.line], ?_⟩
    rintro c' ⟨⟩
    exact .rules path vs
  | @last es vs n harvest quiet =>
    obtain ⟨result, ended⟩ := finish_ended s fs canPublish c vs n
    refine ⟨by simp [quiet.2, commands_finish], ?_⟩
    intro c' hc
    rw [ended] at hc
    cases hc

/-- A cycle starts its further processes after those that it has started. -/
theorem playFuel_follows {plan : PassPlan} (canPublish : Bool) (hold : Option Nat) (fuel : Nat)
    {turn : Turn Standing} (h : ∀ c, turn.value = .paused c → Follows plan c.stage)
    (ends : List ProcessEnd) (started : Nat) :
    ∃ more, commands (playFuel canPublish hold fuel turn ends started).effects =
        commands turn.effects ++ more ∧
      ∀ command ∈ more, Command.Runs plan.executable plan.cwd command := by
  have still (turn : Turn Standing) :
      ∃ more, commands turn.effects = commands turn.effects ++ more ∧
        ∀ command ∈ more, Command.Runs plan.executable plan.cwd command := ⟨[], by simp⟩
  induction fuel generalizing turn ends started with
  | zero =>
    rw [playFuel]
    cases turn.value <;> exact still turn
  | succ fuel ih =>
    rw [playFuel]
    cases hv : turn.value with
    | ended result => exact still turn
    | paused c =>
      have next (r : Reply) (ends : List ProcessEnd) (started : Nat) :
          ∃ more, commands (playFuel canPublish hold fuel
              (after turn.effects (turn.session.resume turn.files canPublish c r)) ends
                started).effects = commands turn.effects ++ more ∧
            ∀ command ∈ more, Command.Runs plan.executable plan.cwd command := by
        obtain ⟨first, follows⟩ := resume_follows (s := turn.session) (h c hv) turn.files
          canPublish r
        obtain ⟨more, all, later⟩ := @ih (after turn.effects
          (turn.session.resume turn.files canPublish c r)) follows ends started
        refine ⟨_, all.trans ?_, List.forall_mem_append.mpr ⟨first, later⟩⟩
        simp [after]
      dsimp only
      split
      · split
        · exact still turn
        · exact next _ _ _
      · exact next _ _ _

/-- Every process that a session starts for a document runs an executable in a directory, and for
a document that is linted there is one. -/
def RunsIn (s : Session) (executable directory : String) : Prop :=
  ∀ (fs : FileSystem) (canPublish : Bool) (hold : Option Nat) (uri source : String)
    (language : Option String) (ends : List ProcessEnd), s.isLintable language = true →
    ∃ first more,
      commands (s.lintDocument fs canPublish hold uri source language ends).effects =
        first :: more ∧
      ∀ command ∈ first :: more, Command.Runs executable (some directory) command

/-- A cycle that begins with its first pass. -/
theorem runsIn_of_pass {s : Session} (plan : PassPlan) {directory : String}
    (cwd : plan.cwd = some directory)
    (begins : ∀ fs uri source language, s.isLintable language = true →
      commands (s.beginCycle fs uri source language).effects = [command plan none source] ∧
        ∀ c, (s.beginCycle fs uri source language).value = .paused c → Follows plan c.stage) :
    s.RunsIn plan.executable directory := by
  intro fs canPublish hold uri source language ends linted
  obtain ⟨first, follows⟩ := begins fs uri source language linted
  obtain ⟨more, all, later⟩ := playFuel_follows canPublish hold cycleSteps follows ends 0
  refine ⟨_, more, by rw [lintDocument, all, first]; rfl, List.forall_mem_cons.mpr ⟨?_, ?_⟩⟩
  · exact ⟨rfl, cwd⟩
  · rw [← cwd]
    exact later

/-- Does a configuration name the linter of a discovery, and its directory? -/
def Recalls (s : Session) (t : Toolchain) : Prop :=
  s.config.executablePath = t.executable ∧ s.config.manifestDirectory = t.ruleDirectory

/-- A session that knows its linter. -/
theorem runsIn_known {s : Session} {t : Toolchain} {directory : String}
    (known : s.toolchain = some t) (cwd : s.workingDirectory t = some directory) :
    s.RunsIn t.executable directory := by
  refine runsIn_of_pass (s.plan t) cwd fun fs uri source language linted => ?_
  rw [Activity.beginCycle_known known fs uri source linted]
  refine ⟨rfl, ?_⟩
  rintro c ⟨⟩
  exact .base

/-- A session whose configuration names the linter and its directory. -/
theorem runsIn_named {s : Session} {directory : String} (unknown : s.toolchain = none)
    (named : s.config.executablePath ≠ "") (cwd : s.config.manifestDirectory = some directory) :
    s.RunsIn s.config.executablePath directory := by
  refine runsIn_of_pass ⟨s.config.executablePath, s.config.manifestDirectory,
    s.config.timeout.map .real⟩ cwd fun fs uri source language linted => ?_
  have turned := Activity.beginCycle_unknown unknown fs uri source linted
  have start : (Toolchain.Search.start s.config.executablePath s.roots).search =
      .settled (some ⟨s.config.executablePath, none, .explicit⟩) := by
    simp [Toolchain.Search.start, named]
  rw [start] at turned
  generalize s.beginCycle fs uri source language = turn at turned
  cases turned with
  | searching quiet isOpen => exact isOpen.elim
  | refused quiet look => obtain h | ⟨h, -⟩ := look <;> cases h
  | found quiet adopts =>
    cases adopts with
    | explicit _ =>
      refine ⟨by simp [quiet.2, plan, workingDirectory], ?_⟩
      rintro c ⟨⟩
      exact .base

end Session

namespace Server

open Config

/-- What an editor has set for the program, as a caller's settings. -/
def given (s : Server) : Value.Entries :=
  (settingsSections s.settings).map fun e => (.text e.1, e.2)

/-- Work goes on from where it came to. -/
theorem run_bind_of_ok {α β : Type} {x : Handling α} {f : α → Handling β} {w w' : Work} {a : α}
    (h : x.run w = (.ok a, w')) : (x >>= f).run w = (f a).run w' := by
  rw [ExceptT.run_bind]
  simp only [bind, StateT.bind, h]

theorem run_get_bind {α : Type} (f : Work → Handling α) (w : Work) :
    ((get : Handling Work) >>= f).run w = (f w).run w := rfl

theorem run_attempt_ok {α β : Type} (a : α) (f : α → Handling β) (w : Work) :
    (attempt (.ok a) >>= f).run w = (f a).run w := rfl

theorem run_bind_of_error {α β : Type} {x : Handling α} {f : α → Handling β} {w w' : Work}
    {failure : Failure} (h : x.run w = (.error failure, w')) :
    (x >>= f).run w = (.error failure, w') := by
  rw [ExceptT.run_bind]
  simp only [bind, StateT.bind, h]
  rfl

/-- A session starts from what the server makes of the configuration. -/
theorem ensureSession_run {around : Surroundings} {w : Work} {roots : List FilePath}
    (fresh : w.server.session = none) (hr : w.server.roots = .ok roots) :
    ((ensureSession around).run w).1 = ((loadConfig around roots).run w).1.map fun config =>
      Session.fresh (config.getD .default) roots true w.files.home around.packaged := by
  obtain ⟨config, es, read⟩ : ∃ config es,
      (loadConfig around roots).run w = (config, w.did es) := by
    obtain ⟨es, -, read⟩ := loadConfig_run around roots w
    exact ⟨_, es, read⟩
  rw [ensureSession, run_get_bind]
  simp only [fresh]
  rw [run_get_bind, hr, run_attempt_ok, read]
  cases config with
  | error f =>
    rw [run_bind_of_error read]
    rfl
  | ok config =>
    rw [run_bind_of_ok read]
    rfl

/-- A later session starts from the configuration of the other layers, with the linter of the first
folder's record if there is one, or does not start at all if the look at the record is refused. -/
theorem ensureSession_silent (around : Surroundings) (w : Work) {root : FilePath}
    {rest : List FilePath} {c : Settings} (fresh : w.server.session = none)
    (hr : w.server.roots = .ok (root :: rest)) (single : Single w.server.given)
    (silent : Silent ⟨w.files, around.userFile, around.environment⟩ root w.server.given c) :
    ((ensureSession around).run w).1 =
      match RuntimeState.load w.files (RuntimeState.path root) with
      | .ok (record, _) => .ok (Session.fresh (record.elim c c.recall).lint (root :: rest) true
          w.files.home around.packaged)
      | .error e => .error (.system e) := by
  rw [ensureSession_run fresh hr, loadConfig_value]
  cases hs : RuntimeState.load w.files (RuntimeState.path root) with
  | error e =>
    have refused := load_silent_refused silent hs
    rw [given] at refused
    simp [refused, configFault?, Except.map]
  | ok found =>
    have loaded := (load_silent single silent hs).1
    rw [given] at loaded
    simp [loaded, Except.map]

/-- A session that starts with the linter of a record recalls a discovery if it is that record. -/
theorem recalls_fresh_iff {c : Settings} (unnamed : c.lint.executablePath = "") {t : Toolchain}
    {directory : String} (named : t.executable ≠ "") (folder : t.ruleDirectory = some directory)
    (record : Option RuntimeState) (roots : List FilePath) (persists : Bool) (home : FilePath)
    (packaged : String) :
    (Session.fresh (record.elim c c.recall).lint roots persists home packaged).Recalls t ↔
      record = some ⟨t.executable, directory⟩ := by
  rw [Session.Recalls, folder]
  cases record with
  | none => simp [Session.fresh, unnamed, Ne.symm named]
  | some r =>
    obtain ⟨executable, place⟩ := r
    simp [Session.fresh, Settings.recall]

/-- A session without a configuration of its own. -/
def plainSession (roots : List FilePath) : Session :=
  Session.fresh .default roots true ⟨1, [['h']]⟩ "/lute"

/-- A server that has just got its folders, where no configuration stands. -/
def plainWork (folders : List String) (files : FileSystem) : Work :=
  ⟨Server.fresh folders none, files, [], []⟩

def plainSurroundings : Surroundings :=
  ⟨⟨1, [['g']]⟩, [], "/lute", Console.terminal (· = ['(', ')']) 80⟩

/-- The path of a record that is reported as written outside of every cycle. -/
def recordIn (es : List Effect) : Option String :=
  es.findSome? fun
    | .report ⟨none, .stateWritten path⟩ => some path
    | _ => none

theorem written_of_recordIn {es : List Effect} (path : String) (h : recordIn es = some path) :
    .report ⟨none, .stateWritten path⟩ ∈ es := by
  obtain ⟨e, he, hp⟩ := List.exists_of_findSome?_eq_some h
  split at hp
  · cases hp
    exact he
  · cases hp

/-- Where no configuration stands, no layer says anything. -/
theorem silent_plain (files : FileSystem) (root : FilePath)
    (user : files.exists_ plainSurroundings.userFile = .ok false)
    (own : files.exists_ (workspaceFile root) = .ok false) :
    Silent ⟨files, plainSurroundings.userFile, plainSurroundings.environment⟩ root []
      ⟨.default, .default⟩ := by
  have absent {p : FilePath} (h : files.exists_ p = .ok false) : readMapping files p = .ok [] := by
    simp [readMapping, h]
  have spares : Spares [] := ⟨fun _ h => (by cases h), rfl, rfl⟩
  refine .layers (absent user) (absent own) rfl ?_ rfl
  simp only [List.forall_mem_cons]
  exact ⟨spares, spares, spares, spares, by simp⟩

/-- A discovery survives to a later session over the same folders exactly if the record of the
first folder is the one that was written, as it is if the manifest stands in the first folder.
The later session then takes the linter without a search, and runs it in the same directory. -/
theorem discovery_survives_iff {first after : Session} {fs : FileSystem} {t : Toolchain}
    (around : Surroundings) (w : Work) {root : FilePath} {rest : List FilePath} {c : Settings}
    (roots : first.roots = root :: rest) (absolute : ∀ r ∈ first.roots, r.isAbsolute = true)
    (discovers : first.Discovers fs t after w.files) (fresh : w.server.session = none)
    (same : w.server.roots = .ok first.roots) (single : Single w.server.given)
    (silent : Silent ⟨w.files, around.userFile, around.environment⟩ root w.server.given c) :
    ∃ directory, t.ruleDirectory = some directory ∧
      ((∃ e, RuntimeState.load w.files (RuntimeState.path root) = .error e) ∨
        ∃ later, ((ensureSession around).run w).1 = .ok later) ∧
      ((∃ later, ((ensureSession around).run w).1 = .ok later ∧ later.Recalls t) ↔
        ∃ events, RuntimeState.load w.files (RuntimeState.path root) =
          .ok (some ⟨t.executable, directory⟩, events)) ∧
      (fs.isFile (root.child Toolchain.manifestName) = .ok true →
        ∃ later, ((ensureSession around).run w).1 = .ok later ∧ later.Recalls t) ∧
      ∀ later, ((ensureSession around).run w).1 = .ok later → later.Recalls t →
        later.startSearch = ⟨[], .settled (some ⟨t.executable, none, .explicit⟩)⟩ ∧
        (∀ files, later.ensureToolchain files =
          ⟨{ later with toolchain := some ⟨t.executable, none, .explicit⟩ }, files, [],
            .ok (some ⟨t.executable, none, .explicit⟩)⟩) ∧
        after.RunsIn t.executable directory ∧ later.RunsIn t.executable directory := by
  obtain ⟨manifest, recorded⟩ := discovers.recorded
  have folder : t.ruleDirectory = some manifest.parent.text := by rw [recorded.linter]
  have named : t.executable ≠ "" := by
    rw [recorded.linter]
    exact FilePath.text_ne_empty _
  have started := ensureSession_silent around w fresh (roots ▸ same) single silent
  have recalls : (∃ later, ((ensureSession around).run w).1 = .ok later ∧ later.Recalls t) ↔
      ∃ events, RuntimeState.load w.files (RuntimeState.path root) =
        .ok (some ⟨t.executable, manifest.parent.text⟩, events) := by
    rw [started]
    cases hs : RuntimeState.load w.files (RuntimeState.path root) with
    | error e => simp
    | ok found =>
      have same := recalls_fresh_iff (load_silent single silent hs).2 named folder found.1
        (root :: rest) true w.files.home around.packaged
      simp [same, Prod.ext_iff]
  refine ⟨manifest.parent.text, folder, ?_, recalls, fun there => ?_, fun later run recalled => ?_⟩
  · rw [started]
    cases RuntimeState.load w.files (RuntimeState.path root) with
    | error e => exact .inl ⟨e, rfl⟩
    | ok found => exact .inr ⟨_, rfl⟩
  · have found := recorded.found
    rw [roots] at found
    have leading := Toolchain.parent_of_findManifest_first (absolute root (by simp [roots])) there
      found
    refine recalls.mpr ⟨[], ?_⟩
    rw [← leading]
    exact recorded.load (normal_of_roots same) absolute
  · have unknown : later.toolchain = none := by
      rw [started] at run
      split at run <;> cases run
      rfl
    obtain ⟨executable, directory⟩ := recalled
    rw [folder] at directory
    rw [← executable] at named ⊢
    refine ⟨by simp [Session.startSearch, unknown, Toolchain.Search.start, named],
      Session.ensureToolchain_named unknown named, ?_, Session.runsIn_named unknown named directory⟩
    rw [executable]
    refine Session.runsIn_known (by rw [recorded.session]) ?_
    have filled : manifest.parent.text.isEmpty = false := by
      simpa using FilePath.text_ne_empty manifest.parent
    simp [Session.workingDirectory, folder, filled]

/-- In a single folder with a manifest the discovery survives. -/
theorem discovery_survives_one_folder :
    let folder : FilePath := ⟨1, [['w']]⟩
    let found := (plainSession [folder]).ensureToolchain Activity.equippedFiles
    ∃ later, ((ensureSession plainSurroundings).run (plainWork ["file:///w"] found.files)).1 =
        .ok later ∧ later.Recalls Activity.discovered ∧
      found.session.RunsIn "/h/.foreman/bin/lute" "/w" ∧
      later.RunsIn "/h/.foreman/bin/lute" "/w" := by
  intro folder found
  have discovers : (plainSession [folder]).Discovers Activity.equippedFiles Activity.discovered
      found.session found.files :=
    .atOnce rfl (by decide +kernel) rfl (written_of_recordIn "/w/.lutels/state.yaml"
      (by decide +kernel))
  have same : (plainWork ["file:///w"] found.files).server.roots = .ok [folder] :=
    toOption_eq_some_iff.mp (by decide +kernel)
  have silent := silent_plain found.files folder (by decide +kernel)
    (by decide +kernel)
  have absolute : ∀ r ∈ [folder], r.isAbsolute = true := by decide +kernel
  clear_value found
  obtain ⟨directory, there, -, -, survives, runs⟩ :=
    discovery_survives_iff plainSurroundings (plainWork ["file:///w"] found.files) rfl absolute
      discovers rfl same single_nil silent
  obtain rfl : "/w" = directory := Option.some.inj there
  obtain ⟨later, started, recalls⟩ := survives (by decide +kernel)
  obtain ⟨-, -, first, second⟩ := runs later started recalls
  exact ⟨later, started, recalls, first, second⟩

/-- With a folder in front that has no manifest it does not: the record is written below the
second folder, and the next session, which reads the record of the first one, knows of no linter. -/
theorem discovery_forgotten_second_folder :
    let front : FilePath := ⟨1, [['a']]⟩
    let folder : FilePath := ⟨1, [['w']]⟩
    let files := Activity.equippedFiles.addDirectory front
    let found := (plainSession [front, folder]).ensureToolchain files
    let w := plainWork ["file:///a", "file:///w"] found.files
    (plainSession [front, folder]).Discovers files Activity.discovered found.session found.files ∧
      w.server.roots = .ok [front, folder] ∧
      Silent ⟨w.files, plainSurroundings.userFile, plainSurroundings.environment⟩ front
        w.server.given ⟨.default, .default⟩ ∧
      ∃ later, ((ensureSession plainSurroundings).run w).1 = .ok later ∧
        later.config.executablePath = "" ∧ later.config.manifestDirectory = none ∧
        ¬later.Recalls Activity.discovered := by
  intro front folder files found w
  have discovers : (plainSession [front, folder]).Discovers files Activity.discovered
      found.session found.files :=
    .atOnce rfl (by decide +kernel) rfl (written_of_recordIn "/w/.lutels/state.yaml"
      (by decide +kernel))
  have same : (plainWork ["file:///a", "file:///w"] found.files).server.roots =
      .ok [front, folder] :=
    toOption_eq_some_iff.mp (by decide +kernel)
  have silent := silent_plain found.files front (by decide +kernel)
    (by decide +kernel)
  have noRecord : found.files.exists_ (RuntimeState.path front) = .ok false := by decide +kernel
  clear_value found
  have record : RuntimeState.load w.files (RuntimeState.path front) = .ok (none, []) := by
    simp [w, plainWork, RuntimeState.load, noRecord, Except.map]
  have started := ensureSession_silent plainSurroundings w rfl same single_nil silent
  rw [record] at started
  have named : "" ≠ Activity.discovered.executable := by decide +kernel
  exact ⟨discovers, same, silent, _, started, rfl, rfl, fun recalls => named recalls.1⟩

end Server
end LintBridge
