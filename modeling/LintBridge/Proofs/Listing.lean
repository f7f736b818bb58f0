import Mathlib.Data.List.Forall2
import LintBridge.Proofs.Correspondence
import LintBridge.Proofs.Rounds
/-!
What the JSON report of a check lists, and the status with which it ends. Each process of the linter
has an output of its own, told by the file and the pass. The record of a file lists the violations
that its first pass prints and then those of its second, each at its own index and fixable exactly
if it carries a fix itself, and the status tells of errors among them. A NUL in the text of a file,
or in anything else that a process is called with, keeps the check from its report
(`Cli.check_lists_violations`).
-/
namespace LintBridge

theorem Severity.eq_error_iff {severity : Severity} : severity = .error ↔ severity.number = 1 := by
  cases severity <;> decide

namespace Cli

variable {around : Surroundings} {fs : FileSystem} {words : List String} {call : Called}
  {request : CheckRequest} {settings : Config.Settings} {t : Toolchain} {s : Session}

/-- What the processes of a file come to: that of its first pass, and that of its second one. -/
abbrev Outputs := FilePath → ProcessEnd × ProcessEnd

variable {output : Outputs}

/-- Is there a second pass? -/
def twoPasses (settings : Config.Settings) : Bool := !settings.lint.ruleConfigPath.isEmpty

/-- The process ends of a file, in the order of its passes. -/
def passEnds (settings : Config.Settings) (output : Outputs) (path : FilePath) : List ProcessEnd :=
  (output path).1 :: if twoPasses settings then [(output path).2] else []

/-- The process ends of files that are linted one after the other. -/
def runEnds (settings : Config.Settings) (output : Outputs) (paths : List FilePath) :
    List ProcessEnd :=
  (paths.filter (lints settings)).flatMap (passEnds settings output)

/-- The violations of a file: those of its first pass and then those of its second one. A pass that
fails has none. -/
def passViolations (settings : Config.Settings) (output : Outputs) (path : FilePath) :
    List Violation :=
  (output path).1.violations ++ if twoPasses settings then (output path).2.violations else []

/-- The passes of a file print what is within the bounds of the reader and of the editor
protocol. -/
structure Bounded (settings : Config.Settings) (output : Outputs) (path : FilePath) : Prop where
  first : (output path).1.Bounded
  second : twoPasses settings = true → (output path).2.Bounded

/-- The passes of a file print what can be decoded and told in the editor protocol. -/
structure Tellable (settings : Config.Settings) (output : Outputs) (path : FilePath) : Prop where
  first : (output path).1.Ordinary
  second : twoPasses settings = true → (output path).2.Ordinary

/-- Within bounds, passes that cannot be told of are those with a process that is refused. -/
theorem Bounded.refused_of_not_tellable {path : FilePath} (bounded : Bounded settings output path)
    (untold : ¬ Tellable settings output path) :
    (output path).1 = .refusedArgument ∨
      twoPasses settings = true ∧ (output path).2 = .refusedArgument := by
  by_contra startable
  rw [not_or, not_and] at startable
  exact untold ⟨⟨bounded.first, startable.1⟩,
    fun two => ⟨bounded.second two, startable.2 two⟩⟩

/-- There is no NUL in what the passes of a file are called with. -/
def NulFree (s : Session) (t : Toolchain) (fs : FileSystem) (path : FilePath) : Prop :=
  ∀ text, fs.readText path = .ok text →
    Command.holdsNul (Session.command (s.plan t) none text).1 (s.plan t).cwd = false ∧
    ∀ rules, s.rulesPath (Check.uriOf fs path) = .ok (some rules) →
      Command.holdsNul (Session.command (s.plan t) (some rules) text).1 (s.plan t).cwd = false

/-- The system refuses to start a pass of a file exactly for a NUL in what it is called with. -/
structure Hosted (s : Session) (t : Toolchain) (fs : FileSystem) (output : Outputs)
    (path : FilePath) : Prop where
  first : ∀ text, fs.readText path = .ok text → ((output path).1 = .refusedArgument ↔
    Command.holdsNul (Session.command (s.plan t) none text).1 (s.plan t).cwd = true)
  second : ∀ text rules, fs.readText path = .ok text →
    s.rulesPath (Check.uriOf fs path) = .ok (some rules) → ((output path).2 = .refusedArgument ↔
      Command.holdsNul (Session.command (s.plan t) (some rules) text).1 (s.plan t).cwd = true)

/-- Passes without a NUL are started. -/
theorem NulFree.hosted {path : FilePath} (free : NulFree s t fs path)
    (first : (output path).1 ≠ .refusedArgument) (second : (output path).2 ≠ .refusedArgument) :
    Hosted s t fs output path where
  first text reads := by simp [first, (free text reads).1]
  second text rules reads told := by simp [second, (free text reads).2 rules told]

/-- A session has a rule file for every document if it has a configured one. -/
theorem Ready.isSome_rulesPath (ready : Ready settings t s) {uri : String} {rules : Option String}
    (told : s.rulesPath uri = .ok rules) : rules.isSome = twoPasses settings := by
  rw [Session.isSome_of_rulesPath told, ready.rules, twoPasses]

/-- Within bounds, the passes of a file can be told of exactly if no NUL keeps them from
starting. -/
theorem Bounded.tellable_iff {path : FilePath} (bounded : Bounded settings output path)
    (ready : Ready settings t s) (hosted : Hosted s t fs output path) {text : String}
    (reads : fs.readText path = .ok text) :
    Tellable settings output path ↔ NulFree s t fs path := by
  obtain ⟨rules, told⟩ := rulesPath_uriOf s fs path
  have two := ready.isSome_rulesPath told
  constructor
  · rintro ⟨first, second⟩ text' reads'
    refine ⟨by simpa [hosted.first text' reads'] using first.startable, fun path' told' => ?_⟩
    obtain rfl : some path' = rules := by simpa [told] using told'.symm
    simpa [hosted.second text' path' reads' told'] using (second two.symm).startable
  · intro free
    obtain ⟨first, second⟩ := free text reads
    refine ⟨⟨bounded.first, by simp [hosted.first text reads, first]⟩, fun both => ?_⟩
    obtain ⟨path', rfl⟩ := Option.isSome_iff_exists.mp (two.trans both)
    exact ⟨bounded.second both, by simp [hosted.second text path' reads told, second path' told]⟩

theorem ready_advance (ready : Ready settings t s) (uri : String) :
    Ready settings t (s.advance uri) :=
  ready.of_config ready.toolchain rfl

/-- A round begins with the process ends of its file. -/
def Begins (settings : Config.Settings) (output : Outputs) (r : Round) : Prop :=
  ∃ more, r.ends = passEnds settings output r.path ++ more

theorem Begins.first {r : Round} (begins : Begins settings output r) :
    r.ends.headD .usual = (output r.path).1 := by
  obtain ⟨more, ends⟩ := begins
  rw [ends]
  rfl

theorem Begins.second {r : Round} (begins : Begins settings output r)
    (two : twoPasses settings = true) : r.ends.tail.headD .usual = (output r.path).2 := by
  obtain ⟨more, ends⟩ := begins
  rw [ends, passEnds, if_pos two]
  rfl

section

variable {r : Round} (ready : Ready settings t r.session)
  (tellable : Tellable settings output r.path) (begins : Begins settings output r)
  (lint : lints settings r.path = true)

include ready tellable begins lint

/-- A round starts a process for each of the ends of its file. -/
theorem countP_turn :
    (r.turn fs).effects.countP Effect.isSpawn = (passEnds settings output r.path).length := by
  have linted : r.isLinted = true := (ready.lintable r.path).trans lint
  have ready' := ready_advance ready (Check.uriOf fs r.path)
  obtain ⟨rules, told⟩ := rulesPath_uriOf (r.session.advance (Check.uriOf fs r.path)) fs r.path
  have result : Session.passResult (r.session.plan t) none (output r.path).1 = .ok _ :=
    tellable.first.result (ready.timed.hasNoTime t none)
  rw [← Effect.length_commands, (Round.concludes linted ready.toolchain).commands, begins.first,
    Session.commandLines, Session.secondPass, result, told, passEnds,
    ← ready'.isSome_rulesPath told]
  cases rules <;> rfl

/-- A round gives the translation of the violations of its file. -/
theorem outcome_of_begins :
    ∃ o, r.outcome fs = .ok (some o) ∧
      Violation.findings (Check.uriOf fs r.path) (passViolations settings output r.path) =
        .ok o.findings := by
  have linted : r.isLinted = true := (ready.lintable r.path).trans lint
  have ready' := ready_advance ready (Check.uriOf fs r.path)
  obtain ⟨rules, told⟩ := rulesPath_uriOf (r.session.advance (Check.uriOf fs r.path)) fs r.path
  have two := ready'.isSome_rulesPath told
  have harvest : Session.harvested rules (r.ends.headD .usual) (r.ends.tail.headD .usual) =
      passViolations settings output r.path := by
    rw [Session.harvested, passViolations, begins.first, ← two]
    cases rules with
    | none => rfl
    | some path => rw [begins.second two.symm]; rfl
  have ordinary : rules ≠ none → (r.ends.tail.headD .usual).Ordinary := by
    intro configured
    have both : twoPasses settings = true := two ▸ Option.isSome_iff_ne_none.mpr configured
    rw [begins.second both]
    exact tellable.second both
  have first : (r.ends.headD .usual).Ordinary := by
    rw [begins.first]
    exact tellable.first
  obtain ⟨findings, upshot⟩ := (Session.upshot_isOk_iff (ready.timed.hasNoTime t)).mpr
    ⟨rules, told, first, ordinary⟩
  obtain ⟨rules', told', translated⟩ :=
    Session.findings_of_upshot (ready.timed.hasNoTime t) upshot
  cases told.symm.trans told'
  rw [harvest] at translated
  obtain ⟨started, gives⟩ := Round.outcome_of_linted fs linted ready.toolchain
  rw [upshot] at gives
  exact ⟨_, gives, translated⟩

end

/-- A round fails if one of its processes is refused. -/
theorem outcome_of_refused {r : Round} (ready : Ready settings t r.session)
    (bounded : Bounded settings output r.path) (begins : Begins settings output r)
    (lint : lints settings r.path = true) (untold : ¬ Tellable settings output r.path) :
    r.outcome fs = .error .nulCharacter := by
  let uri := Check.uriOf fs r.path
  have linted : r.isLinted = true := (ready.lintable r.path).trans lint
  obtain ⟨rules, told⟩ := rulesPath_uriOf (r.session.advance uri) fs r.path
  have two := (ready_advance ready uri).isSome_rulesPath told
  have timed := ready.timed.hasNoTime t
  have stopped (rules : Option String) : Session.passResult (r.session.plan t) rules
      .refusedArgument = .error .nulCharacter := rfl
  have fails : (r.session.advance uri).upshot (r.session.plan t) uri (r.ends.headD .usual)
      (r.ends.tail.headD .usual) = .error .nulCharacter := by
    rw [begins.first, Session.upshot, Session.gathered]
    by_cases first : (output r.path).1 = .refusedArgument
    · rw [first, stopped none]
      rfl
    · obtain same | ⟨both, second⟩ := bounded.refused_of_not_tellable untold
      · exact absurd same first
      · obtain ⟨path, rfl⟩ := Option.isSome_iff_exists.mp (two.trans both)
        have result := (ProcessEnd.Ordinary.mk bounded.first first).result (timed none)
        have base : Session.passResult (r.session.plan t) none (output r.path).1 = .ok _ := result
        rw [base, told, begins.second both, second]
        rfl
  obtain ⟨started, gives⟩ := Round.outcome_of_linted fs linted ready.toolchain
  rw [gives, fails]
  rfl

theorem runEnds_cons (path : FilePath) (rest : List FilePath) :
    runEnds settings output (path :: rest) =
      (if lints settings path then passEnds settings output path else []) ++
        runEnds settings output rest := by
  unfold runEnds
  cases lint : lints settings path <;> simp [lint]

/-- The process ends of a file are used up in its round. -/
theorem drop_runEnds (ready : Ready settings t s) {path : FilePath} {text : String}
    (tellable : lints settings path = true → Tellable settings output path)
    (rest : List FilePath) :
    let ends := runEnds settings output (path :: rest)
    let r : Round := ⟨path, text, s, ends⟩
    ends.drop ((r.turn fs).effects.countP Effect.isSpawn) = runEnds settings output rest := by
  intro ends r
  have parts : ends = _ := runEnds_cons path rest
  cases lint : lints settings path with
  | false =>
    have unlinted := (ready.lintable path).trans lint
    obtain ⟨es, quiet, skipped⟩ :=
      Session.lintDocument_skipped unlinted fs (Check.uriOf fs path) text ends
    have idle : (r.turn fs).effects.countP Effect.isSpawn = 0 := by
      rw [Round.turn, skipped, ← Effect.length_commands, quiet.2]
      rfl
    rw [idle, parts, lint]
    rfl
  | true =>
    rw [lint, if_pos rfl] at parts
    have begins : Begins settings output r := ⟨_, parts⟩
    rw [countP_turn ready (tellable lint) begins lint, parts]
    exact List.drop_left

/-- With the process ends of all files, one file after the other, each round begins with its own. -/
theorem begins_of_runEnds (ready : Ready settings t s) {paths : List FilePath}
    (tellable : ∀ path ∈ paths, lints settings path = true → Tellable settings output path)
    {r : Round} (mem : r ∈ rounds fs s (runEnds settings output paths) paths)
    (lint : lints settings r.path = true) : Begins settings output r := by
  induction paths generalizing s with
  | nil => cases mem
  | cons path rest ih =>
    cases reads : fs.readText path with
    | error f => simp [rounds, reads] at mem
    | ok text =>
      rw [rounds_cons reads, List.mem_cons] at mem
      obtain ⟨here, others⟩ := List.forall_mem_cons.mp tellable
      obtain rfl | later := mem
      · rw [Begins, runEnds_cons, if_pos lint]
        exact ⟨_, rfl⟩
      · obtain ⟨still, config, -⟩ := s.lintDocument_known fs ready.toolchain
          (Check.uriOf fs path) text (Check.language? path) (runEnds settings output (path :: rest))
        rw [drop_runEnds ready here rest] at later
        exact ih (ready.of_config still config) others later

/-- The record of a violation. Lines and columns count from one. -/
def violationRecord (v : Violation) : Value :=
  .record [("line", .int (v.range.start.line + 1)), ("column", .int (v.range.start.character + 1)),
    ("severity", .int v.severity.number), ("code", .text v.code), ("message", .text v.message),
    ("fixable", .bool v.suggestedFix.isSome)]

/-- The record of a file with its violations. -/
def pathRecord (settings : Config.Settings) (output : Outputs) (path : FilePath) : Value :=
  .record [("path", .text path.text),
    ("diagnostics", .list ((passViolations settings output path).map violationRecord))]

section

variable {uri : String} {vs : List Violation} {findings : List Finding}

/-- Beside each violation its finding, which is an error if the violation is one, and has the same
record. -/
theorem forall₂_findings (translated : Violation.findings uri vs = .ok findings) :
    List.Forall₂ (fun v f => (v.severity.number = 1 ↔ f.diagnostic.severity = .error) ∧
      violationRecord v = Check.findingRecord f) vs findings := by
  refine (Violation.findings_eq_ok_iff.mp translated).imp fun v f made => ?_
  obtain ⟨told, fix⟩ := Violation.finding_eq_ok made
  have tells := Violation.tells_of_diagnostic told
  have fixable : f.fix.isSome = v.suggestedFix.isSome := by
    obtain ⟨unfixed, none⟩ | ⟨fix, a, fixed, some, -⟩ := fix
    · rw [unfixed, none]
      rfl
    · rw [fixed, some]
      rfl
  refine ⟨?_, ?_⟩
  · rw [Severity.eq_error_iff, tells.severity]
  · simp only [Check.findingRecord, violationRecord, tells.range, tells.severity, tells.code,
      tells.message, fixable]

theorem map_findingRecord (translated : Violation.findings uri vs = .ok findings) :
    findings.map Check.findingRecord = vs.map violationRecord := by
  have records : List.Forall₂ (· = ·) (vs.map violationRecord)
      (findings.map Check.findingRecord) := by
    rw [List.forall₂_map_left_iff, List.forall₂_map_right_iff]
    exact (forall₂_findings translated).imp fun _ _ both => both.2
  rw [List.forall₂_eq_eq_eq] at records
  exact records.symm

theorem hasErrors_iff {o : Outcome} (translated : Violation.findings uri vs = .ok o.findings) :
    o.hasErrors = true ↔ ∃ v ∈ vs, v.severity.number = 1 := by
  rw [exists_iff_of_forall₂ (forall₂_findings translated) fun _ _ both => both.1]
  simp [Outcome.hasErrors, Outcome.diagnostics, Finding.diagnostics]

end

/-- The arguments of a check name files of their own. -/
theorem eq_of_lastNamed {paths : List FilePath}
    (apart : (paths.map fun path => (path.resolved fs.workingDirectory).text).Nodup)
    {path last : FilePath} (mem : path ∈ paths) (named : lastNamed fs paths path = some last) :
    last = path := by
  obtain ⟨there, same⟩ := mem_of_lastNamed named
  exact List.inj_on_of_nodup_map apart there mem same

/-- With a file of which a process is refused, the linting of files fails. -/
theorem mapM_rounds_refused (ready : Ready settings t s) {paths : List FilePath}
    (texts : ∀ path ∈ paths, ∃ text, fs.readText path = .ok text)
    (bounded : ∀ path ∈ paths, lints settings path = true → Bounded settings output path)
    (refused : ∃ path ∈ paths, lints settings path = true ∧ ¬ Tellable settings output path) :
    (rounds fs s (runEnds settings output paths) paths).mapM (Round.outcome fs) =
      .error .nulCharacter := by
  induction paths generalizing s with
  | nil => simp at refused
  | cons path rest ih =>
    obtain ⟨⟨text, reads⟩, texts⟩ := List.forall_mem_cons.mp texts
    obtain ⟨here, others⟩ := List.forall_mem_cons.mp bounded
    let r : Round := ⟨path, text, s, runEnds settings output (path :: rest)⟩
    have begins (lint : lints settings path = true) : Begins settings output r := by
      refine ⟨runEnds settings output rest, ?_⟩
      simp only [r, runEnds_cons, if_pos lint]
    rw [rounds_cons reads, List.mapM_cons]
    by_cases stops : lints settings path = true ∧ ¬ Tellable settings output path
    · obtain ⟨lint, untold⟩ := stops
      have fails : r.outcome fs = .error .nulCharacter :=
        outcome_of_refused ready (here lint) (begins lint) lint untold
      rw [show Round.outcome fs _ = _ from fails]
      rfl
    · -- The round of the first file gives an outcome, so the refused one comes later.
      have tellable (lint : lints settings path = true) : Tellable settings output path := by
        by_contra untold
        exact stops ⟨lint, untold⟩
      have later : ∃ path ∈ rest, lints settings path = true ∧ ¬ Tellable settings output path := by
        obtain first | later := List.exists_mem_cons_iff .. |>.mp refused
        · exact absurd first stops
        · exact later
      obtain ⟨o, given⟩ : ∃ o, r.outcome fs = .ok o := by
        cases lint : lints settings path with
        | true =>
          obtain ⟨o, given, -⟩ := outcome_of_begins ready (tellable lint) (begins lint) lint
          exact ⟨some o, given⟩
        | false => exact ⟨none, Round.outcome_of_skipped ((ready.lintable path).trans lint)⟩
      obtain ⟨still, config, -⟩ := s.lintDocument_known fs ready.toolchain
        (Check.uriOf fs path) text (Check.language? path) (runEnds settings output (path :: rest))
      rw [show Round.outcome fs _ = _ from given, drop_runEnds ready tellable rest]
      have rest := ih (ready.of_config still config) texts others later
      exact bind_eq_error.mpr (.inr ⟨o, rfl, bind_eq_error.mpr (.inl rest)⟩)

/-- Some outcome has errors if some round gives one that has. -/
theorem anyErrors_iff {rs : List Round} {os : List (Option Outcome)}
    (gives : List.Forall₂ (fun r o => r.outcome fs = .ok o) rs os) :
    Check.anyErrors (os.filterMap id) = true ↔
      ∃ r ∈ rs, ∃ o, r.outcome fs = .ok (some o) ∧ o.hasErrors = true := by
  have among : (∃ r ∈ rs, ∃ o, r.outcome fs = .ok (some o) ∧ o.hasErrors = true) ↔
      ∃ o ∈ os, ∃ x, o = some x ∧ x.hasErrors = true := by
    refine exists_iff_of_forall₂ gives fun r o given => ?_
    simp [given]
  rw [among, Check.anyErrors, List.any_eq_true]
  simp only [List.mem_filterMap, id]
  constructor
  · rintro ⟨x, ⟨o, mem, same⟩, errors⟩
    exact ⟨o, mem, x, same, errors⟩
  · rintro ⟨o, mem, x, same, errors⟩
    exact ⟨x, ⟨o, mem, same⟩, errors⟩

section

variable (equipped : request.Equipped around fs settings t)
  (texts : ∀ path ∈ request.files, ∃ text, fs.readText path = .ok text)
  (tellable : ∀ path ∈ request.files, lints settings path = true → Tellable settings output path)

include equipped texts tellable

/-- Each round of a check gives the translation of the violations of its file. -/
theorem outcome_of_runEnds {r : Round}
    (mem : r ∈ request.rounds around fs (runEnds settings output request.files) settings)
    (lint : lints settings r.path = true) :
    ∃ o, r.outcome fs = .ok (some o) ∧
      Violation.findings (Check.uriOf fs r.path) (passViolations settings output r.path) =
        .ok o.findings := by
  have ready := ready_search equipped
  have named : r.path ∈ request.files := path_mem_of_rounds texts mem
  exact outcome_of_begins (ready_rounds ready mem) (tellable _ named lint)
    (begins_of_runEnds ready tellable mem lint) lint

theorem complete_of_runEnds : ∀ r ∈ request.rounds around fs (runEnds settings output request.files)
    settings, ∃ o, r.outcome fs = .ok o := by
  intro r mem
  cases lint : lints settings r.path with
  | true =>
    obtain ⟨o, given, -⟩ := outcome_of_runEnds equipped texts tellable mem lint
    exact ⟨some o, given⟩
  | false =>
    have skipped := ((ready_rounds (ready_search equipped) mem).lintable r.path).trans lint
    exact ⟨none, Round.outcome_of_skipped skipped⟩

/-- The entries of a check of files that are all different are those of its arguments. -/
theorem records_of_runEnds
    (apart : (request.files.map fun path => (path.resolved fs.workingDirectory).text).Nodup)
    {outcomes : List Outcome} (linted : request.linted around fs
      (runEnds settings output request.files) settings = .ok outcomes) :
    (Check.spelled fs request.files outcomes).map (fun e => Check.fileRecord e.1 e.2) =
      (request.files.filter (lints settings)).map (pathRecord settings output) := by
  let rs := request.rounds around fs (runEnds settings output request.files) settings
  have paths : rs.map Round.path = request.files := map_path_rounds texts
  have own : request.files.filter (lints settings) =
      (rs.filter fun r => lints settings r.path).map Round.path := by
    conv_lhs => rw [← paths, List.filter_map]
    rfl
  have among : ∀ r ∈ rs.filter (fun r => lints settings r.path),
      r ∈ rs ∧ lints settings r.path = true := fun r mem => List.mem_filter.mp mem
  have records : List.Forall₂ (· = ·)
      ((rs.filter fun r => lints settings r.path).map fun r => pathRecord settings output r.path)
      ((Check.spelled fs request.files outcomes).map fun e => Check.fileRecord e.1 e.2) := by
    rw [List.forall₂_map_left_iff, List.forall₂_map_right_iff]
    refine ((List.forall₂_and_left _ _).mpr
      ⟨among, forall₂_spelled_linted equipped texts linted⟩).imp ?_
    rintro r ⟨name, o⟩ ⟨⟨mem, lint⟩, given, last⟩
    obtain ⟨o', given', translated⟩ := outcome_of_runEnds equipped texts tellable mem lint
    cases given.symm.trans given'
    obtain rfl : name = r.path := eq_of_lastNamed apart (path_mem_of_rounds texts mem) last
    simp only [pathRecord, Check.fileRecord_eq, map_findingRecord translated]
  rw [List.forall₂_eq_eq_eq] at records
  rw [← records, own, List.map_map]
  rfl

/-- Some outcome has errors exactly if a violation of some file that is linted is one. -/
theorem errors_of_runEnds {outcomes : List Outcome} (linted : request.linted around fs
      (runEnds settings output request.files) settings = .ok outcomes) :
    Check.anyErrors outcomes = true ↔ ∃ path ∈ request.files.filter (lints settings),
      ∃ v ∈ passViolations settings output path, v.severity.number = 1 := by
  obtain ⟨os, each, rfl⟩ := (linted_eq_ok_iff equipped texts).mp linted
  rw [anyErrors_iff each]
  constructor
  · rintro ⟨r, mem, o, given, errors⟩
    have ready := ready_rounds (ready_search equipped) mem
    have lint : lints settings r.path = true :=
      (ready.lintable r.path).symm.trans (Round.of_outcome ready.toolchain given).1.symm
    obtain ⟨o', given', translated⟩ := outcome_of_runEnds equipped texts tellable mem lint
    cases given.symm.trans given'
    have named : r.path ∈ request.files := path_mem_of_rounds texts mem
    exact ⟨r.path, List.mem_filter.mpr ⟨named, lint⟩, (hasErrors_iff translated).mp errors⟩
  · rintro ⟨path, among, errors⟩
    obtain ⟨named, lint⟩ := List.mem_filter.mp among
    rw [← map_path_rounds texts] at named
    obtain ⟨r, mem, rfl⟩ := List.mem_map.mp named
    obtain ⟨o, given, translated⟩ := outcome_of_runEnds equipped texts tellable mem lint
    exact ⟨r, mem, o, given, (hasErrors_iff translated).mpr errors⟩

end

/-- A check lists the violations of its files: its output is the array of their records, and its
status is 1 if one of all the violations is an error, and 0 otherwise. -/
def Lists (settings : Config.Settings) (output : Outputs) (paths : List FilePath) (checked : Run) :
    Prop :=
  Json.decode checked.stdout = .ok (.list (paths.map (pathRecord settings output))) ∧
    checked.ending = .status (if ∃ path ∈ paths,
      ∃ v ∈ passViolations settings output path, v.severity.number = 1 then 1 else 0)

/-- A check of files whose passes can be told of lists their violations. -/
theorem lists_of_tellable (calls : called words = .request call)
    (asks : call.command.request fs call.words = .request (.check request))
    (json : request.json = true) (equipped : request.Equipped around fs settings t)
    (texts : ∀ path ∈ request.files, ∃ text, fs.readText path = .ok text)
    (apart : (request.files.map fun path => (path.resolved fs.workingDirectory).text).Nodup)
    (tellable : ∀ path ∈ request.files, lints settings path = true →
      Tellable settings output path) :
    Lists settings output (request.files.filter (lints settings))
      (run around fs (runEnds settings output request.files) words) := by
  obtain ⟨os, each⟩ := exists_forall₂_iff.mpr (complete_of_runEnds equipped texts tellable)
  have outcomes := (linted_eq_ok_iff equipped texts).mpr ⟨os, each, rfl⟩
  obtain ⟨decoded, ending⟩ := run_linted _ calls asks json equipped outcomes
  rw [records_of_runEnds equipped texts tellable apart outcomes] at decoded
  refine ⟨decoded, ending.trans ?_⟩
  have errors := errors_of_runEnds equipped texts tellable outcomes
  rw [statusOf]
  simp only [errors]

/-- A check of files of which a process is refused prints nothing. -/
theorem run_of_refused (output : Outputs) (calls : called words = .request call)
    (asks : call.command.request fs call.words = .request (.check request))
    (equipped : request.Equipped around fs settings t)
    (texts : ∀ path ∈ request.files, ∃ text, fs.readText path = .ok text)
    (bounded : ∀ path ∈ request.files, lints settings path = true → Bounded settings output path)
    (refused : ∃ path ∈ request.files, lints settings path = true ∧
      ¬ Tellable settings output path) :
    let checked := run around fs (runEnds settings output request.files) words
    checked.stdout = "" ∧ checked.ending = .failed .nulCharacter := by
  intro checked
  have fails : request.linted around fs (runEnds settings output request.files) settings =
      .error .nulCharacter := by
    rw [linted_eq equipped texts, CheckRequest.rounds,
      mapM_rounds_refused (ready_search equipped) texts bounded refused]
    rfl
  obtain ⟨r, silent, ran⟩ := run_unlinted _ calls asks equipped fails
  have same : checked = r.fail .nulCharacter := ran
  rw [same]
  exact ⟨silent, rfl⟩

/-- Files that are all different, each with an output of its own for each of its passes, are listed
in the order of the arguments, the record of each with the records of the violations that its first
pass prints and then those of its second one, in their order, exactly if there is no NUL in what the
linter is called with, the text of a file among it. Otherwise the check fails and prints nothing. -/
theorem check_lists_violations (output : Outputs) (calls : called words = .request call)
    (asks : call.command.request fs call.words = .request (.check request))
    (json : request.json = true) (equipped : request.Equipped around fs settings t)
    (texts : ∀ path ∈ request.files, ∃ text, fs.readText path = .ok text)
    (apart : (request.files.map fun path => (path.resolved fs.workingDirectory).text).Nodup)
    (bounded : ∀ path ∈ request.files, lints settings path = true → Bounded settings output path)
    (hosted : ∀ path ∈ request.files, lints settings path = true →
      Hosted (request.search around fs settings).session t fs output path) :
    let s := (request.search around fs settings).session
    let linted := request.files.filter (lints settings)
    let checked := run around fs (runEnds settings output request.files) words
    (Lists settings output linted checked ↔ ∀ path ∈ linted, NulFree s t fs path) ∧
      ((∃ path ∈ linted, ¬ NulFree s t fs path) →
        checked.stdout = "" ∧ checked.ending = .failed .nulCharacter) := by
  intro s linted checked
  have tells {path : FilePath} (among : path ∈ linted) :
      Tellable settings output path ↔ NulFree s t fs path := by
    obtain ⟨mem, lint⟩ := List.mem_filter.mp among
    obtain ⟨text, reads⟩ := texts path mem
    exact (bounded path mem lint).tellable_iff (ready_search equipped) (hosted path mem lint) reads
  have broken (holds : ∃ path ∈ linted, ¬ NulFree s t fs path) :
      checked.stdout = "" ∧ checked.ending = .failed .nulCharacter := by
    obtain ⟨path, among, nul⟩ := holds
    obtain ⟨mem, lint⟩ := List.mem_filter.mp among
    exact run_of_refused output calls asks equipped texts bounded
      ⟨path, mem, lint, (tells among).not.mpr nul⟩
  refine ⟨⟨fun lists path among => ?_, fun free => ?_⟩, broken⟩
  · by_contra nul
    have ending := lists.2
    rw [(broken ⟨path, among, nul⟩).2] at ending
    cases ending
  · refine lists_of_tellable calls asks json equipped texts apart fun path mem lint => ?_
    have among : path ∈ linted := List.mem_filter.mpr ⟨mem, lint⟩
    exact (tells among).mpr (free path among)

/-- Two warnings at one place, which differ in their fix alone. -/
def doubledWarnings : List Violation :=
  [{ Activity.fixable with suggestedFix := none }, Activity.fixable]

/-- The beginning of a printed record of one of these warnings. -/
def warningStart : List Char :=
  "\x7b\"range\":".toList ++
    Activity.printedRange (Activity.printedPosition '1' '2') (Activity.printedPosition '1' '4') ++
    ",\"severity\":2,\"code\":\"c\",\"source\":\"l\",\"message\":\"m\"".toList

def doubledText : List Char :=
  '[' :: warningStart ++ "\x7d,".toList ++ warningStart ++
    ",\"suggestedfix\":\x7b\"fix\":\"f\",\"range\":".toList ++
    Activity.printedRange (Activity.printedPosition '3' '0') (Activity.printedPosition '3' '0') ++
    "\x7d\x7d]".toList

/-- The process of the first pass prints both of them, and that of the second one fails. -/
def doubledOutput : Outputs := fun _ =>
  (.exited (some 0) (doubledText.map fun c => UInt8.ofNat c.toNat) [], .exited (some 1) [] [])

theorem ordinary_doubled : (doubledOutput (.ofText "a.luau")).1.Ordinary ∧
    (doubledOutput (.ofText "a.luau")).1.violations = doubledWarnings := by
  have batch : Activity.batchOf? doubledText = some doubledWarnings := by decide +kernel
  refine ordinary_of_parse (Activity.parse_of_batchOf? (by decide +kernel) batch) ?_
  simp [doubledWarnings, Activity.fixable, Violation.Fits, Interval.Fits, Position.Fits,
    maxCoordinate]

def ruledRequest : CheckRequest :=
  ⟨[.ofText "a.luau"], some (.ofText "/w"), none, some "/r.luau", true⟩

def ruledSettings : Config.Settings := Config.Settings.ruled ⟨.default, .default⟩ "/r.luau"

theorem equipped_ruledRequest : ruledRequest.Equipped Server.plainSurroundings (filesWith [120, 10])
    ruledSettings ⟨"/h/.foreman/bin/lute", some "/w", .foreman⟩ :=
  ⟨Config.load_ruled (by decide) rfl, rfl⟩

/-- The check of a file with a rule file. -/
def ruledCheck (output : Outputs) : Run :=
  run Server.plainSurroundings (filesWith [120, 10])
    [(output (.ofText "a.luau")).1, (output (.ofText "a.luau")).2]
    ["check", "--json", "-w", "/w", "-r", "/r.luau", "a.luau"]

/-- There is no NUL in what the linter is called with. -/
theorem nulFree_ruledRequest :
    NulFree (ruledRequest.search Server.plainSurroundings
      (filesWith [120, 10]) ruledSettings).session
      ⟨"/h/.foreman/bin/lute", some "/w", .foreman⟩ (filesWith [120, 10]) (.ofText "a.luau") := by
  rw [search_discovering equipped_ruledRequest]
  intro text reads
  obtain rfl : text = "x\n" := by
    have known : (filesWith [120, 10]).readText (.ofText "a.luau") = .ok "x\n" := rfl
    simpa [known] using reads.symm
  refine ⟨by decide +kernel, fun rules told => ?_⟩
  have known : ((oneSession Server.plainSurroundings (filesWith [120, 10])
      (ruledRequest.root (filesWith [120, 10])) ruledSettings).discovering "/h/.foreman/bin/lute"
      "/w").rulesPath (Check.uriOf (filesWith [120, 10]) (.ofText "a.luau")) =
      .ok (some "/r.luau") := toOption_eq_some_iff.mp (by decide +kernel)
  obtain rfl : rules = "/r.luau" := by simpa [known] using told.symm
  decide +kernel

/-- Both warnings are listed, and only the second one as fixable. -/
theorem doubled_warnings_listed :
    Bounded ruledSettings doubledOutput (.ofText "a.luau") ∧
      Hosted (ruledRequest.search Server.plainSurroundings
        (filesWith [120, 10]) ruledSettings).session
        ⟨"/h/.foreman/bin/lute", some "/w", .foreman⟩ (filesWith [120, 10]) doubledOutput
        (.ofText "a.luau") ∧
      Json.decode (ruledCheck doubledOutput).stdout = .ok (.list [.record
        [("path", .text "a.luau"), ("diagnostics", .list (doubledWarnings.map violationRecord))]]) ∧
      (ruledCheck doubledOutput).ending = .status 0 := by
  have sorted : argumentsOf .check ["-w", "/w", "-r", "/r.luau", "a.luau"] =
      .request ⟨[⟨"--workspace", some "/w"⟩, ⟨"--rules", some "/r.luau"⟩], ["a.luau"]⟩ := by cbv
  have asks : Command.request (filesWith [120, 10]) .check
      ["--json", "-w", "/w", "-r", "/r.luau", "a.luau"] = .request (.check ruledRequest) :=
    (request_json_check sorted rfl).trans rfl
  have failing : (doubledOutput (.ofText "a.luau")).2.Bounded := by
    refine ⟨?_, by simp [doubledOutput, ProcessEnd.violations]⟩
    rintro digits ⟨stdout, stderr, same, -⟩
    cases same
  have bounded : Bounded ruledSettings doubledOutput (.ofText "a.luau") :=
    ⟨ordinary_doubled.1.toBounded, fun _ => failing⟩
  have free := nulFree_ruledRequest
  have hosted : Hosted _ _ _ doubledOutput _ :=
    free.hosted ordinary_doubled.1.startable (by simp [doubledOutput])
  have listed : passViolations ruledSettings doubledOutput (.ofText "a.luau") =
      doubledWarnings := by
    rw [passViolations, ordinary_doubled.2]
    rfl
  obtain ⟨lists, -⟩ := check_lists_violations doubledOutput (called_check _) asks rfl
    equipped_ruledRequest (by simpa [ruledRequest] using ⟨"x\n", rfl⟩) (by simp [ruledRequest])
    (fun path mem _ => by
      obtain rfl : path = .ofText "a.luau" := List.mem_singleton.mp mem
      exact bounded)
    (fun path mem _ => by
      obtain rfl : path = .ofText "a.luau" := List.mem_singleton.mp mem
      exact hosted)
  have linted : ruledRequest.files.filter (lints ruledSettings) = [.ofText "a.luau"] := by
    decide +kernel
  have ends : runEnds ruledSettings doubledOutput ruledRequest.files =
      [(doubledOutput (.ofText "a.luau")).1, (doubledOutput (.ofText "a.luau")).2] := by
    rw [runEnds, linted]
    rfl
  have named : (FilePath.ofText "a.luau").text = "a.luau" := by decide +kernel
  rw [linted] at lists
  obtain ⟨decoded, ending⟩ := lists.mpr fun path mem => by
    obtain rfl : path = .ofText "a.luau" := List.mem_singleton.mp mem
    exact free
  rw [ends, List.map_singleton, pathRecord, listed, named] at decoded
  rw [ends] at ending
  refine ⟨bounded, hosted, decoded, ending.trans ?_⟩
  simp [listed, doubledWarnings, Activity.fixable, Severity.number]

/-- The process of the first pass is refused. -/
def refusedOutput : Outputs := fun _ => (.refusedArgument, .usual)

theorem equipped_nulRequest : warningRequest.asJson.Equipped Server.plainSurroundings
    (filesWith [120, 0]) ⟨.default, .default⟩ ⟨"/h/.foreman/bin/lute", some "/w", .foreman⟩ :=
  ⟨rfl, rfl⟩

/-- A file whose text holds a NUL keeps the check from its report, though its linter would print
nothing that is out of bounds. -/
theorem nul_text_unlisted :
    let fs := filesWith [120, 0]
    let request := warningRequest.asJson
    let checked := run Server.plainSurroundings fs [.refusedArgument]
      ["check", "--json", "-w", "/w", "a.luau"]
    fs.readText (.ofText "a.luau") = .ok "x\x00" ∧
      Bounded ⟨.default, .default⟩ refusedOutput (.ofText "a.luau") ∧
      Hosted (request.search Server.plainSurroundings fs ⟨.default, .default⟩).session
        ⟨"/h/.foreman/bin/lute", some "/w", .foreman⟩ fs refusedOutput (.ofText "a.luau") ∧
      checked.stdout = "" ∧ checked.ending = .failed .nulCharacter := by
  intro fs request checked
  have reads : fs.readText (.ofText "a.luau") = .ok "x\x00" := rfl
  have bounded : Bounded ⟨.default, .default⟩ refusedOutput (.ofText "a.luau") := by
    have first : ProcessEnd.refusedArgument.Bounded := by
      refine ⟨?_, by simp [ProcessEnd.violations]⟩
      rintro digits ⟨stdout, stderr, same, -⟩
      cases same
    exact ⟨first, fun two => by cases two⟩
  have hosted : Hosted (request.search Server.plainSurroundings fs ⟨.default, .default⟩).session
      ⟨"/h/.foreman/bin/lute", some "/w", .foreman⟩ fs refusedOutput (.ofText "a.luau") := by
    rw [search_discovering equipped_nulRequest]
    refine ⟨fun text reads' => ?_, fun text rules _ told => ?_⟩
    · obtain rfl : text = "x\x00" := by simpa [reads] using reads'.symm
      exact iff_of_true rfl (by decide +kernel)
    · cases told
  have lint : lints ⟨.default, .default⟩ (.ofText "a.luau") = true := by decide +kernel
  have ends : runEnds ⟨.default, .default⟩ refusedOutput request.files = [.refusedArgument] := by
    have linted : request.files.filter (lints ⟨.default, .default⟩) = [.ofText "a.luau"] := by
      decide +kernel
    rw [runEnds, linted]
    rfl
  have asks : Command.request fs .check ["--json", "-w", "/w", "a.luau"] =
      .request (.check request) := by
    rw [request_json, show Command.request fs .check _ = _ from checkLine_asks _]
    rfl
  have unlisted := run_of_refused refusedOutput (called_check _) asks
    equipped_nulRequest (by simpa [request, warningRequest, CheckRequest.asJson] using
        ⟨"x\x00", reads⟩)
    (fun path mem _ => by
      obtain rfl : path = .ofText "a.luau" := List.mem_singleton.mp mem
      exact bounded)
    ⟨.ofText "a.luau", List.mem_singleton.mpr rfl, lint, fun told => told.first.startable rfl⟩
  rw [ends] at unlisted
  exact ⟨reads, bounded, hosted, unlisted⟩

end Cli

end LintBridge
