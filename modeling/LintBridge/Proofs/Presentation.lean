import LintBridge.Proofs.Foretold
import LintBridge.Proofs.Relint
import LintBridge.Proofs.Reports
/-!
The two forms in which a check presents what it found. The word that asks for JSON changes nothing
of a line but that, so that both forms lint the same files alike, and whatever keeps one of them
from a report keeps the other one from it in the same way. With a report they end alike, and the
tables have a row for each diagnostic of the JSON text, exactly if the console writes the report on
every file; it does not if a name, a code or a message has a closing tag that matches no open one
(`Cli.check_forms_agree_iff`).
-/
namespace LintBridge

namespace Cli

/-- Arguments with one more option in front. -/
def Arguments.led (o : GivenOption) (a : Arguments) : Arguments :=
  { a with options := o :: a.options }

variable {o : GivenOption} {specs : List OptionSpec}

theorem takeLetters_led (letters : List Char) (rest : List String) (a : Arguments) :
    takeLetters specs letters rest (a.led o) =
      (takeLetters specs letters rest a).map fun (a, rest) => (a.led o, rest) := by
  induction letters generalizing a with
  | nil => rfl
  | cons c letters ih =>
    unfold takeLetters
    dsimp only
    split
    next => rfl
    next spec _ =>
      split
      next => exact ih (a.addOption spec none)
      next =>
        split
        · rfl
        · cases rest <;> rfl

theorem takeOption_led (word : String) (rest : List String) (a : Arguments) :
    takeOption specs word rest (a.led o) =
      (takeOption specs word rest a).map fun (a, rest) => (a.led o, rest) := by
  unfold takeOption
  generalize splitEquals word = parts
  obtain ⟨name, attached⟩ := parts
  dsimp only
  split
  next spec _ =>
    split
    · cases attached with
      | some value => rfl
      | none => cases rest <;> rfl
    · split <;> rfl
  next =>
    split
    · rfl
    · exact takeLetters_led _ _ _

theorem sortFuel_led (stops : Bool) (fuel : Nat) (words : List String) (a : Arguments) :
    sortFuel specs stops fuel words (a.led o) =
      (sortFuel specs stops fuel words a).map (Arguments.led o) := by
  induction fuel generalizing words a with
  | zero => rfl
  | succ fuel ih =>
    cases words with
    | nil => rfl
    | cons word rest =>
      unfold sortFuel
      split
      · rfl
      · split
        · rw [takeOption_led]
          cases takeOption specs word rest a with
          | error f => rfl
          | ok taken => exact ih taken.2 taken.1
        · split
          · rfl
          · exact ih rest (a.addWord word)

/-- The option that asks for JSON. -/
def jsonOption : GivenOption := ⟨"--json", none⟩

theorem ofWords_json (words : List String) :
    Arguments.ofWords (Command.options .check) false ("--json" :: words) =
      (Arguments.ofWords (Command.options .check) false words).map (Arguments.led jsonOption) := by
  have taken : takeOption (Command.options .check) "--json" words ⟨[], []⟩ =
      .ok (⟨[jsonOption], []⟩, words) := by
    cbv
  have option : ("--json".startsWith "-" && "--json" ≠ "-") = true := by decide +kernel
  unfold Arguments.ofWords
  rw [← sortFuel_led, List.length_cons, sortFuel, if_neg (by decide), if_pos option, taken]
  rfl

/-- Change what is asked for, if anything is. -/
def Asked.onRequest {α : Type} (f : α → α) (a : Asked α) : Asked α := a.bind fun x => .request (f x)

theorem argumentsOf_json (words : List String) : argumentsOf .check ("--json" :: words) =
    (argumentsOf .check words).onRequest (Arguments.led jsonOption) := by
  unfold argumentsOf
  have dashes : (decide (Command.check = Command.program)) = false := rfl
  rw [dashes, show Command.check.options = Command.options .check from rfl, ofWords_json]
  cases Arguments.ofWords (Command.options .check) false words with
  | error f => rfl
  | ok a =>
    have found : (a.led jsonOption).options.find?
        (fun o => o.name = "--help" || o.name = "--version") =
        a.options.find? fun o => o.name = "--help" || o.name = "--version" :=
      List.find?_cons_of_neg (by decide)
    dsimp only [Except.map]
    rw [found]
    cases a.options.find? fun o => o.name = "--help" || o.name = "--version" with
    | none => rfl
    | some o =>
      dsimp only
      split <;> rfl

theorem value?_led {name : String} (other : name ≠ o.name) (a : Arguments) :
    (a.led o).value? name = a.value? name := by
  unfold Arguments.value? Arguments.led
  rw [List.reverse_cons, List.find?_append, List.find?_cons_of_neg (by simpa using other.symm)]
  simp

/-- A request for JSON. -/
def CheckRequest.asJson (r : CheckRequest) : CheckRequest := { r with json := true }

variable {fs : FileSystem}

theorem checkRequest_json (a : Arguments) :
    checkRequest fs (a.led jsonOption) = (checkRequest fs a).onRequest CheckRequest.asJson := by
  have asked : (a.led jsonOption).has "--json" = true := by
    simp [Arguments.has, Arguments.led, jsonOption]
  have words : (a.led jsonOption).words = a.words := rfl
  have next (workspace : Option FilePath) :
      (if a.words.isEmpty then .misused .check (.operandMissing "FILES...")
        else do
          let files ← a.words.mapM (filePath fs .check "'FILES...'")
          return ⟨files, workspace, a.value? "--executable", a.value? "--rules", true⟩) =
      (if a.words.isEmpty then .misused .check (.operandMissing "FILES...")
        else do
          let files ← a.words.mapM (filePath fs .check "'FILES...'")
          return ⟨files, workspace, a.value? "--executable", a.value? "--rules", a.has "--json"⟩ :
        Asked CheckRequest).onRequest CheckRequest.asJson := by
    split
    · rfl
    · cases a.words.mapM (filePath fs .check "'FILES...'") <;> rfl
  unfold checkRequest
  rw [value?_led (by decide), value?_led (by decide), value?_led (by decide), asked, words]
  cases a.value? "--workspace" with
  | none => exact next none
  | some path =>
    cases h : directoryPath fs .check "'--workspace' / '-w'" path with
    | request workspace =>
      dsimp only
      rw [h]
      exact next (some workspace)
    | _ =>
      dsimp only
      rw [h]
      rfl

/-- The word that asks for JSON changes a request to one for JSON, and nothing else of a line. -/
theorem request_json (words : List String) :
    Command.request fs .check ("--json" :: words) = (Command.request fs .check words).onRequest
      fun r => match r with
        | .check r => .check r.asJson
        | r => r := by
  unfold Command.request
  rw [argumentsOf_json]
  cases argumentsOf .check words with
  | request a =>
    change (do
      let r ← checkRequest fs (a.led jsonOption)
      pure (Request.check r) : Asked Request) = _
    rw [checkRequest_json]
    change _ = Asked.onRequest _ (do
      let r ← checkRequest fs a
      pure (Request.check r) : Asked Request)
    cases checkRequest fs a <;> rfl
  | _ => rfl

open Check (Showable Shows)

/-- Two runs that report on the same files with the same status, one as JSON and the other one on a
console as far as that writes it. -/
structure Reported (console : Console.Writer) (plain json : Run)
    (entries : List (FilePath × Outcome)) (status : Nat) : Prop where
  ended : json.ending = .status status
  listed : Json.decode json.stdout =
    .ok (.list (entries.map fun e => Check.fileRecord e.1 e.2))
  shown : Showable console entries → plain.ending = .status status ∧
    ∃ reports, List.Forall₂ (Shows console) entries reports ∧ plain.stdout = String.join reports
  broken : ¬ Showable console entries → ∃ fault, plain.ending = .failed (.markup fault)

/-- The two forms end alike exactly if the console writes everything. -/
theorem Reported.sameEnding_iff {console : Console.Writer} {plain json : Run}
    {entries : List (FilePath × Outcome)} {status : Nat}
    (h : Reported console plain json entries status) :
    plain.ending = json.ending ↔ Showable console entries := by
  rw [h.ended]
  constructor
  · intro same
    by_contra hidden
    obtain ⟨fault, broken⟩ := h.broken hidden
    cases same.symm.trans broken
  · intro showable
    exact (h.shown showable).1

/-- Two runs that do the same, and either are the same or differ by their reports. -/
structure Agree (console : Console.Writer) (plain json : Run) : Prop where
  effects : plain.effects = json.effects
  files : plain.files = json.files
  reports : plain = json ∨ ∃ entries status, Reported console plain json entries status

theorem Agree.refl (console : Console.Writer) (r : Run) : Agree console r r := ⟨rfl, rfl, .inl rfl⟩

/-- The status with which a check ends that comes to a report. -/
def statusOf (outcomes : List Outcome) : Nat := if Check.anyErrors outcomes then 1 else 0

variable {around : Surroundings} {ends : List ProcessEnd} {r : Run} {request : CheckRequest}

/-- The reports on what was linted. -/
theorem reported_reportChecks (console : Console.Writer) (silent : r.stdout = "")
    (plainly : request.json = false) (outcomes : List Outcome) :
    Reported console (reportChecks console r request outcomes)
      (reportChecks console r request.asJson outcomes)
      (Check.spelled r.files request.files outcomes) (statusOf outcomes) := by
  have json : reportChecks console r request.asJson outcomes =
      { r.print (Check.jsonReport (Check.spelled r.files request.files outcomes)) with
        ending := .status (statusOf outcomes) } := rfl
  have plain {report : String} {fault : Option Console.MarkupFault}
      (written : Check.textReport console (Check.spelled r.files request.files outcomes) =
        (report, fault)) : reportChecks console r request outcomes = { r.print report with
          ending := fault.elim (.status (statusOf outcomes)) fun f => .failed (.markup f) } := by
    unfold reportChecks
    rw [plainly, if_neg Bool.false_ne_true, written]
    cases fault <;> rfl
  have printed (s : String) : (r.print s).stdout = s := by
    rw [Run.print, silent, String.empty_append]
  have listed := Check.decode_jsonReport (Check.spelled r.files request.files outcomes)
  rw [json]
  obtain ⟨showable, reports, shows, written⟩ | ⟨hidden, report, fault, written⟩ :=
    Check.textReport_cases console (Check.spelled r.files request.files outcomes)
  · rw [plain written]
    refine ⟨rfl, ?_, fun _ => ⟨rfl, reports, shows, printed _⟩,
      fun hidden => absurd showable hidden⟩
    exact (congrArg Json.decode (printed _)).trans listed
  · rw [plain written]
    refine ⟨rfl, ?_, fun showable => absurd showable hidden, fun _ => ⟨fault, rfl⟩⟩
    exact (congrArg Json.decode (printed _)).trans listed

theorem agree_reportLinted (console : Console.Writer) (silent : r.stdout = "")
    (plainly : request.json = false) (turn : Turn (Except Failure (List Outcome))) :
    Agree console (reportLinted console r request turn)
        (reportLinted console r request.asJson turn) ∧
      ∀ outcomes, turn.value = .ok outcomes →
        Reported console (reportLinted console r request turn)
          (reportLinted console r request.asJson turn)
          (Check.spelled turn.files request.files outcomes) (statusOf outcomes) := by
  unfold reportLinted
  cases turn.value with
  | error f => exact ⟨.refl console _, by simp⟩
  | ok outcomes =>
    have linted : ({ r.did turn.effects with files := turn.files } : Run).stdout = "" := silent
    have reported := reported_reportChecks console linted plainly outcomes
    obtain ⟨effects, files⟩ :=
      reportChecks_kept console { r.did turn.effects with files := turn.files } request outcomes
    obtain ⟨effects', files'⟩ :=
      reportChecks_kept console { r.did turn.effects with files := turn.files } request.asJson
        outcomes
    refine ⟨⟨effects.trans effects'.symm, files.trans files'.symm, .inr ⟨_, _, reported⟩⟩, ?_⟩
    rintro _ ⟨⟩
    exact reported

/-- A check with a configuration, in both forms. -/
theorem agree_checkWith (around : Surroundings) (ends : List ProcessEnd) (silent : r.stdout = "")
    (plainly : request.json = false) (root : FilePath) (settings : Config.Settings) :
    let found := (oneSession around r.files root settings).ensureToolchain r.files
    let plain := checkWith around ends request root r settings
    let json := checkWith around ends request.asJson root r settings
    Agree around.console plain json ∧ ∀ t outcomes, found.value = .ok (some t) →
      (Check.lintFiles found.session r.files ends request.files).value = .ok outcomes →
      Reported around.console plain json (Check.spelled r.files request.files outcomes)
        (statusOf outcomes) := by
  intro found plain json
  have provided := (oneSession around r.files root settings).provided r.files
  have unlinted (other : ∀ t, found.value ≠ .ok (some t)) : plain = json := by
    simp only [plain, json, checkWith]
    rcases value : ((oneSession around r.files root settings).ensureToolchain r.files).value with
      e | _ | t
    · rfl
    · rfl
    · exact absurd value (other t)
  rcases linter : found.value with e | _ | t
  · rw [unlinted (by simp [linter])]
    exact ⟨.refl around.console _, by simp⟩
  · rw [unlinted (by simp [linter])]
    exact ⟨.refl around.console _, by simp⟩
  · have files := (lintFiles_known r.files (provided.toolchain linter) ends request.files).1
    have both := agree_reportLinted (r := r.did found.effects) around.console silent plainly
      (Check.lintFiles found.session r.files ends request.files)
    rw [files] at both
    simp only [plain, json, checkWith_found ends _ linter]
    exact ⟨both.1, fun _ => fun outcomes _ linted => both.2 outcomes linted⟩

/-- The workspace of a check. -/
def CheckRequest.root (request : CheckRequest) (fs : FileSystem) : FilePath :=
  (request.workspace.getD ⟨0, []⟩).resolved fs.workingDirectory

/-- The configuration of a check. -/
def CheckRequest.loaded (request : CheckRequest) (around : Surroundings) (fs : FileSystem) :
    Config.Loaded :=
  settingsFor around fs (request.root fs) (overrides request.executable request.rules)

/-- The search for the linter of a check. -/
def CheckRequest.search (request : CheckRequest) (around : Surroundings) (fs : FileSystem)
    (settings : Config.Settings) : Turn (Except SystemError (Option Toolchain)) :=
  (oneSession around fs (request.root fs) settings).ensureToolchain fs

/-- A check with a configuration and a linter. -/
structure CheckRequest.Equipped (request : CheckRequest) (around : Surroundings) (fs : FileSystem)
    (settings : Config.Settings) (t : Toolchain) : Prop where
  loads : (request.loaded around fs).result = .ok settings
  linter : (request.search around fs settings).value = .ok (some t)

/-- A check whose linter is installed in the home directory has discovered it. -/
theorem search_discovering {request : CheckRequest} {around : Surroundings} {fs : FileSystem}
    {settings : Config.Settings} {executable directory : String}
    (equipped : request.Equipped around fs settings ⟨executable, some directory, .foreman⟩) :
    (request.search around fs settings).session =
      (oneSession around fs (request.root fs) settings).discovering executable directory := by
  have linter := equipped.linter
  have provided := (oneSession around fs (request.root fs) settings).provided fs
  unfold CheckRequest.search at linter ⊢
  generalize Session.ensureToolchain _ _ = turn at provided linter ⊢
  cases provided with
  | known there => cases there
  | discovered unknown quiet unnamed filled sought =>
    cases linter
    rfl
  | _ => simp at linter

/-- What the linting of the files of a check gives. -/
def CheckRequest.linted (request : CheckRequest) (around : Surroundings) (fs : FileSystem)
    (ends : List ProcessEnd) (settings : Config.Settings) : Except Failure (List Outcome) :=
  (Check.lintFiles (request.search around fs settings).session fs ends request.files).value

/-- Both forms of a check agree, and both come to a report if its files can be linted. -/
theorem agree_runCheck (around : Surroundings) (ends : List ProcessEnd) (silent : r.stdout = "")
    (plainly : request.json = false) :
    Agree around.console (runCheck around ends r request) (runCheck around ends r request.asJson) ∧
      ∀ settings t outcomes, request.Equipped around r.files settings t →
        request.linted around r.files ends settings = .ok outcomes →
        Reported around.console (runCheck around ends r request)
          (runCheck around ends r request.asJson)
          (Check.spelled r.files request.files outcomes) (statusOf outcomes) := by
  have plain : runCheck around ends r request = withSettings r (request.loaded around r.files)
      (checkWith around ends request (request.root r.files)) := runCheck_eq around ends r request
  have json : runCheck around ends r request.asJson = withSettings r
      (request.loaded around r.files)
      (checkWith around ends request.asJson (request.root r.files)) :=
    runCheck_eq around ends r request.asJson
  rw [plain, json]
  cases loads : (request.loaded around r.files).result with
  | error f =>
    simp only [withSettings, loads]
    refine ⟨.refl around.console _, fun settings t outcomes equipped => ?_⟩
    cases equipped.loads.symm.trans loads
  | ok settings =>
    simp only [withSettings, loads]
    have both := agree_checkWith (r := r.did (Session.reports none
      (request.loaded around r.files).events)) around ends silent plainly (request.root r.files)
      settings
    refine ⟨both.1, fun settings' t outcomes equipped linted => ?_⟩
    cases equipped.loads.symm.trans loads
    exact both.2 t outcomes equipped.linter linted

/-- The address of a file names no host, so that its folder can be told. -/
theorem rootFor_uriOf (roots : List FilePath) (fs : FileSystem) (path : FilePath) :
    ∃ root, Session.rootFor roots (Check.uriOf fs path) = .ok root := by
  have absolute : Path.isAbsolute (path.resolved fs.workingDirectory).text.toList = true := by
    simp [FilePath.text, FilePath.resolved, Path.assemble, Path.isAbsolute]
  have noFault : Uri.hostFault? [] = none := by decide +kernel
  refine (Session.exists_rootFor_iff roots).mpr ?_
  rwa [Check.uriOf, Uri.parts_ofPath absolute]

theorem rulesPath_uriOf (s : Session) (fs : FileSystem) (path : FilePath) :
    ∃ rules, s.rulesPath (Check.uriOf fs path) = .ok rules := by
  obtain ⟨root, told⟩ := rootFor_uriOf s.roots fs path
  unfold Session.rulesPath
  split
  · exact ⟨none, rfl⟩
  · rw [told]
    exact ⟨_, rfl⟩

/-- A process that prints a batch which can be told in the editor protocol has an ordinary end. -/
theorem ordinary_of_parse {octets stderr : List UInt8} {vs : List Violation}
    (parsed : Batch.parse (Text.Utf8.decodeLenient octets) = .ok vs) (fits : ∀ v ∈ vs, v.Fits) :
    (ProcessEnd.exited (some 0) octets stderr).Ordinary ∧
      (ProcessEnd.exited (some 0) octets stderr).violations = vs := by
  have violations : (ProcessEnd.exited (some 0) octets stderr).violations = vs := by
    simp [ProcessEnd.violations, parsed, Except.toOption]
  refine ⟨⟨⟨?_, by rwa [violations]⟩, by simp⟩, violations⟩
  rintro digits ⟨stdout, stderr', same, overlong⟩
  obtain ⟨rfl, -⟩ : octets = stdout ∧ stderr = stderr' := by simpa using same
  unfold Batch.Overlong at overlong
  simp [Batch.parse, overlong] at parsed

theorem ordinary_usual : ProcessEnd.usual.Ordinary := by
  have same : ProcessEnd.usual = Session.emptyBatch := by cbv
  exact same ▸ Session.ordinary_emptyBatch

/-- The next one of ordinary ends is an ordinary one, also behind the last. -/
theorem ordinary_headD (ordinary : ∀ e ∈ ends, e.Ordinary) : (ends.headD .usual).Ordinary := by
  cases ends with
  | nil => exact ordinary_usual
  | cons e ends => exact ordinary e List.mem_cons_self

variable {s : Session} {t : Toolchain}

/-- A cycle of a session that knows its linter does not fail if its processes have ordinary ends. -/
theorem outcomeOf_isOk (fs : FileSystem) (known : s.toolchain = some t) (timed : s.Timed)
    (path : FilePath) (source : String) (language : Option String)
    (ordinary : ∀ e ∈ ends, e.Ordinary) : ∃ o, outcomeOf
      (s.lintDocument fs true none (Check.uriOf fs path) source language ends).value = .ok o := by
  cases linted : s.isLintable language with
  | false =>
    obtain ⟨es, -, skipped⟩ :=
      Session.lintDocument_skipped linted fs (Check.uriOf fs path) source ends
    rw [skipped]
    exact ⟨none, rfl⟩
  | true =>
    have there : s.ensureToolchain fs = ⟨s, fs, [], .ok (some t)⟩ := by
      simp [Session.ensureToolchain, known]
    have linter : (s.ensureToolchain fs).value = .ok (some t) := by rw [there]
    have concludes :=
      Session.concludes_lintDocument linted linter true (Check.uriOf fs path) source ends
    rw [there] at concludes
    obtain ⟨rules, readable⟩ := rulesPath_uriOf (s.advance (Check.uriOf fs path)) fs path
    have later : (ends.tail.headD .usual).Ordinary :=
      ordinary_headD fun e mem => ordinary e (List.mem_of_mem_tail mem)
    obtain ⟨findings, upshot⟩ := (Session.upshot_isOk_iff (timed.hasNoTime t)).mpr
      ⟨rules, readable, ordinary_headD ordinary, fun _ => later⟩
    rw [concludes.value, upshot]
    exact ⟨_, rfl⟩

/-- Files that hold text are linted without a failure by a session that knows its linter, if its
processes have ordinary ends. -/
theorem lintFiles_isOk (fs : FileSystem) (known : s.toolchain = some t) (timed : s.Timed)
    (ordinary : ∀ e ∈ ends, e.Ordinary) {paths : List FilePath}
    (texts : ∀ path ∈ paths, ∃ text, fs.readText path = .ok text) :
    ∃ outcomes, (Check.lintFiles s fs ends paths).value = .ok outcomes := by
  induction paths generalizing s ends with
  | nil => exact ⟨[], rfl⟩
  | cons path rest ih =>
    obtain ⟨⟨text, reads⟩, others⟩ := List.forall_mem_cons.mp texts
    obtain ⟨o, first⟩ :=
      outcomeOf_isOk fs known timed path text (Check.language? path) ordinary
    obtain ⟨still, config, files, -⟩ := s.lintDocument_known fs known (Check.uriOf fs path) text
      (Check.language? path) ends
    rw [lintFiles_cons, reads, lintRead]
    generalize s.lintDocument fs true none (Check.uriOf fs path) text (Check.language? path)
      ends = turn at first still config files ⊢
    obtain ⟨outcomes, rest⟩ := ih still (timed.of_timeout (by rw [config]))
      (fun e mem => ordinary e (List.mem_of_mem_drop mem)) others
    rw [first, files]
    exact ⟨o.toList ++ outcomes, congrArg (Except.map _) rest⟩

/-- Nothing keeps a check with a configuration and a linter from a report, if its files hold text
and its processes have ordinary ends. -/
theorem linted_isOk {settings : Config.Settings} (equipped : request.Equipped around fs settings t)
    (texts : ∀ path ∈ request.files, ∃ text, fs.readText path = .ok text)
    (ordinary : ∀ e ∈ ends, e.Ordinary) :
    ∃ outcomes, request.linted around fs ends settings = .ok outcomes := by
  have provided := (oneSession around fs (request.root fs) settings).provided fs
  have timed : (oneSession around fs (request.root fs) settings).Timed :=
    Config.timed_of_load equipped.loads rfl
  exact lintFiles_isOk fs (provided.toolchain equipped.linter)
    (timed.of_timeout (Session.ensureToolchain_kept _ fs).2.2.2.2) ordinary texts

/-- A check as its words ask for it. -/
theorem run_check (words : List String) : run around fs ends ("check" :: words) =
    (Run.idle fs (some (firstLog false))).answer (Command.request fs .check words)
      (runRequest around ends false (Run.idle fs (some (firstLog false)))) := by
  unfold run
  rw [called_check]
  rfl

/-- The linting of a file alone. -/
theorem lintFiles_one (s : Session) (ends : List ProcessEnd) {path : FilePath} {text : String}
    (reads : fs.readText path = .ok text) : (Check.lintFiles s fs ends [path]).value =
      (outcomeOf (s.lintDocument fs true none (Check.uriOf fs path) text (Check.language? path)
        ends).value).map Option.toList := by
  rw [lintFiles_cons, reads, lintRead]
  cases outcomeOf (s.lintDocument fs true none (Check.uriOf fs path) text (Check.language? path)
    ends).value with
  | error f => rfl
  | ok o => simp [Check.lintFiles, Except.map]

/-- Both forms of a check do the same, and either they are the same, as nothing is reported, or they
report on the same files. They come to a report on all files that hold text, with a configuration, a
linter and processes with ordinary ends; then they end alike exactly if the console writes the
report on every file. A console that refuses closing tags which match no open one does not, if such
a tag is in the name of a file, in a code or in a message. -/
theorem check_forms_agree_iff (around : Surroundings) (fs : FileSystem) (ends : List ProcessEnd)
    (words : List String) :
    let plain := run around fs ends ("check" :: words)
    let json := run around fs ends ("check" :: "--json" :: words)
    Agree around.console plain json ∧
      ∀ request settings t, Command.request fs .check words = .request (.check request) →
        request.json = false → request.Equipped around fs settings t →
        (∀ path ∈ request.files, ∃ text, fs.readText path = .ok text) →
        (∀ e ∈ ends, e.Ordinary) →
        ∃ outcomes, request.linted around fs ends settings = .ok outcomes ∧
          let entries := Check.spelled fs request.files outcomes
          Reported around.console plain json entries (statusOf outcomes) ∧
            (plain.ending = json.ending ↔ Showable around.console entries) ∧
            ∀ normal, around.console.Reads normal → plain.ending = json.ending →
              ∀ e ∈ entries, ∀ text ∈ Check.foreignTexts e.1 e.2, Console.Closed normal text := by
  intro plain json
  let idle := Run.idle fs (some (firstLog false))
  have plainIs : plain = idle.answer (Command.request fs .check words)
      (runRequest around ends false idle) := run_check words
  have jsonIs : json = idle.answer (Command.request fs .check ("--json" :: words))
      (runRequest around ends false idle) := run_check _
  rw [request_json] at jsonIs
  rw [plainIs, jsonIs]
  cases Command.request fs .check words with
  | request asked =>
    cases asked with
    | check request =>
      have both (plainly : request.json = false) :=
        agree_runCheck (r := idle) around ends rfl plainly
      refine ⟨?_, ?_⟩
      · cases json : request.json with
        | false => exact (both json).1
        | true =>
          have same : request.asJson = request := by rw [CheckRequest.asJson, ← json]
          change Agree around.console (runCheck around ends idle request)
            (runCheck around ends idle request.asJson)
          rw [same]
          exact .refl around.console _
      · rintro _ settings t ⟨⟩ plainly equipped texts ordinary
        obtain ⟨outcomes, linted⟩ := linted_isOk equipped texts ordinary
        have reported := (both plainly).2 settings t outcomes equipped linted
        refine ⟨outcomes, linted, reported, reported.sameEnding_iff, ?_⟩
        intro normal reads alike e mem
        obtain ⟨report, written⟩ := reported.sameEnding_iff.mp alike e mem
        exact Check.closed_of_fileText reads written
    | resolve request => exact ⟨.refl around.console _, by rintro _ _ _ ⟨⟩⟩
    | serve listening => exact ⟨.refl around.console _, by rintro _ _ _ ⟨⟩⟩
  | _ => exact ⟨.refl around.console _, by rintro _ _ _ ⟨⟩⟩

/-- A warning with a message. -/
def warningWith (message : List Char) : Violation :=
  ⟨⟨⟨⟨1, 0⟩, ⟨1, 2⟩⟩, by decide⟩, .warning, "c", "l", String.ofList message, none, none, none⟩

/-- A batch of it. -/
def warningText (message : List Char) : List Char :=
  "[\x7b\"range\":".toList ++
    Activity.printedRange (Activity.printedPosition '1' '0') (Activity.printedPosition '1' '2') ++
    ",\"severity\":2,\"code\":\"c\",\"source\":\"l\",\"message\":\"".toList ++ message ++
    "\"\x7d]".toList

def warningBatch (message : List Char) : List UInt8 :=
  (warningText message).map fun c => UInt8.ofNat c.toNat

/-- A process that prints the batch. -/
def warningEnd (message : List Char) : ProcessEnd := .exited (some 0) (warningBatch message) []

/-- The check of a file. -/
def warningRequest : CheckRequest := ⟨[.ofText "a.luau"], some (.ofText "/w"), none, none, false⟩

theorem equipped_warningRequest : warningRequest.Equipped Server.plainSurroundings
    (filesWith [120, 10]) ⟨.default, .default⟩ ⟨"/h/.foreman/bin/lute", some "/w", .foreman⟩ :=
  ⟨rfl, rfl⟩

/-- The process has an ordinary end if its batch is read as the warning. -/
theorem ordinary_warningEnd {message : List Char}
    (parsed : Batch.parse (Text.Utf8.decodeLenient (warningBatch message)) =
      .ok [warningWith message]) :
    (warningEnd message).Ordinary ∧ (warningEnd message).violations = [warningWith message] := by
  refine ordinary_of_parse parsed fun v mem => ?_
  obtain rfl : v = warningWith message := by simpa using mem
  simp [warningWith, Violation.Fits, Interval.Fits, Position.Fits, maxCoordinate]

/-- The outcome of a check of the file whose linter prints the batch. -/
theorem linted_warningRequest {message : List Char}
    (parsed : Batch.parse (Text.Utf8.decodeLenient (warningBatch message)) =
      .ok [warningWith message]) :
    ∃ f : Finding, Check.findingRow f =
        ["2:1", "[yellow]warning[/yellow]", "c", String.ofList message, ""] ∧
      warningRequest.linted Server.plainSurroundings (filesWith [120, 10]) [warningEnd message]
        ⟨.default, .default⟩ = .ok [⟨"file:///w/a.luau", 1, [f], 1⟩] := by
  let fs := filesWith [120, 10]
  let uri := "file:///w/a.luau"
  let s := (oneSession Server.plainSurroundings fs (warningRequest.root fs)
    ⟨.default, .default⟩).discovering "/h/.foreman/bin/lute" "/w"
  let t : Toolchain := ⟨"/h/.foreman/bin/lute", some "/w", .foreman⟩
  obtain ⟨ordinary, violations⟩ := ordinary_warningEnd parsed
  obtain ⟨f, start, severity, code, same, fix, translated⟩ : ∃ f : Finding,
      f.diagnostic.range.start = ⟨1, 0⟩ ∧ f.diagnostic.severity = .warning ∧
      f.diagnostic.code = "c" ∧ f.diagnostic.message = String.ofList message ∧ f.fix = none ∧
      Violation.findings uri [warningWith message] = .ok [f] := ⟨_, rfl, rfl, rfl, rfl, rfl, rfl⟩
  have location : s!"{1 + 1}:{0 + 1}" = "2:1" := by decide +kernel
  have row : Check.findingRow f =
      ["2:1", "[yellow]warning[/yellow]", "c", String.ofList message, ""] := by
    rw [Check.findingRow, start, severity, code, same, fix, location]
    rfl
  have there : s.ensureToolchain fs = ⟨s, fs, [], .ok (some t)⟩ := rfl
  have first : Session.passResult (s.plan t) none (warningEnd message) =
      .ok [warningWith message] := by
    rw [← violations]
    exact ordinary.result rfl
  have rules : (s.advance uri).rulesPath uri = .ok none := rfl
  have upshot : (s.advance uri).upshot (s.plan t) uri (warningEnd message) .usual = .ok [f] := by
    simp [Session.upshot, Session.gathered, first, rules, translated, Bind.bind, Except.bind,
      Except.mapError, pure, Except.pure]
  have single : (s.advance uri).commandLines (s.plan t) uri "x\n" (warningEnd message) =
      [Session.command (s.plan t) none "x\n"] := by
    simp [Session.commandLines, Session.secondPass, first, rules]
  have lintable : s.isLintable (some "luau") = true := rfl
  have ended := (Session.concludes_lintDocument lintable (by rw [there]) true uri "x\n"
    [warningEnd message]).value
  rw [there] at ended
  simp only [List.headD_cons, List.tail_cons, List.headD_nil, upshot, single] at ended
  refine ⟨f, row, ?_⟩
  have named : Check.uriOf fs (.ofText "a.luau") = uri := by decide +kernel
  have suffix : Check.language? (.ofText "a.luau") = some "luau" := rfl
  have reads : fs.readText (.ofText "a.luau") = .ok "x\n" := rfl
  rw [CheckRequest.linted, search_discovering equipped_warningRequest]
  change (Check.lintFiles s fs [warningEnd message] [.ofText "a.luau"]).value = _
  rw [lintFiles_one s [warningEnd message] reads, named, suffix, ended]
  rfl

theorem spelled_warningRequest (findings : List Finding) :
    Check.spelled (filesWith [120, 10]) warningRequest.files [
      ⟨"file:///w/a.luau", 1, findings, 1⟩] =
      [(.ofText "a.luau", ⟨"file:///w/a.luau", 1, findings, 1⟩)] := by
  have spelling : (Check.spellings (filesWith [120, 10]) warningRequest.files).get?
      "file:///w/a.luau" = some (.ofText "a.luau") := by
    decide +kernel
  simp [Check.spelled, spelling]

/-- The terminal writes the report on the file exactly if it shows the message. -/
theorem showable_warningRequest_iff {message : List Char} {f : Finding} (row : Check.findingRow f =
      ["2:1", "[yellow]warning[/yellow]", "c", String.ofList message, ""]) :
    Showable Server.plainSurroundings.console
        [(.ofText "a.luau", ⟨"file:///w/a.luau", 1, [f], 1⟩)] ↔
      ∃ t, Console.shown (· = ['(', ')']) (String.ofList message) = .ok t := by
  have styled : ∃ t, Console.shown (· = ['(', ')']) "[yellow]warning[/yellow]" = .ok t :=
    ⟨"warning".toList, toOption_eq_some_iff.mp (by decide +kernel)⟩
  have plain (s : String) (noTag : '[' ∉ s.toList) :
      ∃ t, Console.shown (· = ['(', ')']) s = .ok t := Console.exists_shown_of_plain noTag
  have written : Check.fileText Server.plainSurroundings.console (.ofText "a.luau")
      ⟨"file:///w/a.luau", 1, [f], 1⟩ = Console.Table.text (· = ['(', ')']) 80
        ⟨(FilePath.ofText "a.luau").text, Check.headings, [Check.findingRow f]⟩ := by
    rw [Check.fileText, if_neg (by simp), Check.fileTable_eq]
    rfl
  simp only [Showable, List.forall_mem_singleton, written, row, Console.exists_tableText_iff,
    List.forall_mem_cons, Check.headings]
  constructor
  · rintro ⟨-, -, -, -, -, shows, -⟩
    exact shows
  · intro shows
    exact ⟨plain _ (by decide +kernel), ⟨plain _ (by decide), plain _ (by decide),
      plain _ (by decide), plain _ (by decide), plain _ (by decide)⟩,
      plain _ (by decide), styled, plain _ (by decide), shows, plain _ (by decide)⟩

/-- A message with a tag that opens a style is shown, and both forms end alike. -/
theorem opening_tag_shown :
    let message := ['[', 'x', ']']
    let files := filesWith [120, 10]
    let ends := [warningEnd message]
    (run Server.plainSurroundings files ends ["check", "-w", "/w", "a.luau"]).ending =
        (run Server.plainSurroundings files ends
          ["check", "--json", "-w", "/w", "a.luau"]).ending ∧
      Server.plainSurroundings.console.Reads Console.terminalName ∧
      Console.Closed Console.terminalName "a.luau" := by
  intro message files ends
  have batch : Activity.batchOf? (warningText message) = some [warningWith message] := by
    decide +kernel
  have parsed : Batch.parse (Text.Utf8.decodeLenient (warningBatch message)) =
      .ok [warningWith message] := Activity.parse_of_batchOf? (by decide +kernel) batch
  obtain ⟨f, row, linted⟩ := linted_warningRequest parsed
  obtain ⟨-, reports⟩ := check_forms_agree_iff Server.plainSurroundings files ends
    ["-w", "/w", "a.luau"]
  obtain ⟨outcomes, linted', -, alike, closed⟩ := reports warningRequest _ _ (checkLine_asks _) rfl
    equipped_warningRequest (by simpa [warningRequest] using ⟨"x\n", rfl⟩)
    (by simpa [ends] using (ordinary_warningEnd parsed).1)
  cases linted.symm.trans linted'
  rw [show Check.spelled files _ _ = _ from spelled_warningRequest [f]] at alike closed
  have same := alike.mpr ((showable_warningRequest_iff row).mpr
    ⟨[], toOption_eq_some_iff.mp (by decide +kernel)⟩)
  have reads := Console.reads_terminal (· = ['(', ')']) 80
  have name : (FilePath.ofText "a.luau").text = "a.luau" := by decide +kernel
  refine ⟨same, reads, closed _ reads same _ (.head _) _ ?_⟩
  rw [Check.foreignTexts, name]
  exact .head _

/-- A message that is a closing tag breaks off the tables, though the batch holds a violation that
can be told in the editor protocol and the JSON text is written. -/
theorem closing_tag_breaks_tables :
    let message := ['[', '/', 'x', ']']
    let files := filesWith [120, 10]
    let ends := [warningEnd message]
    Batch.parse (Text.Utf8.decodeLenient (warningBatch message)) = .ok [warningWith message] ∧
    (warningEnd message).Ordinary ∧
    (∃ fault, (run Server.plainSurroundings files ends ["check", "-w", "/w", "a.luau"]).ending =
      .failed (.markup fault)) ∧
    ∃ status, (run Server.plainSurroundings files ends
      ["check", "--json", "-w", "/w", "a.luau"]).ending = .status status := by
  intro message files ends
  have batch : Activity.batchOf? (warningText message) = some [warningWith message] := by
    decide +kernel
  have parsed : Batch.parse (Text.Utf8.decodeLenient (warningBatch message)) =
      .ok [warningWith message] := Activity.parse_of_batchOf? (by decide +kernel) batch
  obtain ⟨f, row, linted⟩ := linted_warningRequest parsed
  have reported := (agree_runCheck (r := Run.idle files (some (firstLog false)))
    Server.plainSurroundings ends rfl rfl).2 _ _ _ equipped_warningRequest linted
  have asks : Command.request files .check ["-w", "/w", "a.luau"] =
      .request (.check warningRequest) := checkLine_asks _
  have unmatched : ¬ Console.Closed Console.terminalName (String.ofList message) := by
    decide +kernel
  have hidden : ¬ Showable Server.plainSurroundings.console (Check.spelled files
      warningRequest.files [⟨"file:///w/a.luau", 1, [f], 1⟩]) := by
    intro showable
    rw [spelled_warningRequest] at showable
    obtain ⟨t, shows⟩ := (showable_warningRequest_iff row).mp showable
    exact unmatched (Console.closed_of_shown shows)
  rw [run_check, run_check, request_json, asks]
  exact ⟨parsed, (ordinary_warningEnd parsed).1, reported.broken hidden, _, reported.ended⟩

end Cli

end LintBridge
