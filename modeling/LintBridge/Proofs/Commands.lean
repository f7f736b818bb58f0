import LintBridge.Cli.Program
import LintBridge.Proofs.Provision
import LintBridge.Proofs.Upshot
/-!
Runs of the program, command by command, from a loaded configuration on. Only the linting of files
starts processes, and no command that looks for a linter keeps what it finds.
-/
namespace LintBridge.Cli

open Effect (commands Quiet)

variable {around : Surroundings} {fs : FileSystem} {ends : List ProcessEnd} {r : Run}

@[simp] theorem Run.commands_did (r : Run) (es : List Effect) :
    commands (r.did es).effects = commands r.effects ++ commands es := by
  simp [Run.did]

/-- A failure ends a run, and changes nothing else but what is told to people. -/
theorem Run.fail_kept (r : Run) (f : Failure) :
    (r.fail f).effects = r.effects ∧ (r.fail f).files = r.files ∧ (r.fail f).stdout = r.stdout := by
  unfold Run.fail
  split
  · split <;> exact ⟨rfl, rfl, rfl⟩
  · exact ⟨rfl, rfl, rfl⟩

theorem reportChecks_kept (console : Console.Writer) (r : Run) (request : CheckRequest)
    (outcomes : List Outcome) :
    (reportChecks console r request outcomes).effects = r.effects ∧
      (reportChecks console r request outcomes).files = r.files := by
  unfold reportChecks
  cases request.json with
  | true => exact ⟨rfl, rfl⟩
  | false =>
    rcases report : Check.textReport console (Check.spelled r.files request.files outcomes) with
      ⟨s, - | fault⟩ <;> simp [report, Run.print]

/-- The report on files that were linted, or the failure that ended the linting. -/
def reportLinted (console : Console.Writer) (r : Run) (request : CheckRequest)
    (turn : Turn (Except Failure (List Outcome))) : Run :=
  let r := { r.did turn.effects with files := turn.files }
  match turn.value with
  | .error f => r.fail f
  | .ok outcomes => reportChecks console r request outcomes

theorem reportLinted_kept (console : Console.Writer) (r : Run) (request : CheckRequest)
    (turn : Turn (Except Failure (List Outcome))) :
    commands (reportLinted console r request turn).effects =
        commands r.effects ++ commands turn.effects ∧
      (reportLinted console r request turn).files = turn.files := by
  unfold reportLinted
  cases turn.value with
  | error f =>
    obtain ⟨effects, files, -⟩ := Run.fail_kept { r.did turn.effects with files := turn.files } f
    exact ⟨by rw [effects]; exact r.commands_did turn.effects, files⟩
  | ok outcomes =>
    obtain ⟨effects, files⟩ :=
      reportChecks_kept console { r.did turn.effects with files := turn.files } request outcomes
    exact ⟨by rw [effects]; exact r.commands_did turn.effects, files⟩

/-- What the linting of a file gives. -/
def outcomeOf : Session.Played → Except Failure (Option Outcome)
  | .ended r => r
  | .held _ => .ok none

/-- Linting goes on from what a file is read as: one that cannot be read ends it, and one that is
read is linted, and the others after it unless that fails. -/
def lintRead (s : Session) (fs : FileSystem) (ends : List ProcessEnd) (path : FilePath)
    (rest : List FilePath) : Except Failure String → Turn (Except Failure (List Outcome))
  | .error f => ⟨s, fs, [], .error f⟩
  | .ok text =>
    let turn := s.lintDocument fs true none (Check.uriOf fs path) text (Check.language? path) ends
    let more := Check.lintFiles turn.session turn.files
      (ends.drop (turn.effects.countP Effect.isSpawn)) rest
    match outcomeOf turn.value with
    | .error f => ⟨turn.session, turn.files, turn.effects, .error f⟩
    | .ok o => ⟨more.session, more.files, turn.effects ++ more.effects,
        more.value.map (o.toList ++ ·)⟩

theorem lintFiles_cons (s : Session) (fs : FileSystem) (ends : List ProcessEnd) (path : FilePath)
    (rest : List FilePath) :
    Check.lintFiles s fs ends (path :: rest) =
      lintRead s fs ends path rest (fs.readText path) := rfl

theorem called_check (words : List String) :
    called ("check" :: words) = .request ⟨false, .check, words⟩ := by
  cbv

theorem called_resolve (words : List String) :
    called ("resolve" :: words) = .request ⟨false, .resolve, words⟩ := by
  cbv

theorem takeOption_workspace (value : String) (rest : List String) (a : Arguments) :
    takeOption (Command.options .check) "-w" (value :: rest) a =
      .ok ({ a with options := a.options ++ [⟨"--workspace", some value⟩] }, rest) := by
  cbv

theorem argumentsOf_check {root file : String} (operand : file.startsWith "-" = false) :
    argumentsOf .check ["-w", root, file] = .request ⟨[⟨"--workspace", some root⟩], [file]⟩ := by
  have dashes : file ≠ "--" := by
    rintro rfl
    exact absurd operand (by decide +kernel)
  have option : ("-w".startsWith "-" && "-w" ≠ "-") = true := by decide +kernel
  have sorted : Arguments.ofWords (Command.options .check) false ["-w", root, file] =
      .ok ⟨[⟨"--workspace", some root⟩], [file]⟩ := by
    simp only [Arguments.ofWords, List.length_cons, List.length_nil, sortFuel, option, if_true,
      takeOption_workspace, dashes, operand, Bool.false_and, Bool.false_eq_true, if_false]
    simp [Arguments.addWord]
  simp [argumentsOf, sorted]

/-- The request of a check is that of its arguments. -/
theorem request_check {words : List String} {a : Arguments} {request : CheckRequest}
    (sorted : argumentsOf .check words = .request a) (made : checkRequest fs a = .request request) :
    Command.request fs .check words = .request (.check request) := by
  unfold Command.request
  rw [sorted]
  change (do
    let r ← checkRequest fs a
    pure (Request.check r) : Asked Request) = _
  rw [made]
  rfl

theorem request_resolve {words : List String} {a : Arguments} {request : ResolveRequest}
    (sorted : argumentsOf .resolve words = .request a)
    (made : resolveRequest fs a = .request request) :
    Command.request fs .resolve words = .request (.resolve request) := by
  unfold Command.request
  rw [sorted]
  change (do
    let r ← resolveRequest fs a
    pure (Request.resolve r) : Asked Request) = _
  rw [made]
  rfl

/-- The line that asks for a check of a file in a workspace. -/
theorem check_line_asks {root file : String} {octets : List UInt8} {executable : Bool}
    (folder : entryAt? fs root = some .directory) (folderNul : '\x00' ∉ root.toList)
    (there : entryAt? fs file = some (.file octets executable)) (fileNul : '\x00' ∉ file.toList)
    (operand : file.startsWith "-" = false) :
    Command.request fs .check ["-w", root, file] =
      .request (.check ⟨[.ofText file], some (.ofText root), none, none, false⟩) := by
  have workspace : directoryPath fs .check "'--workspace' / '-w'" root =
      .request (.ofText root) := by
    simp [directoryPath, folderNul, folder]
  have named : filePath fs .check "'FILES...'" file = .request (.ofText file) := by
    simp [filePath, fileNul, there]
  have made : checkRequest fs ⟨[⟨"--workspace", some root⟩], [file]⟩ =
      .request ⟨[.ofText file], some (.ofText root), none, none, false⟩ := by
    have mapped : [file].mapM (filePath fs .check "'FILES...'") = .request [.ofText file] := by
      simp only [List.mapM, List.mapM.loop, named]
      rfl
    have given : Arguments.value? ⟨[⟨"--workspace", some root⟩], [file]⟩ "--workspace" =
        some root := by
      simp [Arguments.value?]
    have others : ∀ name ∈ ["--executable", "--rules"],
        Arguments.value? ⟨[⟨"--workspace", some root⟩], [file]⟩ name = none := by
      simp [Arguments.value?]
    simp only [List.forall_mem_cons] at others
    simp only [checkRequest, given, workspace, mapped, others]
    rfl
  exact request_check (argumentsOf_check operand) made

/-- A command line that asks for something has that run. -/
theorem run_of_request {words : List String} {call : Called} {request : Request}
    (calls : called words = .request call)
    (asks : call.command.request fs call.words = .request request) :
    run around fs ends words =
      runRequest around ends call.verbose (Run.idle fs (some (firstLog call.verbose))) request := by
  simp only [run, calls, Run.answer, asks]

/-- With a configuration a run goes on, and what was reported is no process. -/
theorem withSettings_ok {loaded : Config.Loaded} {settings : Config.Settings}
    (loads : loaded.result = .ok settings) (next : Run → Config.Settings → Run) :
    ∃ es, Quiet es ∧ withSettings r loaded next = next (r.did es) settings := by
  refine ⟨_, Session.quiet_reports none loaded.events, ?_⟩
  simp only [withSettings, loads]

/-- A run without a configuration ends, and tells nothing on the output. -/
theorem withSettings_error {loaded : Config.Loaded} {f : Failure}
    (refused : loaded.result = .error f) (next : Run → Config.Settings → Run) :
    (withSettings r loaded next).stdout = r.stdout ∧
      (withSettings r loaded next).files = r.files := by
  simp only [withSettings, refused]
  obtain ⟨-, files, stdout⟩ := (r.did (Session.reports none loaded.events)).fail_kept f
  exact ⟨stdout, files⟩

/-- The session of a command keeps nothing in the files. -/
theorem ensureToolchain_oneSession (around : Surroundings) (fs : FileSystem) (root : FilePath)
    (settings : Config.Settings) :
    ((oneSession around fs root settings).ensureToolchain fs).files = fs :=
  ((oneSession around fs root settings).provided fs).files.2 (.inl rfl)

/-- A check with a configuration. -/
def checkWith (around : Surroundings) (ends : List ProcessEnd) (request : CheckRequest)
    (root : FilePath) (r : Run) (settings : Config.Settings) : Run :=
  let found := (oneSession around r.files root settings).ensureToolchain r.files
  let r := { r.did found.effects with files := found.files }
  match found.value with
  | .error e => r.fail (.system e)
  | .ok none => r.complain (noLinter ++ " Set lint.executable_path or pass --executable.")
  | .ok (some _) => reportLinted around.console r request
      (Check.lintFiles found.session r.files ends request.files)

section

variable {request : CheckRequest} {root : FilePath} {settings : Config.Settings}

/-- A check without a linter ends with a status of its own. -/
theorem checkWith_none (ends : List ProcessEnd) (request : CheckRequest)
    (missing : ((oneSession around r.files root settings).ensureToolchain r.files).value =
      .ok none) :
    commands (checkWith around ends request root r settings).effects = commands r.effects ∧
      (checkWith around ends request root r settings).files = r.files ∧
      (checkWith around ends request root r settings).ending = .status 1 := by
  have kept := ensureToolchain_oneSession around r.files root settings
  have quiet := ((oneSession around r.files root settings).provided r.files).quiet
  unfold checkWith
  dsimp only
  rw [missing, kept]
  exact ⟨by simp [Run.complain, quiet.2], rfl, rfl⟩

/-- A check whose look for the linter is refused ends with that failure. -/
theorem checkWith_error (ends : List ProcessEnd) (request : CheckRequest) {e : SystemError}
    (refused : ((oneSession around r.files root settings).ensureToolchain r.files).value =
      .error e) :
    commands (checkWith around ends request root r settings).effects = commands r.effects ∧
      (checkWith around ends request root r settings).files = r.files ∧
      (checkWith around ends request root r settings).ending = .failed (.system e) := by
  have kept := ensureToolchain_oneSession around r.files root settings
  have quiet := ((oneSession around r.files root settings).provided r.files).quiet
  unfold checkWith
  dsimp only
  rw [refused, kept]
  exact ⟨by simp [Run.fail, quiet.2], rfl, rfl⟩

/-- A check with a linter reports on its files, linted in a session that knows the linter. -/
theorem checkWith_found (ends : List ProcessEnd) (request : CheckRequest) {t : Toolchain}
    (linter : ((oneSession around r.files root settings).ensureToolchain r.files).value =
      .ok (some t)) :
    let found := (oneSession around r.files root settings).ensureToolchain r.files
    checkWith around ends request root r settings =
      reportLinted around.console (r.did found.effects) request
        (Check.lintFiles found.session r.files ends request.files) := by
  intro found
  have kept : found.files = r.files := ensureToolchain_oneSession around r.files root settings
  unfold checkWith
  dsimp only
  rw [linter, kept]
  rfl

/-- A check with a linter starts what its files start. -/
theorem checkWith_some (ends : List ProcessEnd) (request : CheckRequest) {t : Toolchain}
    (linter : ((oneSession around r.files root settings).ensureToolchain r.files).value =
      .ok (some t)) :
    let found := (oneSession around r.files root settings).ensureToolchain r.files
    let turn := Check.lintFiles found.session r.files ends request.files
    commands (checkWith around ends request root r settings).effects =
        commands r.effects ++ commands turn.effects ∧
      (checkWith around ends request root r settings).files = turn.files := by
  intro found turn
  have quiet := ((oneSession around r.files root settings).provided r.files).quiet
  obtain ⟨lines, files⟩ :=
    reportLinted_kept around.console (r.did found.effects) request turn
  rw [checkWith_found ends request linter]
  exact ⟨by rw [lines]; simp [found, quiet.2], files⟩

end

theorem runCheck_eq (around : Surroundings) (ends : List ProcessEnd) (r : Run)
    (request : CheckRequest) :
    let root := (request.workspace.getD ⟨0, []⟩).resolved r.files.workingDirectory
    runCheck around ends r request =
      withSettings r
        (settingsFor around r.files root (overrides request.executable request.rules))
        (checkWith around ends request root) := rfl

end LintBridge.Cli
