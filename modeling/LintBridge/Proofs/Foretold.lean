import LintBridge.Proofs.Entrances
import LintBridge.Proofs.JsonDocuments
import LintBridge.Proofs.Overrides
/-!
What is told of a linter and what is done with it. Of a workspace it is told in JSON which linter it
has and where that would run; a check there, with any rule file, starts that linter in that
directory and nothing else, or nothing at all if none is told of, and neither of the two touches a
file (`Cli.resolve_foretells_check`).
-/
namespace LintBridge

open Effect (commands)

namespace Session

variable {s : Session} {fs : FileSystem} {t : Toolchain}

theorem runs_commandLines {uri source : String} {e : ProcessEnd} :
    ∀ line ∈ s.commandLines (s.plan t) uri source e,
      Command.Runs t.executable (s.workingDirectory t) line := by
  have pass (rules : Option String) : Command.Runs t.executable (s.workingDirectory t)
      (command (s.plan t) rules source) := ⟨rfl, rfl⟩
  simp only [commandLines, List.forall_mem_cons, List.forall_mem_map]
  exact ⟨pass none, fun path _ => pass (some path)⟩

/-- A session that knows its linter starts no other, and nothing that it lints makes it forget. -/
theorem lintDocument_known (fs : FileSystem) (known : s.toolchain = some t) (uri source : String)
    (language : Option String) (ends : List ProcessEnd) :
    let turn := s.lintDocument fs true none uri source language ends
    turn.session.toolchain = some t ∧ turn.session.config = s.config ∧ turn.files = fs ∧
      ∀ line ∈ commands turn.effects, Command.Runs t.executable (s.workingDirectory t) line := by
  intro turn
  have there : s.ensureToolchain fs = ⟨s, fs, [], .ok (some t)⟩ := by simp [ensureToolchain, known]
  have runs : ∀ line ∈ commands turn.effects,
      Command.Runs t.executable (s.workingDirectory t) line := by
    simp only [turn, commands_lintDocument, processes, there]
    split
    · exact runs_commandLines
    · simp
  obtain ⟨registry, generations, ⟨session, files⟩ | ⟨session, files⟩⟩ :=
    s.lintDocument_session fs true uri source language ends
  · refine ⟨?_, ?_, files, runs⟩ <;> simp [turn, session, known]
  · rw [there] at session files
    refine ⟨?_, ?_, files, runs⟩ <;> simp [turn, session, known]

end Session

namespace Cli

variable {around : Surroundings} {fs : FileSystem} {ends : List ProcessEnd} {r : Run}
  {log : Option Log.Setup}

/-- However many files a session lints, it starts the linter that it knows and leaves the files. -/
theorem lintFiles_known (fs : FileSystem) {s : Session} {t : Toolchain}
    (known : s.toolchain = some t)
    (ends : List ProcessEnd) (paths : List FilePath) :
    let turn := Check.lintFiles s fs ends paths
    turn.files = fs ∧ ∀ line ∈ commands turn.effects,
      Command.Runs t.executable (s.workingDirectory t) line := by
  induction paths generalizing s ends with
  | nil => exact ⟨rfl, by simp [Check.lintFiles]⟩
  | cons path rest ih =>
    rw [lintFiles_cons]
    cases fs.readText path with
    | error f => exact ⟨rfl, by simp [lintRead]⟩
    | ok text =>
      obtain ⟨still, config, files, first⟩ := s.lintDocument_known fs known
          (Check.uriOf fs path) text
        (Check.language? path) ends
      rw [lintRead]
      generalize s.lintDocument fs true none (Check.uriOf fs path) text (Check.language? path)
        ends = turn at still config files first ⊢
      have directory : turn.session.workingDirectory t = s.workingDirectory t := by
        rw [Session.workingDirectory, config]
        rfl
      obtain ⟨files', others⟩ := ih still (ends.drop (turn.effects.countP Effect.isSpawn))
      rw [directory] at others
      rw [files]
      cases outcomeOf turn.value with
      | error f => exact ⟨rfl, first⟩
      | ok o =>
        refine ⟨files', ?_⟩
        rw [Effect.commands_append, List.forall_mem_append]
        exact ⟨first, others⟩

/-- A workspace whose linter is told of. -/
def resolveWith (around : Surroundings) (request : ResolveRequest) (root : FilePath) (r : Run)
    (settings : Config.Settings) : Run :=
  let turn := Resolve.find (oneSession around r.files root settings) r.files
  let r := { r.did turn.effects with files := turn.files }
  match turn.value with
  | .error e => r.fail (.system e)
  | .ok found =>
    if request.json then r.print (Resolve.jsonReport found)
    else match found with
      | some found => r.print (Resolve.textReport found)
      | none => r.complain noLinter

theorem runResolve_eq (around : Surroundings) (r : Run) (request : ResolveRequest) :
    let root := request.path.resolved r.files.workingDirectory
    runResolve around r request =
      withSettings r (settingsFor around r.files root []) (resolveWith around request root) := rfl

theorem resolveWith_files (around : Surroundings) (request : ResolveRequest) (root : FilePath)
    (r : Run) (settings : Config.Settings) :
    (resolveWith around request root r settings).files = r.files := by
  have kept := ensureToolchain_oneSession around r.files root settings
  unfold resolveWith
  dsimp only
  split
  · exact kept
  · split
    · exact kept
    · split <;> exact kept

theorem checkWith_files (around : Surroundings) (ends : List ProcessEnd) (request : CheckRequest)
    (root : FilePath) (r : Run) (settings : Config.Settings) :
    (checkWith around ends request root r settings).files = r.files := by
  rcases linter : ((oneSession around r.files root settings).ensureToolchain r.files).value with
    e | _ | t
  · exact (checkWith_error ends request linter).2.1
  · exact (checkWith_none ends request linter).2.1
  · have known := ((oneSession around r.files root settings).provided r.files).toolchain linter
    exact (checkWith_some ends request linter).2.trans
      (lintFiles_known r.files known ends request.files).1

/-- A command that goes on with a configuration leaves the files if what it goes on with does. -/
theorem withSettings_files {loaded : Config.Loaded} {next : Run → Config.Settings → Run}
    (leaves : ∀ r settings, (next r settings).files = r.files) :
    (withSettings r loaded next).files = r.files := by
  cases loads : loaded.result with
  | error f => exact (withSettings_error loads next).2
  | ok settings =>
    obtain ⟨es, -, goesOn⟩ := withSettings_ok (r := r) loads next
    rw [goesOn, leaves]
    rfl

/-- A check with a rule file of its own does with the linter what is told of its workspace. -/
theorem checkWith_ruled (around : Surroundings) (ends : List ProcessEnd) (request : CheckRequest)
    (root : FilePath) (r : Run) (settings : Config.Settings) (rules : String) :
    let told := (Resolve.find (oneSession around r.files root settings) r.files).value
    let checked := checkWith around ends request root r (settings.ruled rules)
    (∀ found, told = .ok (some found) → ∀ line ∈ commands checked.effects,
      line ∈ commands r.effects ∨
        Command.Runs found.toolchain.executable found.workingDirectory line) ∧
    (told = .ok none → commands checked.effects = commands r.effects ∧
      checked.ending = .status 1) := by
  intro told checked
  let plain := oneSession around r.files root settings
  let s := oneSession around r.files root (settings.ruled rules)
  obtain ⟨value, session⟩ : (s.ensureToolchain r.files).value =
      (plain.ensureToolchain r.files).value ∧
      (s.ensureToolchain r.files).session =
        (plain.ensureToolchain r.files).session.tuned false rules :=
    plain.ensureToolchain_tuned r.files false rules
  have tells : told = (plain.ensureToolchain r.files).value.map fun found =>
      found.map fun t => ⟨t, (plain.ensureToolchain r.files).session.workingDirectory t⟩ := rfl
  rw [← value] at tells
  rcases linter : (s.ensureToolchain r.files).value with e | _ | t
  · rw [linter] at tells
    refine ⟨fun found hf => ?_, fun missing => ?_⟩
    · cases tells.symm.trans hf
    · cases tells.symm.trans missing
  · obtain ⟨lines, -, ending⟩ := checkWith_none (r := r) ends request linter
    rw [linter] at tells
    refine ⟨fun found hf => ?_, fun _ => ⟨lines, ending⟩⟩
    cases tells.symm.trans hf
  · have lines := (checkWith_some (r := r) ends request linter).1
    have known := (s.provided r.files).toolchain linter
    have runs := (lintFiles_known r.files known ends request.files).2
    rw [session] at runs
    rw [linter] at tells
    refine ⟨fun found hf line hl => ?_, fun missing => ?_⟩
    · cases tells.symm.trans hf
      rw [lines, List.mem_append] at hl
      refine hl.imp_right fun started => runs line ?_
      rw [← session]
      exact started
    · cases tells.symm.trans missing

/-- Without an executable of its own, a check has the configuration of its workspace with some rule
file. -/
theorem settingsFor_ruled {root : FilePath} {settings : Config.Settings}
    (loads : (settingsFor around fs root []).result = .ok settings) (rules : Option String) :
    ∃ file, (settingsFor around fs root (overrides none rules)).result =
      .ok (settings.ruled file) := by
  have same (empty : overrides none rules = []) :
      ∃ file, (settingsFor around fs root (overrides none rules)).result =
        .ok (settings.ruled file) := ⟨settings.lint.ruleConfigPath, by rw [empty]; exact loads⟩
  cases rules with
  | none => exact same rfl
  | some given =>
    by_cases filled : given = ""
    · exact same (by rw [filled]; rfl)
    · exact ⟨given, Config.load_ruled filled loads⟩

/-- Does a text tell of a linter, and of the directory where it would run? -/
def TellsOf (stdout executable : String) (directory : Option String) : Prop :=
  ∃ fields : Value.Entries, Json.decode stdout = .ok (.map fields) ∧
    fields.field? "found" = some (.bool true) ∧
    fields.field? "executable" = some (.text executable) ∧
    fields.field? "working_directory" = some (directory.elim .null .text)

/-- Does a text tell that there is no linter? -/
def TellsOfNone (stdout : String) : Prop :=
  ∃ fields : Value.Entries, Json.decode stdout = .ok (.map fields) ∧
    fields.field? "found" = some (.bool false)

theorem decode_found (f : Resolve.Found) : Json.decode (Resolve.jsonReport (some f)) =
    .ok (.map [(.text "found", .bool true), (.text "executable", .text f.toolchain.executable),
      (.text "origin", .text f.toolchain.origin.name),
      (.text "working_directory", f.workingDirectory.elim .null .text)]) := by
  have directory : Json.Written (f.workingDirectory.elim .null .text) := by
    cases f.workingDirectory with
    | none => exact .null
    | some d => exact .text d
  exact Json.decode_written
    (.record (by simp [Json.Written.bool, Json.Written.text, directory]) (by simp))

theorem decode_missing : Json.decode (Resolve.jsonReport none) =
    .ok (.map [(.text "found", .bool false)]) :=
  Json.decode_written (.record (by simp [Json.Written.bool]) (by decide))

theorem tellsOf_jsonReport {found : Option Resolve.Found} {executable : String}
    {directory : Option String} : TellsOf (Resolve.jsonReport found) executable directory ↔
      ∃ f, found = some f ∧ f.toolchain.executable = executable ∧
        f.workingDirectory = directory := by
  unfold TellsOf
  cases found with
  | none => simp [decode_missing, Value.Entries.field?, Value.Entries.get?, Value.sameKey]
  | some f =>
    have directories : f.workingDirectory.elim Value.null .text = directory.elim Value.null .text ↔
        f.workingDirectory = directory := by
      cases f.workingDirectory <;> cases directory <;> simp
    simp [decode_found, Value.Entries.field?, Value.Entries.get?, Value.sameKey, directories]

theorem tellsOfNone_jsonReport {found : Option Resolve.Found} :
    TellsOfNone (Resolve.jsonReport found) ↔ found = none := by
  unfold TellsOfNone
  cases found with
  | none => simp [decode_missing, Value.Entries.field?, Value.Entries.get?, Value.sameKey]
  | some f => simp [decode_found, Value.Entries.field?, Value.Entries.get?, Value.sameKey]

/-- Only a workspace with a configuration is told of, and what is told is what is found there. -/
theorem told_loads {request : ResolveRequest} (json : request.json = true) {fields : Value.Entries}
    (tells : Json.decode (runResolve around (Run.idle fs log) request).stdout =
      .ok (.map fields)) :
    let root := request.path.resolved fs.workingDirectory
    ∃ settings found, (settingsFor around fs root []).result = .ok settings ∧
      (Resolve.find (oneSession around fs root settings) fs).value = .ok found ∧
      (runResolve around (Run.idle fs log) request).stdout = Resolve.jsonReport found := by
  intro root
  have unfolded : runResolve around (Run.idle fs log) request = withSettings (Run.idle fs log)
      (settingsFor around fs root []) (resolveWith around request root) := runResolve_eq around _ _
  rw [unfolded] at tells ⊢
  cases loads : (settingsFor around fs root []).result with
  | error f =>
    rw [(withSettings_error loads _).1] at tells
    cases tells
  | ok settings =>
    obtain ⟨es, -, goesOn⟩ := withSettings_ok (r := Run.idle fs log) loads
      (resolveWith around request root)
    rw [goesOn, resolveWith] at tells ⊢
    cases looked : (Resolve.find (oneSession around fs root settings) fs).value with
    | error e =>
      simp only [Run.did, Run.idle, looked, Run.fail] at tells
      cases tells
    | ok found =>
      refine ⟨settings, found, rfl, looked, ?_⟩
      simp only [Run.did, Run.idle, looked, json, if_true, Run.print]
      rfl

/-- What is told of a workspace in JSON holds for every check there that names no executable, with
any rule file and any files: each of its processes runs the linter that is told of in the directory
that is told of, and if none is told of there are no processes and the check ends with status 1.
Neither of the two touches a file. -/
theorem resolve_foretells_check (around : Surroundings) (fs : FileSystem)
    (ends ends' : List ProcessEnd) {asking checking : List String} {asked called' : Called}
    {path : FilePath} {json : Bool} {request : CheckRequest}
    (calls : called asking = .request asked)
    (asks : asked.command.request fs asked.words = .request (.resolve ⟨path, json⟩))
    (calls' : called checking = .request called')
    (asks' : called'.command.request fs called'.words = .request (.check request))
    (same : (request.workspace.getD ⟨0, []⟩).resolved fs.workingDirectory =
      path.resolved fs.workingDirectory) :
    let told := run around fs ends asking
    let checked := run around fs ends' checking
    (json = true → request.executable = none →
      (∀ executable directory, TellsOf told.stdout executable directory →
        ∀ line ∈ commands checked.effects, Command.Runs executable directory line) ∧
      (TellsOfNone told.stdout → commands checked.effects = [] ∧ checked.ending = .status 1)) ∧
    told.files = fs ∧ checked.files = fs := by
  intro told checked
  let root := path.resolved fs.workingDirectory
  have toldIs : told = runResolve around (Run.idle fs (some (firstLog asked.verbose)))
      ⟨path, json⟩ := run_of_request calls asks
  have checkedIs : checked =
      withSettings (Run.idle fs (some (firstLog called'.verbose)))
        (settingsFor around fs root (overrides request.executable request.rules))
        (checkWith around ends' request root) := by
    have unfolded : checked = runCheck around ends'
        (Run.idle fs (some (firstLog called'.verbose))) request := run_of_request calls' asks'
    rw [unfolded, runCheck_eq]
    simp only [root, ← same]
    rfl
  refine ⟨?_, ?_, ?_⟩
  · rintro rfl unnamed
    have found {fields : Value.Entries} (tells : Json.decode told.stdout = .ok (.map fields)) :
        ∃ found, told.stdout = Resolve.jsonReport found ∧
          (∀ f, found = some f → ∀ line ∈ commands checked.effects,
            Command.Runs f.toolchain.executable f.workingDirectory line) ∧
          (found = none → commands checked.effects = [] ∧ checked.ending = .status 1) := by
      rw [toldIs] at tells ⊢
      obtain ⟨settings, report, loads, looked, stdout⟩ := told_loads rfl tells
      obtain ⟨file, loads'⟩ := settingsFor_ruled loads request.rules
      rw [unnamed] at checkedIs
      obtain ⟨es, quiet, goesOn⟩ := withSettings_ok
        (r := Run.idle fs (some (firstLog called'.verbose))) loads'
        (checkWith around ends' request root)
      obtain ⟨there, missing⟩ := checkWith_ruled around ends' request root
        ((Run.idle fs (some (firstLog called'.verbose))).did es) settings file
      have idle :
          commands ((Run.idle fs (some (firstLog called'.verbose))).did es).effects = [] := by
        simp [Run.idle, quiet.2]
      rw [← goesOn, ← checkedIs, idle] at there missing
      refine ⟨report, stdout, fun f hf line hl => ?_, fun hf => missing (looked.trans (by rw [hf]))⟩
      exact (there f (looked.trans (by rw [hf])) line hl).resolve_left (by simp)
    refine ⟨fun executable directory tells => ?_, fun tells => ?_⟩
    · obtain ⟨found, report, there, -⟩ := found tells.choose_spec.1
      rw [report, tellsOf_jsonReport] at tells
      obtain ⟨f, hf, rfl, rfl⟩ := tells
      exact there f hf
    · obtain ⟨found, report, -, missing⟩ := found tells.choose_spec.1
      rw [report, tellsOfNone_jsonReport] at tells
      exact missing tells
  · rw [toldIs, runResolve_eq]
    exact withSettings_files (resolveWith_files around _ root)
  · rw [checkedIs]
    exact withSettings_files (checkWith_files around ends' request root)

/-- A folder with a file, without a manifest and without a bundled linter. -/
def bareFolder : FileSystem :=
  ((filesWith [120, 10]).remove (.ofText "/w/foreman.toml")).remove (.ofText "/lute")

/-- The line that asks for the linter of the folder. -/
def resolveLine : List String := ["resolve", "--json", "/w"]

theorem resolveLine_calls : called resolveLine = .request ⟨false, .resolve, ["--json", "/w"]⟩ :=
  called_resolve _

theorem resolveLine_asks {fs : FileSystem} (folder : entryAt? fs "/w" = some .directory) :
    Command.request fs .resolve ["--json", "/w"] = .request (.resolve ⟨.ofText "/w", true⟩) := by
  have sorted : argumentsOf .resolve ["--json", "/w"] = .request ⟨[⟨"--json", none⟩], ["/w"]⟩ := by
    cbv
  have path : directoryPath fs .resolve "'[PATH]'" "/w" = .request (.ofText "/w") := by
    simp [directoryPath, folder]
  refine request_resolve sorted ?_
  simp only [resolveRequest, List.headD_cons, path]
  rfl

/-- The line that asks for a check of the file with a rule file. -/
def rulesLine : List String := ["check", "-w", "/w", "-r", "r.json", "a.luau"]

theorem rulesLine_calls :
    called rulesLine = .request ⟨false, .check, ["-w", "/w", "-r", "r.json", "a.luau"]⟩ :=
  called_check _

theorem rulesLine_asks {fs : FileSystem} (folder : entryAt? fs "/w" = some .directory)
    {octets : List UInt8} {executable : Bool}
    (there : entryAt? fs "a.luau" = some (.file octets executable)) :
    Command.request fs .check ["-w", "/w", "-r", "r.json", "a.luau"] =
      .request (.check ⟨[.ofText "a.luau"], some (.ofText "/w"), none, some "r.json", false⟩) := by
  have sorted : argumentsOf .check ["-w", "/w", "-r", "r.json", "a.luau"] =
      .request ⟨[⟨"--workspace", some "/w"⟩, ⟨"--rules", some "r.json"⟩], ["a.luau"]⟩ := by
    cbv
  have workspace : directoryPath fs .check "'--workspace' / '-w'" "/w" =
      .request (.ofText "/w") := by
    simp [directoryPath, folder]
  have file : filePath fs .check "'FILES...'" "a.luau" = .request (.ofText "a.luau") := by
    simp [filePath, there]
  have files : ["a.luau"].mapM (filePath fs .check "'FILES...'") = .request [.ofText "a.luau"] := by
    simp only [List.mapM, List.mapM.loop, file]
    rfl
  have given : Arguments.value? ⟨[⟨"--workspace", some "/w"⟩, ⟨"--rules", some "r.json"⟩],
      ["a.luau"]⟩ "--workspace" = some "/w" := by simp [Arguments.value?]
  refine request_check sorted ?_
  simp only [checkRequest, given, workspace, files]
  rfl

/-- What is told of the folder with these files. -/
def toldOf (fs : FileSystem) : Run := run Server.plainSurroundings fs [] resolveLine

/-- A check of its file with a rule file. -/
def checkedIn (fs : FileSystem) : Run := run Server.plainSurroundings fs [] rulesLine

theorem stdout_toldOf {fs : FileSystem} (folder : entryAt? fs "/w" = some .directory) :
    (toldOf fs).stdout = (runResolve Server.plainSurroundings (Run.idle fs (some (firstLog false)))
      ⟨.ofText "/w", true⟩).stdout := by
  rw [toldOf, run_of_request resolveLine_calls (resolveLine_asks folder)]
  rfl

theorem toldOf_filesWith :
    TellsOf (toldOf (filesWith [120, 10])).stdout "/h/.foreman/bin/lute" (some "/w") := by
  have report : (toldOf (filesWith [120, 10])).stdout = Resolve.jsonReport
      (some ⟨⟨"/h/.foreman/bin/lute", some "/w", .foreman⟩, some "/w"⟩) := by
    rw [stdout_toldOf rfl]
    rfl
  rw [report, tellsOf_jsonReport]
  exact ⟨_, rfl, rfl, rfl⟩

theorem toldOf_bareFolder : TellsOfNone (toldOf bareFolder).stdout := by
  have report : (toldOf bareFolder).stdout = Resolve.jsonReport none := by
    rw [stdout_toldOf rfl]
    rfl
  rw [report, tellsOfNone_jsonReport]

/-- In a folder with a linter a check runs it as it is told of; in a folder without one nothing is
run. -/
theorem linter_run_as_told :
    (TellsOf (toldOf (filesWith [120, 10])).stdout "/h/.foreman/bin/lute" (some "/w") ∧
      ∀ line ∈ commands (checkedIn (filesWith [120, 10])).effects,
        Command.Runs "/h/.foreman/bin/lute" (some "/w") line) ∧
    TellsOfNone (toldOf bareFolder).stdout ∧ commands (checkedIn bareFolder).effects = [] ∧
      (checkedIn bareFolder).ending = .status 1 := by
  have foretells (fs : FileSystem) (folder : entryAt? fs "/w" = some .directory)
      (there : entryAt? fs "a.luau" = some (.file [120, 10] false)) :=
    resolve_foretells_check Server.plainSurroundings fs [] [] resolveLine_calls
      (resolveLine_asks folder) rulesLine_calls (rulesLine_asks folder there) rfl
  obtain ⟨runs, -⟩ := (foretells (filesWith [120, 10]) rfl rfl).1 rfl rfl
  obtain ⟨-, nothing⟩ := (foretells bareFolder rfl rfl).1 rfl rfl
  exact ⟨⟨toldOf_filesWith, runs _ _ toldOf_filesWith⟩, toldOf_bareFolder,
    nothing toldOf_bareFolder⟩

end Cli
end LintBridge
