import LintBridge.Proofs.Commands
import LintBridge.Proofs.FileUris
import LintBridge.Proofs.Handling
/-!
Two entrances to one session. Checking a file from the command line and opening it in an editor
come to the same linting of a document, with the same folder, configuration, URI and language; what
differs is the text (`Cli.check_lints_as_server_iff`): the command line reads the file with every
end of a line as a line feed, and the editor hands its content over as it is.
-/
namespace LintBridge

open Effect (commands Quiet)

theorem not_mem_unixLines (s : List Char) : '\r' ∉ unixLines s := by
  fun_induction unixLines s with
  | case1 => simp
  | case2 rest ih => simp [ih]
  | case3 rest apart ih => simp [ih]
  | case4 c rest apart single ih =>
    have other : '\r' ≠ c := fun same => single same.symm
    simp [ih, other]

/-- A text has unix ends of lines exactly if it has no carriage return. -/
theorem unixLines_eq_iff {s : List Char} : unixLines s = s ↔ '\r' ∉ s := by
  constructor
  · intro same
    rw [← same]
    exact not_mem_unixLines s
  · intro clean
    exact unixLines_eq fun c hc => fun same => clean (same ▸ hc)

namespace Session

variable {s : Session} {fs : FileSystem} {uri a b : String} {language : Option String}
  {e : ProcessEnd}

theorem command_inj {plan : PassPlan} {rules : Option String}
    (h : command plan rules a = command plan rules b) : a = b := by
  have line : Command.ruleArgs rules ++ [Command.sourceFlag, a] =
      Command.ruleArgs rules ++ [Command.sourceFlag, b] := by
    simpa [command, Command.line] using h
  simpa using List.append_cancel_left line

/-- The processes for two texts are the same exactly if the texts are, or if there are none. -/
theorem processes_eq_iff :
    s.processes fs uri a language e = s.processes fs uri b language e ↔
      s.processes fs uri b language e = [] ∨ a = b := by
  unfold processes
  rcases (s.ensureToolchain fs).value with e' | _ | t
  · simp
  · simp
  · cases s.isLintable language with
    | false => simp
    | true =>
      simp only [if_true, commandLines, List.cons_ne_nil, false_or]
      constructor
      · intro same
        exact command_inj (List.cons.inj same).1
      · rintro rfl
        rfl

/-- A session that has found its linter starts the same processes. -/
theorem processes_ensureToolchain {t : Toolchain}
    (linter : (s.ensureToolchain fs).value = .ok (some t))
    (fs' : FileSystem) (uri source : String) (language : Option String) (e : ProcessEnd) :
    (s.ensureToolchain fs).session.processes fs' uri source language e =
      s.processes fs uri source language e := by
  rw [processes, processes, ensureToolchain_again s fs linter, linter]
  simp only [isLintable_ensureToolchain]

/-- A session that keeps nothing starts the same processes. -/
theorem processes_persists (s : Session) (persists : Bool) (fs : FileSystem) (uri source : String)
    (language : Option String) (e : ProcessEnd) :
    ({ s with persists } : Session).processes fs uri source language e =
      s.processes fs uri source language e := by
  change (s.tuned persists s.config.ruleConfigPath).processes fs uri source language e = _
  obtain ⟨value, session⟩ := s.ensureToolchain_tuned fs persists s.config.ruleConfigPath
  have rules : (s.ensureToolchain fs).session.config.ruleConfigPath = s.config.ruleConfigPath := by
    rw [(s.provided fs).config]
  rw [processes, processes, value, session, ← rules]
  rfl

end Session

namespace Cli

variable {around : Surroundings} {fs : FileSystem} {ends : List ProcessEnd}

theorem commands_lintFiles_one (s : Session) {path : FilePath} {text : String}
    (reads : fs.readText path = .ok text) :
    commands (Check.lintFiles s fs ends [path]).effects =
      s.processes fs (Check.uriOf fs path) text (Check.language? path) (ends.headD .usual) := by
  rw [← Session.commands_lintDocument, lintFiles_cons, reads, lintRead]
  cases outcomeOf (s.lintDocument fs true none (Check.uriOf fs path) text (Check.language? path)
    ends).value with
  | error f => rfl
  | ok o => exact (Effect.commands_append _ _).trans (List.append_nil _)

/-- The processes of a check of one file, by what is read of the file. -/
theorem commands_runCheck_one (around : Surroundings) (ends : List ProcessEnd) (r : Run)
    (request : CheckRequest) {path : FilePath} {text : String}
    (files : request.files = [path]) (reads : r.files.readText path = .ok text)
    {settings : Config.Settings} :
    let root := (request.workspace.getD ⟨0, []⟩).resolved r.files.workingDirectory
    (settingsFor around r.files root (overrides request.executable request.rules)).result =
        .ok settings →
      commands (runCheck around ends r request).effects = commands r.effects ++
        (oneSession around r.files root settings).processes r.files (Check.uriOf r.files path) text
          (Check.language? path) (ends.headD .usual) := by
  intro root loads
  obtain ⟨es, quiet, goesOn⟩ := withSettings_ok (r := r) loads (checkWith around ends request root)
  have idle : commands (r.did es).effects = commands r.effects := by simp [quiet.2]
  rw [runCheck_eq, goesOn]
  rcases linter : ((oneSession around r.files root settings).ensureToolchain r.files).value with
    e | _ | t
  · have failed := (checkWith_error (r := r.did es) ends request linter).1
    rw [failed, idle, Session.processes, linter, List.append_nil]
  · have none_ := (checkWith_none (r := r.did es) ends request linter).1
    rw [none_, idle, Session.processes, linter, List.append_nil]
  · have started := (checkWith_some (r := r.did es) ends request linter).1
    rw [started, idle, files]
    exact congrArg _ ((commands_lintFiles_one _ reads).trans
      (Session.processes_ensureToolchain linter _ _ _ _ _))

end Cli

namespace Server

variable {around : Surroundings} {w : Work}

/-- What an editor tells first: its settings, that it is ready, and a document that it opens. -/
def opening (around : Surroundings) (options : Value) (uri : String) (d : Document) :
    Handling Unit := do
  handle around (.started options)
  handle around .ready
  handle around (.opened uri d)

/-- A server that has no documents has nothing to lint once it is ready. -/
theorem ready_run {s : Session} {w' : Work} (asked : (ensureSession around).run w = (.ok s, w'))
    (empty : w'.server.documents = []) : (handle around .ready).run w = (.ok (), w') := by
  rw [handle, run_bind_of_ok asked, lintOpen_run, empty]
  rfl

theorem opened_run {s : Session} (there : w.server.session = some s) (uri : String)
    (d : Document) :
    commands ((handle around (.opened uri d)).run w).2.effects = commands w.effects ++
      s.processes w.files uri d.text d.language (w.ends.headD .usual) := by
  let w' := w.told fun s => { s with documents := s.documents.put uri d }
  have put : w'.server.documents.get? uri = some d := by simp [w', Work.told]
  rw [handle, run_bind_of_ok (setServer_run _ w), lint_run (w := w') there put]
  have lines := s.commands_lintDocument w.files true uri d.text d.language w.ends
  rw [← lines, ← Effect.commands_append]
  rfl

/-- The processes of a document that is opened first, in a server with one folder and no settings
of the editor. -/
theorem commands_opening {folder : String} {root : FilePath} {options : Value}
    {settings : Config.Settings} {fs : FileSystem}
    (names : folderRoot? folder = .ok (some root)) (unset : options.isFalsy = true)
    (loads : (Config.load ⟨fs, around.userFile, around.environment⟩ (some root) []).result =
      .ok settings)
    (uri : String) (d : Document) (ends : List ProcessEnd) :
    commands ((opening around options uri d).run
        ⟨Server.fresh [folder] none, fs, [], ends⟩).2.effects =
      (Session.fresh settings.lint [root] true fs.home around.packaged).processes fs uri d.text
        d.language (ends.headD .usual) := by
  let w : Work := ⟨Server.fresh [folder] none, fs, [], ends⟩
  have started : (handle around (.started options)).run w = (.ok (), w) := by
    rw [handle, setServer_run]
    simp [w, Work.told, Server.fresh, unset]
  have folders : w.server.roots = .ok [root] := by
    simp [w, Server.fresh, roots, names]
  obtain ⟨es, quiet, asked⟩ := ensureSession_fresh around (w := w) rfl folders loads
  have ready := ready_run asked rfl
  rw [opening, run_bind_of_ok started, run_bind_of_ok ready, opened_run rfl]
  simp [Work.did, Work.having, quiet.2, w]

end Server

namespace Cli

/-- A check of one file in a workspace starts the processes that a server with that folder alone
starts when the file is opened with the text that the program reads of it. With the file's own
content it starts them exactly if there are none, or if no line of the file ends with a carriage
return. -/
theorem check_lints_as_server_iff (around : Surroundings) (fs : FileSystem)
    (ends : List ProcessEnd) {words : List String} {call : Called} {root file : String}
    {json : Bool} {settings : Config.Settings} {octets : List UInt8} {text language : String}
    {options : Value} (calls : called words = .request call)
    (asks : call.command.request fs call.words =
      .request (.check ⟨[.ofText file], some (.ofText root), none, none, json⟩))
    (absolute : (FilePath.ofText root).isAbsolute = true)
    (noDrive : Uri.beginsLikeDrive
      ((FilePath.ofText root).resolved fs.workingDirectory).text.toList = false)
    (loads : (settingsFor around fs
      ((FilePath.ofText root).resolved fs.workingDirectory) []).result = .ok settings)
    (reads : fs.read (.ofText file) = .ok octets) (valid : Text.Utf8.decode octets = .ok text)
    (suffix : Check.language? (.ofText file) = some language) (unset : options.isFalsy = true) :
    let folder := Uri.ofPath ((FilePath.ofText root).resolved fs.workingDirectory).text
    let opened (source : String) := commands ((Server.opening around options
      (Check.uriOf fs (.ofText file)) ⟨source, some language⟩).run
        ⟨Server.fresh [folder] none, fs, [], ends⟩).2.effects
    let checked := commands (run around fs ends words).effects
    checked = opened (String.ofList (unixLines text.toList)) ∧
      (checked = opened text ↔ opened text = [] ∨ '\r' ∉ text.toList) := by
  intro folder opened checked
  obtain ⟨normal, rooted⟩ :=
    FilePath.normal_resolved (FilePath.normal_ofText root) absolute fs.workingDirectory
  have names := Server.folderRoot?_ofPath normal rooted noDrive
  generalize hr : (FilePath.ofText root).resolved fs.workingDirectory = place at names loads
  let session := Session.fresh settings.lint [place] true fs.home around.packaged
  have byServer (source : String) : opened source = session.processes fs
      (Check.uriOf fs (.ofText file)) source (some language) (ends.headD .usual) := by
    have names' : Server.folderRoot? folder = .ok (some place) := by rw [← names, ← hr]
    exact Server.commands_opening names' unset loads _ _ ends
  have text' : fs.readText (.ofText file) = .ok (String.ofList (unixLines text.toList)) := by
    simp [FileSystem.readText, reads, decodeStream, valid]
  have byProgram : checked = session.processes fs (Check.uriOf fs (.ofText file))
      (String.ofList (unixLines text.toList)) (some language) (ends.headD .usual) := by
    subst hr
    have lines := commands_runCheck_one around ends (Run.idle fs (some (firstLog call.verbose)))
      ⟨[.ofText file], some (.ofText root), none, none, json⟩ rfl text' loads
    have started : checked = commands (runCheck around ends
        (Run.idle fs (some (firstLog call.verbose)))
        ⟨[.ofText file], some (.ofText root), none, none, json⟩).effects := by
      change commands (run around fs ends words).effects = _
      rw [run_of_request calls asks]
      rfl
    rw [started, lines, suffix]
    exact Session.processes_persists session false fs _ _ _ _
  refine ⟨byProgram.trans (byServer _).symm, ?_⟩
  rw [byProgram, byServer, Session.processes_eq_iff]
  refine or_congr_right ?_
  rw [← unixLines_eq_iff, ← String.toList_inj, String.toList_ofList]

/-- A folder with a manifest, its linter in the home directory, and a file. -/
def filesWith (octets : List UInt8) : FileSystem :=
  { (Activity.equippedFiles.addFile (.ofText "/w/a.luau") octets false) with
    workingDirectory := ⟨1, [['w']]⟩, home := ⟨1, [['h']]⟩ }

/-- The line that asks for a check of the file. -/
def checkLine : List String := ["check", "-w", "/w", "a.luau"]

theorem checkLine_asks (octets : List UInt8) :
    Command.request (filesWith octets) .check ["-w", "/w", "a.luau"] =
      .request (.check ⟨[.ofText "a.luau"], some (.ofText "/w"), none, none, false⟩) :=
  have there : entryAt? (filesWith octets) "a.luau" = some (.file octets false) := rfl
  check_line_asks rfl (by decide) there (by decide) (by cbv)

/-- The processes of a server that opens the file with a text. -/
def openedWith (octets : List UInt8) (text : String) : List (List String × Option String) :=
  commands ((Server.opening Server.plainSurroundings .null "file:///w/a.luau"
    ⟨text, some "luau"⟩).run ⟨Server.fresh ["file:///w"] none, filesWith octets, [], []⟩).2.effects

/-- Both entrances start the same process for a file with unix ends of lines. -/
theorem unix_file_checked_alike :
    commands (run Server.plainSurroundings (filesWith [120, 10]) [] checkLine).effects =
      openedWith [120, 10] "x\n" := by
  have uri : Check.uriOf (filesWith [120, 10]) (.ofText "a.luau") = "file:///w/a.luau" := by
    decide +kernel
  have folder : Uri.ofPath ((FilePath.ofText "/w").resolved
      (filesWith [120, 10]).workingDirectory).text = "file:///w" := by decide +kernel
  have loads : (settingsFor Server.plainSurroundings (filesWith [120, 10])
      ((FilePath.ofText "/w").resolved (filesWith [120, 10]).workingDirectory) []).result =
      .ok ⟨.default, .default⟩ := rfl
  have reads : (filesWith [120, 10]).read (.ofText "a.luau") = .ok [120, 10] := rfl
  have valid : Text.Utf8.decode [120, 10] = .ok "x\n" := rfl
  have suffix : Check.language? (.ofText "a.luau") = some "luau" := rfl
  have unset : Value.null.isFalsy = true := rfl
  obtain ⟨-, alike⟩ := check_lints_as_server_iff Server.plainSurroundings (filesWith [120, 10]) []
    (called_check _) (checkLine_asks _) rfl (by decide +kernel) loads reads valid suffix unset
  rw [uri, folder] at alike
  exact alike.mpr (.inr (by decide))

/-- For a file with other ends of lines they start different ones. -/
theorem crlf_file_checked_otherwise :
    commands (run Server.plainSurroundings (filesWith [120, 13, 10]) [] checkLine).effects =
        [(["/h/.foreman/bin/lute", "lint", "-j", "-s", "x\n"], some "/w")] ∧
      openedWith [120, 13, 10] "x\r\n" =
        [(["/h/.foreman/bin/lute", "lint", "-j", "-s", "x\r\n"], some "/w")] := by
  refine ⟨?_, by decide +kernel⟩
  have reads : (filesWith [120, 13, 10]).readText (.ofText "a.luau") = .ok "x\n" := rfl
  have loads : (settingsFor Server.plainSurroundings (filesWith [120, 13, 10])
      ((FilePath.ofText "/w").resolved (filesWith [120, 13, 10]).workingDirectory) []).result =
      .ok ⟨.default, .default⟩ := rfl
  rw [checkLine, run_of_request (called_check _) (checkLine_asks _)]
  refine (commands_runCheck_one _ _ _ _ rfl reads loads).trans ?_
  decide +kernel

end Cli

end LintBridge
