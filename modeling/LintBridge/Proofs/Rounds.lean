import LintBridge.Proofs.Presentation
/-!
The rounds of a check: one for each of its files, in their order, with the session and the process
ends that the rounds before it have left. What the linting of files gives is what their rounds give
(`Cli.value_lintFiles`), a round of a language that is not linted gives nothing, and any other one
gives the upshot of its own cycle. The JSON report names what a round gives by the last argument
for the same file (`Cli.forall₂_spelled_rounds`).
-/
namespace LintBridge

theorem Uri.ofPath_inj {p q : String} : Uri.ofPath p = Uri.ofPath q ↔ p = q := by
  refine ⟨fun h => ?_, congrArg _⟩
  have text (path : String) :
      (ofPath path).toList = ['f', 'i', 'l', 'e', ':', '/', '/'] ++ escaped path := by
    simp [ofPath, escaped]
  have same : escaped p = escaped q := by
    have := text p
    rw [h, text q] at this
    exact (List.append_cancel_left this).symm
  have octets := congrArg unescape same
  rw [unescape_escaped, unescape_escaped] at octets
  rw [← Text.Utf8.decodeLenient_encode p, octets, Text.Utf8.decodeLenient_encode]

namespace Cli

/-- The linting of one file: its text, and the session and process ends that it begins with. -/
structure Round where
  path : FilePath
  text : String
  session : Session
  ends : List ProcessEnd

namespace Round

def turn (fs : FileSystem) (r : Round) : Turn Session.Played :=
  r.session.lintDocument fs true none (Check.uriOf fs r.path) r.text (Check.language? r.path) r.ends

def outcome (fs : FileSystem) (r : Round) : Except Failure (Option Outcome) :=
  outcomeOf (r.turn fs).value

def isLinted (r : Round) : Bool := r.session.isLintable (Check.language? r.path)

end Round

/-- The rounds of files, up to the first one that holds no text. -/
def rounds (fs : FileSystem) : Session → List ProcessEnd → List FilePath → List Round
  | _, _, [] => []
  | s, ends, path :: rest =>
    match fs.readText path with
    | .error _ => []
    | .ok text =>
      let r : Round := ⟨path, text, s, ends⟩
      r :: rounds fs (r.turn fs).session
        (ends.drop ((r.turn fs).effects.countP Effect.isSpawn)) rest

variable {fs : FileSystem} {s : Session} {t : Toolchain} {ends : List ProcessEnd}
  {paths : List FilePath}

theorem rounds_cons {path : FilePath} {text : String} (reads : fs.readText path = .ok text)
    (s : Session) (ends : List ProcessEnd) (rest : List FilePath) :
    let r : Round := ⟨path, text, s, ends⟩
    rounds fs s ends (path :: rest) = r :: rounds fs (r.turn fs).session
      (ends.drop ((r.turn fs).effects.countP Effect.isSpawn)) rest := by
  simp only [rounds, reads]

/-- There is one round for each file. -/
theorem map_path_rounds (texts : ∀ path ∈ paths, ∃ text, fs.readText path = .ok text) :
    (rounds fs s ends paths).map Round.path = paths := by
  induction paths generalizing s ends with
  | nil => rfl
  | cons path rest ih =>
    obtain ⟨⟨text, reads⟩, others⟩ := List.forall_mem_cons.mp texts
    rw [rounds_cons reads, List.map_cons, ih others]

theorem path_mem_of_rounds (texts : ∀ path ∈ paths, ∃ text, fs.readText path = .ok text)
    {r : Round} (mem : r ∈ rounds fs s ends paths) : r.path ∈ paths := by
  rw [← map_path_rounds texts]
  exact List.mem_map_of_mem mem

/-- Every round begins with the linter and the configuration of the first one. -/
theorem rounds_known (known : s.toolchain = some t) {r : Round} (mem : r ∈ rounds fs s ends paths) :
    r.session.toolchain = some t ∧ r.session.config = s.config := by
  induction paths generalizing s ends with
  | nil => cases mem
  | cons path rest ih =>
    cases reads : fs.readText path with
    | error f => simp [rounds, reads] at mem
    | ok text =>
      rw [rounds_cons reads, List.mem_cons] at mem
      obtain rfl | later := mem
      · exact ⟨known, rfl⟩
      · obtain ⟨still, config, -⟩ := s.lintDocument_known fs known (Check.uriOf fs path) text
          (Check.language? path) ends
        obtain ⟨toolchain, same⟩ := ih still later
        exact ⟨toolchain, same.trans config⟩

theorem value_lintFiles_cons {path : FilePath} {text : String} (reads : fs.readText path = .ok text)
    (s : Session) (ends : List ProcessEnd) (rest : List FilePath) :
    let r : Round := ⟨path, text, s, ends⟩
    (Check.lintFiles s fs ends (path :: rest)).value = do
      let o ← r.outcome fs
      let os ← (Check.lintFiles (r.turn fs).session (r.turn fs).files
        (ends.drop ((r.turn fs).effects.countP Effect.isSpawn)) rest).value
      return o.toList ++ os := by
  intro r
  have first : outcomeOf (s.lintDocument fs true none (Check.uriOf fs path) text
      (Check.language? path) ends).value = r.outcome fs := rfl
  rw [lintFiles_cons, reads, lintRead, first]
  cases r.outcome fs with
  | error f => rfl
  | ok o => rfl

/-- What the linting of files gives is what their rounds give, one after the other. -/
theorem value_lintFiles (known : s.toolchain = some t)
    (texts : ∀ path ∈ paths, ∃ text, fs.readText path = .ok text) :
    (Check.lintFiles s fs ends paths).value = do
      let os ← (rounds fs s ends paths).mapM (Round.outcome fs)
      return os.filterMap id := by
  induction paths generalizing s ends with
  | nil => rfl
  | cons path rest ih =>
    obtain ⟨⟨text, reads⟩, others⟩ := List.forall_mem_cons.mp texts
    let r : Round := ⟨path, text, s, ends⟩
    obtain ⟨still, -, files, -⟩ : (r.turn fs).session.toolchain = some t ∧ _ ∧
        (r.turn fs).files = fs ∧ _ :=
      s.lintDocument_known fs known (Check.uriOf fs path) text (Check.language? path) ends
    rw [value_lintFiles_cons reads, rounds_cons reads, List.mapM_cons, files, ih still others]
    cases r.outcome fs with
    | error f => rfl
    | ok o =>
      dsimp only [bind, Except.bind]
      cases List.mapM (Round.outcome fs) (rounds fs (r.turn fs).session
        (ends.drop ((r.turn fs).effects.countP Effect.isSpawn)) rest) with
      | error f => rfl
      | ok os => cases o <;> rfl

namespace Round

variable {r : Round}

theorem outcome_of_skipped (skipped : r.isLinted = false) : r.outcome fs = .ok none := by
  obtain ⟨es, -, turn⟩ :=
    Session.lintDocument_skipped skipped fs (Check.uriOf fs r.path) r.text r.ends
  rw [outcome, Round.turn, turn]
  rfl

/-- The cycle of a round that is linted. -/
theorem concludes (linted : r.isLinted = true) (known : r.session.toolchain = some t) :
    (r.session.advance (Check.uriOf fs r.path)).Concludes fs true (r.session.plan t)
      (Check.uriOf fs r.path) r.text (r.session.generation (Check.uriOf fs r.path) + 1)
      (r.ends.headD .usual) (r.ends.tail.headD .usual) (r.turn fs) := by
  have there : r.session.ensureToolchain fs = ⟨r.session, fs, [], .ok (some t)⟩ := by
    simp [Session.ensureToolchain, known]
  have concludes := Session.concludes_lintDocument linted (by rw [there]) true
    (Check.uriOf fs r.path) r.text r.ends
  rw [there] at concludes
  exact concludes

variable (fs) in
/-- A round that is linted gives the upshot of its cycle. -/
theorem outcome_of_linted (linted : r.isLinted = true) (known : r.session.toolchain = some t) :
    let uri := Check.uriOf fs r.path
    ∃ started, r.outcome fs = ((r.session.advance uri).upshot (r.session.plan t) uri
      (r.ends.headD .usual) (r.ends.tail.headD .usual)).map fun findings =>
        some ⟨uri, r.session.generation uri + 1, findings, started⟩ := by
  intro uri
  refine ⟨((r.session.advance uri).commandLines (r.session.plan t) uri r.text
    (r.ends.headD .usual)).length, ?_⟩
  rw [outcome, (concludes linted known).value]
  cases (r.session.advance uri).upshot (r.session.plan t) uri (r.ends.headD .usual)
    (r.ends.tail.headD .usual) <;> rfl

/-- A round gives an outcome, for its own file, exactly if its language is linted. -/
theorem of_outcome {o : Option Outcome} (known : r.session.toolchain = some t)
    (h : r.outcome fs = .ok o) :
    o.isSome = r.isLinted ∧ ∀ x, o = some x → x.uri = Check.uriOf fs r.path := by
  cases linted : r.isLinted with
  | false =>
    rw [outcome_of_skipped linted] at h
    cases h
    simp
  | true =>
    obtain ⟨started, same⟩ := outcome_of_linted fs linted known
    rw [same] at h
    generalize Session.upshot _ _ _ _ _ = upshot at h
    cases upshot with
    | error f => cases h
    | ok findings =>
      cases h
      simp

end Round

section

variable {α β : Type} {R Q : α → β → Prop} {p : α → Prop} {q : β → Prop} {xs : List α}
  {ys : List β} (related : List.Forall₂ R xs ys)

include related

/-- A relation that, between related elements, looks at the first one alone. -/
theorem forall₂_iff_of_forall₂ (same : ∀ x y, R x y → (Q x y ↔ p x)) :
    List.Forall₂ Q xs ys ↔ ∀ x ∈ xs, p x := by
  induction related with
  | nil => simp
  | cons first _ ih => rw [List.forall₂_cons, ih, same _ _ first, List.forall_mem_cons]

theorem exists_iff_of_forall₂ (same : ∀ x y, R x y → (p x ↔ q y)) :
    (∃ x ∈ xs, p x) ↔ ∃ y ∈ ys, q y := by
  induction related with
  | nil => simp
  | cons first _ ih => rw [List.exists_mem_cons_iff, List.exists_mem_cons_iff, ih, same _ _ first]

end

/-- Do two paths name the same file? -/
def SameFile (fs : FileSystem) (a b : FilePath) : Prop :=
  (a.resolved fs.workingDirectory).text = (b.resolved fs.workingDirectory).text

instance (fs : FileSystem) (a b : FilePath) : Decidable (SameFile fs a b) :=
  inferInstanceAs (Decidable (_ = _))

theorem uriOf_eq_iff {a b : FilePath} : Check.uriOf fs a = Check.uriOf fs b ↔ SameFile fs a b :=
  Uri.ofPath_inj

/-- The last one of several paths that names the same file as a path. -/
def lastNamed (fs : FileSystem) (paths : List FilePath) (path : FilePath) : Option FilePath :=
  (paths.filter fun other => SameFile fs other path).getLast?

theorem lastNamed_append (paths : List FilePath) (other path : FilePath) :
    lastNamed fs (paths ++ [other]) path =
      if SameFile fs other path then some other else lastNamed fs paths path := by
  unfold lastNamed
  rw [List.filter_append, List.filter_singleton]
  by_cases same : SameFile fs other path <;> simp [same]

theorem mem_of_lastNamed {path other : FilePath} (h : lastNamed fs paths path = some other) :
    other ∈ paths ∧ SameFile fs other path := by
  simpa using List.mem_of_getLast? h

variable (fs) in
theorem exists_lastNamed {path : FilePath} (mem : path ∈ paths) :
    ∃ other, lastNamed fs paths path = some other := by
  have named : path ∈ paths.filter fun other => SameFile fs other path := by
    simp [mem, SameFile]
  exact ⟨_, List.getLast?_eq_getLast_of_ne_nil (List.ne_nil_of_mem named)⟩

/-- The spelling that is kept for the URI of a file is the last one. -/
theorem get?_spellings (path : FilePath) :
    (Check.spellings fs paths).get? (Check.uriOf fs path) = lastNamed fs paths path := by
  induction paths using List.reverseRecOn with
  | nil => rfl
  | append_singleton paths other ih =>
    rw [lastNamed_append, Check.spellings, List.foldl_append, List.foldl_cons, List.foldl_nil,
      Assoc.get?_put, ← Check.spellings, ih]
    simp only [uriOf_eq_iff]

/-- What is reported of a round: its outcome, under the last spelling of its file. -/
def Reports (fs : FileSystem) (paths : List FilePath) (r : Round) (entry : FilePath × Outcome) :
    Prop :=
  r.outcome fs = .ok (some entry.2) ∧ lastNamed fs paths r.path = some entry.1

/-- There is an entry for each round that is linted, in the same order. -/
theorem forall₂_spelled_rounds {rs : List Round} {os : List (Option Outcome)}
    (known : ∀ r ∈ rs, r.session.toolchain = some t) (named : ∀ r ∈ rs, r.path ∈ paths)
    (gives : List.Forall₂ (fun r o => r.outcome fs = .ok o) rs os) :
    List.Forall₂ (Reports fs paths) (rs.filter Round.isLinted)
      (Check.spelled fs paths (os.filterMap id)) := by
  induction gives with
  | nil => exact .nil
  | @cons r o rs os first _ ih =>
    obtain ⟨here, others⟩ := List.forall_mem_cons.mp known
    obtain ⟨place, places⟩ := List.forall_mem_cons.mp named
    obtain ⟨given, own⟩ := Round.of_outcome here first
    have later := ih others places
    cases o with
    | none =>
      have skipped : r.isLinted = false := given.symm
      simpa [skipped] using later
    | some o =>
      have linted : r.isLinted = true := given.symm
      obtain ⟨other, last⟩ := exists_lastNamed fs place
      have spelling : (Check.spellings fs paths).get? o.uri = some other := by
        rw [own o rfl, get?_spellings, last]
      have entry : Reports fs paths r (other, o) := ⟨first, last⟩
      have more := List.Forall₂.cons entry later
      simpa [linted, Check.spelled, spelling] using more

/-- The rounds of a check. -/
def CheckRequest.rounds (request : CheckRequest) (around : Surroundings) (fs : FileSystem)
    (ends : List ProcessEnd) (settings : Config.Settings) : List Round :=
  Cli.rounds fs (request.search around fs settings).session ends request.files

/-- Is the language of a file linted under a configuration? -/
def lints (settings : Config.Settings) (path : FilePath) : Bool :=
  match Check.language? path with
  | none => true
  | some language => settings.lint.languages.contains language

variable {around : Surroundings} {request : CheckRequest} {settings : Config.Settings}

/-- A session that knows its linter and goes by a configuration. -/
structure Ready (settings : Config.Settings) (t : Toolchain) (s : Session) : Prop where
  toolchain : s.toolchain = some t
  lintable : ∀ path, s.isLintable (Check.language? path) = lints settings path
  rules : s.config.ruleConfigPath = settings.lint.ruleConfigPath
  timed : s.Timed

theorem Ready.of_config {s' : Session} (ready : Ready settings t s)
    (toolchain : s'.toolchain = some t) (config : s'.config = s.config) : Ready settings t s' where
  toolchain := toolchain
  lintable path := by
    rw [← ready.lintable]
    unfold Session.isLintable
    rw [config]
  rules := by rw [config, ready.rules]
  timed := ready.timed.of_timeout (by rw [config])

theorem ready_search (equipped : request.Equipped around fs settings t) :
    Ready settings t (request.search around fs settings).session := by
  have kept := Session.ensureToolchain_kept (oneSession around fs (request.root fs) settings) fs
  have timed : (oneSession around fs (request.root fs) settings).Timed :=
    Config.timed_of_load equipped.loads rfl
  exact ⟨((oneSession around fs (request.root fs) settings).provided fs).toolchain
      equipped.linter,
    fun path => Session.isLintable_ensureToolchain _ fs (Check.language? path),
    kept.2.2.2.1, timed.of_timeout kept.2.2.2.2⟩

theorem ready_rounds (ready : Ready settings t s) {r : Round} (mem : r ∈ rounds fs s ends paths) :
    Ready settings t r.session := by
  obtain ⟨toolchain, config⟩ := rounds_known ready.toolchain mem
  exact ready.of_config toolchain config

section

variable (equipped : request.Equipped around fs settings t)
  (texts : ∀ path ∈ request.files, ∃ text, fs.readText path = .ok text)

include equipped texts

/-- What a check gives is what its rounds give. -/
theorem linted_eq : request.linted around fs ends settings = do
    let os ← (request.rounds around fs ends settings).mapM (Round.outcome fs)
    return os.filterMap id :=
  value_lintFiles (ready_search equipped).toolchain texts

/-- A check comes to outcomes exactly if each of its rounds does. -/
theorem linted_eq_ok_iff {outcomes : List Outcome} :
    request.linted around fs ends settings = .ok outcomes ↔
      ∃ os, List.Forall₂ (fun r o => Round.outcome fs r = .ok o)
        (request.rounds around fs ends settings) os ∧ os.filterMap id = outcomes := by
  simp only [linted_eq equipped texts, bind_eq_ok, mapM_eq_ok_iff, pure,
    Except.pure, Except.ok.injEq]

/-- The entries of a report are those of the rounds whose language is linted. -/
theorem forall₂_spelled_linted {outcomes : List Outcome}
    (linted : request.linted around fs ends settings = .ok outcomes) :
    List.Forall₂ (Reports fs request.files)
      ((request.rounds around fs ends settings).filter fun r => lints settings r.path)
      (Check.spelled fs request.files outcomes) := by
  obtain ⟨os, gives, rfl⟩ := (linted_eq_ok_iff equipped texts).mp linted
  have ready : ∀ r ∈ request.rounds around fs ends settings, Ready settings t r.session :=
    fun r mem => ready_rounds (ready_search equipped) mem
  have named : ∀ r ∈ request.rounds around fs ends settings, r.path ∈ request.files :=
    fun r mem => path_mem_of_rounds texts mem
  have same : (request.rounds around fs ends settings).filter (fun r => lints settings r.path) =
      (request.rounds around fs ends settings).filter Round.isLinted :=
    List.filter_congr fun r mem => ((ready r mem).lintable r.path).symm
  rw [same]
  exact forall₂_spelled_rounds (fun r mem => (ready r mem).toolchain) named gives

end

/-- A check that is equipped reports on what it lints, or fails with that. -/
theorem runCheck_equipped (equipped : request.Equipped around fs settings t)
    (ends : List ProcessEnd) (log : Option Log.Setup) :
    ∃ r : Run, r.stdout = "" ∧ runCheck around ends (Run.idle fs log) request =
      reportLinted around.console r request
        (Check.lintFiles (request.search around fs settings).session fs ends request.files) := by
  obtain ⟨es, -, goesOn⟩ := withSettings_ok (r := Run.idle fs log) equipped.loads
    (checkWith around ends request (request.root fs))
  exact ⟨((Run.idle fs log).did es).did (request.search around fs settings).effects, rfl,
    goesOn.trans (checkWith_found ends request equipped.linter)⟩

variable {words : List String} {call : Called}

/-- The words of a check ask for it in JSON after `--json`. -/
theorem request_json_check {a : Arguments} (sorted : argumentsOf .check words = .request a)
    (made : checkRequest fs a = .request request) :
    Command.request fs .check ("--json" :: words) = .request (.check request.asJson) := by
  rw [request_json, request_check sorted made]
  rfl

/-- A check for JSON whose files are linted prints a record for each entry. -/
theorem run_linted (ends : List ProcessEnd) (calls : called words = .request call)
    (asks : call.command.request fs call.words = .request (.check request))
    (json : request.json = true) (equipped : request.Equipped around fs settings t)
    {outcomes : List Outcome} (linted : request.linted around fs ends settings = .ok outcomes) :
    Json.decode (run around fs ends words).stdout =
        .ok (.list ((Check.spelled fs request.files outcomes).map fun e =>
          Check.fileRecord e.1 e.2)) ∧
      (run around fs ends words).ending = .status (statusOf outcomes) := by
  obtain ⟨r, silent, checked⟩ := runCheck_equipped equipped ends (some (firstLog call.verbose))
  have files := (lintFiles_known fs (ready_search equipped).toolchain ends request.files).1
  have ran : run around fs ends words = _ := (run_of_request calls asks).trans checked
  unfold CheckRequest.linted at linted
  rw [ran, reportLinted]
  dsimp only
  rw [linted, files]
  unfold reportChecks
  dsimp only
  rw [if_pos json, ← Check.decode_jsonReport]
  refine ⟨congrArg Json.decode ?_, rfl⟩
  change r.stdout ++ _ = _
  rw [silent, String.empty_append]

/-- A check whose linting fails ends with the failure, and has printed nothing. -/
theorem run_unlinted (ends : List ProcessEnd) (calls : called words = .request call)
    (asks : call.command.request fs call.words = .request (.check request))
    (equipped : request.Equipped around fs settings t) {f : Failure}
    (fails : request.linted around fs ends settings = .error f) :
    ∃ r : Run, r.stdout = "" ∧ run around fs ends words = r.fail f := by
  obtain ⟨r, silent, checked⟩ := runCheck_equipped equipped ends (some (firstLog call.verbose))
  have ran : run around fs ends words = _ := (run_of_request calls asks).trans checked
  let turn := Check.lintFiles (request.search around fs settings).session fs ends request.files
  unfold CheckRequest.linted at fails
  rw [ran, reportLinted]
  dsimp only
  rw [fails]
  refine ⟨{ r.did turn.effects with files := turn.files }, ?_, rfl⟩
  exact silent

end Cli

end LintBridge
