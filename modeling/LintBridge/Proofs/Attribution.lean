import Mathlib.Data.List.Forall2
import LintBridge.Proofs.Rounds
/-!
Whose name an entry of a report bears. A check reports on its files one by one, in the order of its
arguments, and looks up their names by file afterwards: an entry bears the last argument for its
file, which is its own exactly if no other spelling of the file comes later
(`Cli.check_names_arguments_iff`).
-/
namespace LintBridge.Cli

variable {around : Surroundings} {fs : FileSystem} {words : List String} {call : Called}
  {request : CheckRequest} {settings : Config.Settings} {t : Toolchain}

/-- Is an entry the record of what a round gives, under a name? -/
def RecordedAs (fs : FileSystem) (r : Round) (name : FilePath) (entry : Value) : Prop :=
  ∃ o, r.outcome fs = .ok (some o) ∧ entry = Check.fileRecord name o

/-- Is the last one of several paths for the same file spelled like a path? -/
def SpelledLast (fs : FileSystem) (paths : List FilePath) (path : FilePath) : Prop :=
  ∀ last, lastNamed fs paths path = some last → last.text = path.text

/-- A name can be told from the entry. -/
theorem recordedAs_iff {r : Round} {name other : FilePath} {entry : Value}
    (recorded : RecordedAs fs r other entry) :
    RecordedAs fs r name entry ↔ other.text = name.text := by
  obtain ⟨o, gives, rfl⟩ := recorded
  constructor
  · rintro ⟨o', -, same⟩
    simp only [Check.fileRecord, Value.record, List.map_cons, Value.map.injEq, List.cons.injEq,
      Prod.mk.injEq, Value.text.injEq, true_and] at same
    exact same.1
  · intro same
    exact ⟨o, gives, by simp only [Check.fileRecord, same]⟩

/-- The entries of a check whose rounds all come to an end, with the last spellings for names. -/
theorem recordedAs_last (ends : List ProcessEnd) (calls : called words = .request call)
    (asks : call.command.request fs call.words = .request (.check request))
    (json : request.json = true) (equipped : request.Equipped around fs settings t)
    (texts : ∀ path ∈ request.files, ∃ text, fs.readText path = .ok text)
    (complete : ∀ r ∈ request.rounds around fs ends settings, ∃ o, r.outcome fs = .ok o) :
    ∃ entries, Json.decode (run around fs ends words).stdout = .ok (.list entries) ∧
      List.Forall₂ (fun r entry => ∃ last, lastNamed fs request.files r.path = some last ∧
          RecordedAs fs r last entry)
        ((request.rounds around fs ends settings).filter fun r => lints settings r.path)
        entries := by
  obtain ⟨os, gives⟩ := exists_forall₂_iff.mpr complete
  have linted : request.linted around fs ends settings = .ok (os.filterMap id) :=
    (linted_eq_ok_iff equipped texts).mpr ⟨os, gives, rfl⟩
  refine ⟨_, (run_linted ends calls asks json equipped linted).1, ?_⟩
  rw [List.forall₂_map_right_iff]
  exact (forall₂_spelled_linted equipped texts linted).imp fun r e reports =>
    ⟨e.1, reports.2, e.2, reports.1, rfl⟩

/-- A check with a report has come to the end of its rounds. -/
theorem complete_of_entries {ends : List ProcessEnd} (calls : called words = .request call)
    (asks : call.command.request fs call.words = .request (.check request))
    (equipped : request.Equipped around fs settings t)
    (texts : ∀ path ∈ request.files, ∃ text, fs.readText path = .ok text) {entries : List Value}
    (decoded : Json.decode (run around fs ends words).stdout = .ok (.list entries)) :
    ∀ r ∈ request.rounds around fs ends settings, ∃ o, r.outcome fs = .ok o := by
  cases linted : request.linted around fs ends settings with
  | error f =>
    obtain ⟨r, silent, ran⟩ := run_unlinted ends calls asks equipped linted
    rw [ran, (r.fail_kept f).2.2, silent] at decoded
    cases decoded
  | ok outcomes =>
    obtain ⟨os, gives, -⟩ := (linted_eq_ok_iff equipped texts).mp linted
    exact exists_forall₂_iff.mp ⟨os, gives⟩

/-- A check for JSON makes a round with each of its arguments, in their order. If all rounds come to
an end, the printed array has an entry for each argument whose language is linted, in the same order
and with what the argument's own round gives, under the name of the last argument for the same file.
So each entry bears the name of its own argument exactly if no other spelling of its file comes
later. -/
theorem check_names_arguments_iff (ends : List ProcessEnd) (calls : called words = .request call)
    (asks : call.command.request fs call.words = .request (.check request))
    (json : request.json = true) (equipped : request.Equipped around fs settings t)
    (texts : ∀ path ∈ request.files, ∃ text, fs.readText path = .ok text) :
    let stdout := (run around fs ends words).stdout
    let rs := request.rounds around fs ends settings
    let linted := rs.filter fun r => lints settings r.path
    rs.map Round.path = request.files ∧
      ((∀ r ∈ rs, ∃ o, r.outcome fs = .ok o) →
        ∃ entries, Json.decode stdout = .ok (.list entries) ∧
          List.Forall₂ (fun r entry => ∃ last, lastNamed fs request.files r.path = some last ∧
            RecordedAs fs r last entry) linted entries) ∧
      ((∃ entries, Json.decode stdout = .ok (.list entries) ∧
          List.Forall₂ (fun r entry => RecordedAs fs r r.path entry) linted entries) ↔
        (∀ r ∈ rs, ∃ o, r.outcome fs = .ok o) ∧
          ∀ path ∈ request.files, lints settings path = true →
            SpelledLast fs request.files path) := by
  intro stdout rs linted
  have paths : rs.map Round.path = request.files := map_path_rounds texts
  have reported := recordedAs_last ends calls asks json equipped texts
  have own_iff {entries : List Value} (named : List.Forall₂ (fun r entry => ∃ last,
      lastNamed fs request.files r.path = some last ∧ RecordedAs fs r last entry) linted entries) :
      List.Forall₂ (fun r entry => RecordedAs fs r r.path entry) linted entries ↔
        ∀ r ∈ linted, SpelledLast fs request.files r.path := by
    refine forall₂_iff_of_forall₂ named ?_
    rintro r entry ⟨last, spelled, recorded⟩
    simp [SpelledLast, recordedAs_iff recorded, spelled]
  have each (p : FilePath → Prop) : (∀ r ∈ rs, p r.path) ↔ ∀ path ∈ request.files, p path := by
    rw [← paths, List.forall_mem_map]
  have own_linted : (∀ r ∈ linted, SpelledLast fs request.files r.path) ↔
      ∀ path ∈ request.files, lints settings path = true → SpelledLast fs request.files path := by
    simp only [linted, List.mem_filter, and_imp]
    exact each fun path => lints settings path = true → SpelledLast fs request.files path
  rw [← own_linted]
  refine ⟨paths, reported, ?_, ?_⟩
  · rintro ⟨entries, decoded, own⟩
    have complete := complete_of_entries calls asks equipped texts decoded
    obtain ⟨entries', decoded', named⟩ := reported complete
    cases decoded.symm.trans decoded'
    exact ⟨complete, (own_iff named).mp own⟩
  · rintro ⟨complete, own⟩
    obtain ⟨entries, decoded, named⟩ := reported complete
    exact ⟨entries, decoded, (own_iff named).mpr own⟩

/-- A check for JSON of a file that is named twice. -/
def twiceRequest (second : String) : CheckRequest :=
  ⟨[.ofText "a.luau", .ofText second], some (.ofText "/w"), none, none, true⟩

theorem equipped_twiceRequest (second : String) :
    (twiceRequest second).Equipped Server.plainSurroundings (filesWith [120, 10])
      ⟨.default, .default⟩ ⟨"/h/.foreman/bin/lute", some "/w", .foreman⟩ := by
  obtain ⟨loads, linter⟩ := equipped_warningRequest
  exact ⟨loads, linter⟩

/-- The rounds of a check of both spellings come to an end when the linter finds nothing. -/
theorem complete_twiceRequest {second : String}
    (texts : ∀ path ∈ (twiceRequest second).files, ∃ text,
      (filesWith [120, 10]).readText path = .ok text) :
    ∀ r ∈ (twiceRequest second).rounds Server.plainSurroundings (filesWith [120, 10]) []
      ⟨.default, .default⟩, ∃ o, r.outcome (filesWith [120, 10]) = .ok o := by
  have equipped := equipped_twiceRequest second
  have ordinary : ∀ e ∈ ([] : List ProcessEnd), e.Ordinary := by simp
  obtain ⟨outcomes, linted⟩ := linted_isOk equipped texts ordinary
  obtain ⟨os, gives, -⟩ := (linted_eq_ok_iff equipped texts).mp linted
  exact exists_forall₂_iff.mp ⟨os, gives⟩

/-- An argument that is repeated as it is gives its name to both entries. -/
theorem repeated_argument_named :
    let words := ["check", "--json", "-w", "/w", "a.luau", "a.luau"]
    let request := twiceRequest "a.luau"
    called words = .request ⟨false, .check, words.tail⟩ ∧
      Command.request (filesWith [120, 10]) .check words.tail = .request (.check request) ∧
      ∃ entries, Json.decode (run Server.plainSurroundings (filesWith [120, 10]) [] words).stdout =
          .ok (.list entries) ∧
        List.Forall₂ (fun r entry => RecordedAs (filesWith [120, 10]) r r.path entry)
          ((request.rounds Server.plainSurroundings (filesWith [120, 10]) []
            ⟨.default, .default⟩).filter fun r => lints ⟨.default, .default⟩ r.path) entries := by
  intro words request
  have sorted : argumentsOf .check ["-w", "/w", "a.luau", "a.luau"] =
      .request ⟨[⟨"--workspace", some "/w"⟩], ["a.luau", "a.luau"]⟩ := by cbv
  have asks : Command.request (filesWith [120, 10]) .check words.tail =
      .request (.check request) := (request_json_check sorted rfl).trans rfl
  have texts : ∀ path ∈ request.files, ∃ text, (filesWith [120, 10]).readText path = .ok text := by
    simpa [request, twiceRequest] using ⟨"x\n", rfl⟩
  obtain ⟨-, -, named⟩ := check_names_arguments_iff [] (called_check words.tail) asks rfl
    (equipped_twiceRequest "a.luau") texts
  refine ⟨called_check _, asks, named.mpr ⟨complete_twiceRequest texts, ?_⟩⟩
  have last : lastNamed (filesWith [120, 10]) request.files (.ofText "a.luau") =
      some (.ofText "a.luau") := by decide +kernel
  rintro path mem - other named
  obtain rfl : path = .ofText "a.luau" := by simpa [request, twiceRequest] using mem
  cases last.symm.trans named
  rfl

/-- Of two spellings of a file the second one stands for both: the entry of the first argument does
not bear its name. -/
theorem earlier_spelling_lost :
    let words := ["check", "--json", "-w", "/w", "a.luau", "/w/a.luau"]
    ∃ r r' entry entry',
      (twiceRequest "/w/a.luau").rounds Server.plainSurroundings (filesWith [120, 10]) []
        ⟨.default, .default⟩ = [r, r'] ∧ r.path = .ofText "a.luau" ∧
      Json.decode (run Server.plainSurroundings (filesWith [120, 10]) [] words).stdout =
        .ok (.list [entry, entry']) ∧
      RecordedAs (filesWith [120, 10]) r (.ofText "/w/a.luau") entry ∧
      ¬ RecordedAs (filesWith [120, 10]) r r.path entry := by
  intro words
  let request := twiceRequest "/w/a.luau"
  have sorted : argumentsOf .check ["-w", "/w", "a.luau", "/w/a.luau"] =
      .request ⟨[⟨"--workspace", some "/w"⟩], ["a.luau", "/w/a.luau"]⟩ := by cbv
  have asks : Command.request (filesWith [120, 10]) .check words.tail =
      .request (.check request) := (request_json_check sorted rfl).trans rfl
  have texts : ∀ path ∈ request.files, ∃ text, (filesWith [120, 10]).readText path = .ok text := by
    simp only [request, twiceRequest, List.forall_mem_cons]
    exact ⟨⟨"x\n", rfl⟩, ⟨"x\n", rfl⟩, by simp⟩
  have paths : List.map Round.path (request.rounds Server.plainSurroundings (filesWith [120, 10]) []
      ⟨.default, .default⟩) = [.ofText "a.luau", .ofText "/w/a.luau"] := map_path_rounds texts
  obtain ⟨entries, decoded, named⟩ := recordedAs_last [] (called_check words.tail) asks rfl
    (equipped_twiceRequest "/w/a.luau") texts (complete_twiceRequest texts)
  obtain ⟨r, rest, rs, first, others⟩ := List.map_eq_cons_iff.mp paths
  obtain ⟨r', rest', rfl, second, none⟩ := List.map_eq_cons_iff.mp others
  obtain rfl := List.map_eq_nil_iff.mp none
  have lint : lints ⟨.default, .default⟩ r.path = true := by rw [first]; decide +kernel
  have lint' : lints ⟨.default, .default⟩ r'.path = true := by rw [second]; decide +kernel
  have both : (request.rounds Server.plainSurroundings (filesWith [120, 10]) []
      ⟨.default, .default⟩).filter (fun r => lints ⟨.default, .default⟩ r.path) = [r, r'] := by
    simp [rs, lint, lint']
  rw [both] at named
  cases named with
  | @cons _ entry _ _ recorded others =>
    cases others with
    | @cons _ entry' _ _ _ none =>
      cases none
      obtain ⟨last, spelled, recorded⟩ := recorded
      have final : lastNamed (filesWith [120, 10]) request.files (.ofText "a.luau") =
          some (.ofText "/w/a.luau") := by decide +kernel
      rw [first] at spelled
      cases final.symm.trans spelled
      refine ⟨r, r', entry, entry', rs, first, decoded, recorded, ?_⟩
      rw [recordedAs_iff recorded, first]
      decide +kernel

end LintBridge.Cli
