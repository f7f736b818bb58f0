import LintBridge.Proofs.Checked
import LintBridge.Proofs.Commands
import LintBridge.Proofs.JsonDocuments
import LintBridge.Proofs.Markup
/-!
What the two reports of a check show. Both tell the diagnostics of a file apart by their identities
and ask for each whether a quick fix refers to it; as each finding is an object of its own, that is
whether the finding itself has one (`Check.made_map`). The JSON report is read back as a record for
each file with a record for each of its findings (`Check.decode_jsonReport`). The report for people
hands the console a line for a file without findings, and otherwise a table with a row for each
record (`Check.textReport_cases`).
-/
namespace LintBridge

namespace Cli.Check

open Console (Closed)

/-- What findings have left in memory: each diagnostic under its position, and quick fixes for those
positions whose findings have one. -/
structure Identified (m : Made) (findings : List Finding) : Prop where
  diagnostics : m.diagnostics = findings.mapIdx fun i f => (i, f.diagnostic)
  fixable : ∀ i, i ∈ m.fixable ↔ ∃ f, findings[i]? = some f ∧ f.fix.isSome = true

theorem Identified.add {m : Made} {findings : List Finding} (h : Identified m findings)
    (f : Finding) : Identified (m.add f) (findings ++ [f]) where
  diagnostics := by
    rw [List.mapIdx_concat, ← h.diagnostics, Made.add, h.diagnostics, List.length_mapIdx]
  fixable i := by
    have next : m.diagnostics.length = findings.length := by
      rw [h.diagnostics, List.length_mapIdx]
    have fixes : i ∈ (m.add f).fixable ↔
        i ∈ m.fixable ∨ i = findings.length ∧ f.fix.isSome = true := by
      rw [Made.add, next]
      cases f.fix <;> simp [Made.fixable]
    rw [fixes, h.fixable]
    constructor
    · rintro (⟨g, there, fix⟩ | ⟨rfl, fix⟩)
      · exact ⟨g, List.getElem?_append_left (List.getElem?_eq_some_iff.mp there).1 ▸ there, fix⟩
      · exact ⟨f, by simp, fix⟩
    · rintro ⟨g, there, fix⟩
      rcases lt_trichotomy i findings.length with before | rfl | behind
      · rw [List.getElem?_append_left before] at there
        exact .inl ⟨g, there, fix⟩
      · obtain rfl : f = g := by simpa using there
        exact .inr ⟨rfl, fix⟩
      · rw [List.getElem?_eq_none (by simpa using behind)] at there
        cases there

theorem identified_foldl {m : Made} {before : List Finding} (h : Identified m before)
    (findings : List Finding) : Identified (findings.foldl Made.add m) (before ++ findings) := by
  induction findings generalizing m before with
  | nil => simpa using h
  | cons f findings ih => simpa using ih (h.add f)

theorem identified_made (o : Outcome) : Identified (made o) o.findings := by
  have empty : Identified ⟨[], []⟩ [] := ⟨rfl, by simp [Made.fixable]⟩
  exact identified_foldl empty o.findings

/-- A diagnostic is looked up among those with a quick fix by its identity, and it is found there
exactly if its own finding has one, whatever other diagnostics are equal to it. -/
theorem made_map {β : Type} (tell : Diagnostic → Bool → β) (o : Outcome) :
    (made o).diagnostics.map (fun d => tell d.2 ((made o).fixable.contains d.1)) =
      o.findings.map fun f => tell f.diagnostic f.fix.isSome := by
  obtain ⟨diagnostics, fixable⟩ := identified_made o
  rw [diagnostics]
  refine List.ext_getElem? fun i => ?_
  rw [List.getElem?_map, List.getElem?_mapIdx, List.getElem?_map]
  cases there : o.findings[i]? with
  | none => rfl
  | some f =>
    have own : (made o).fixable.contains i = f.fix.isSome := by
      rw [Bool.eq_iff_iff, List.contains_iff_mem, fixable, there]
      simp
    rw [Option.map_some, Option.map_some, Option.map_some, own]

/-- The record of a finding in the JSON report. -/
def findingRecord (f : Finding) : Value :=
  .record [("line", .int (f.diagnostic.range.start.line + 1)),
    ("column", .int (f.diagnostic.range.start.character + 1)),
    ("severity", .int f.diagnostic.severity.number), ("code", .text f.diagnostic.code),
    ("message", .text f.diagnostic.message), ("fixable", .bool f.fix.isSome)]

/-- The record of a file has the records of its findings. -/
theorem fileRecord_eq (path : FilePath) (o : Outcome) : fileRecord path o =
    .record [("path", .text path.text), ("diagnostics", .list (o.findings.map findingRecord))] := by
  have told := made_map (fun d fixable => Value.record
    [("line", .int (d.range.start.line + 1)), ("column", .int (d.range.start.character + 1)),
      ("severity", .int d.severity.number), ("code", .text d.code), ("message", .text d.message),
      ("fixable", .bool fixable)]) o
  unfold fileRecord
  exact congrArg (fun records => Value.record
    [("path", .text path.text), ("diagnostics", .list records)]) told

theorem written_findingRecord (f : Finding) : Json.Written (findingRecord f) := by
  have coordinate {n : Nat} (fits : n ≤ maxCoordinate) : Json.Short (n + 1 : Int) := by
    refine Json.short_of_lt (k := 10) ?_ (by decide) (by decide)
    rw [maxCoordinate] at fits
    omega
  have severity : Json.Short f.diagnostic.severity.number := by
    refine Json.short_of_lt (k := 1) ?_ (by decide) (by decide)
    cases f.diagnostic.severity <;> decide
  refine .record ?_ (by simp)
  simp only [List.forall_mem_cons]
  exact ⟨.int (coordinate f.diagnostic.range.start_fits.1),
    .int (coordinate f.diagnostic.range.start_fits.2), .int severity, .text _, .text _, .bool _,
    by simp⟩

theorem written_fileRecord (path : FilePath) (o : Outcome) : Json.Written (fileRecord path o) := by
  have findings : Json.Written (.list (o.findings.map findingRecord)) := by
    refine .list ?_
    rw [List.forall_mem_map]
    exact fun f _ => written_findingRecord f
  rw [fileRecord_eq]
  refine .record ?_ (by simp)
  simp only [List.forall_mem_cons]
  exact ⟨.text _, findings, by simp⟩

/-- The JSON report is an array with a record for each file. -/
theorem decode_jsonReport (entries : List (FilePath × Outcome)) :
    Json.decode (jsonReport entries) = .ok (.list (entries.map fun e => fileRecord e.1 e.2)) := by
  refine Json.decode_written (.list ?_)
  rw [List.forall_mem_map]
  exact fun e _ => written_fileRecord e.1 e.2

/-- The cell of a severity: its label in its colour. -/
def severityCell (severity : Severity) : String :=
  let (label, colour) := severityLabel severity
  s!"[{colour}]{label}[/{colour}]"

/-- A record of the JSON report and a row of a table that tell of one diagnostic. -/
inductive SameDiagnostic : Value → List String → Prop where
  | of (line column : Nat) (severity : Severity) (code message : String) (fixable : Bool) :
    SameDiagnostic
      (.record [("line", .int (line + 1)), ("column", .int (column + 1)),
        ("severity", .int severity.number), ("code", .text code), ("message", .text message),
        ("fixable", .bool fixable)])
      [s!"{line + 1}:{column + 1}", severityCell severity, code, message,
        if fixable then fixMark else ""]

/-- The row of a finding. -/
def findingRow (f : Finding) : List String :=
  [s!"{f.diagnostic.range.start.line + 1}:{f.diagnostic.range.start.character + 1}",
    severityCell f.diagnostic.severity, f.diagnostic.code, f.diagnostic.message,
    if f.fix.isSome then fixMark else ""]

/-- The table of a file has the rows of its findings. -/
theorem fileTable_eq (path : FilePath) (o : Outcome) :
    fileTable path o = ⟨path.text, headings, o.findings.map findingRow⟩ := by
  have told := made_map (fun d fixable =>
    [s!"{d.range.start.line + 1}:{d.range.start.character + 1}", severityCell d.severity,
      d.code, d.message, if fixable then fixMark else ""]) o
  exact congrArg (Console.Table.mk path.text headings) told

/-- What is shown of a file: a line if its record lists no diagnostics, and otherwise a table under
its name with a row for each diagnostic that is listed. -/
inductive Shows (console : Console.Writer) : FilePath × Outcome → String → Prop where
  | clean {path : FilePath} {o : Outcome} {report : String}
    (nothing : fileRecord path o = .record [("path", .text path.text), ("diagnostics", .list [])])
    (line : console.line s!"[green]{fixMark}[/green] {path.text}" = .ok report) :
    Shows console (path, o) report
  | table {path : FilePath} {o : Outcome} {report : String} {records : List Value}
    {rows : List (List String)}
    (listed : fileRecord path o =
      .record [("path", .text path.text), ("diagnostics", .list records)])
    (row : List.Forall₂ SameDiagnostic records rows)
    (table : console.table ⟨path.text, headings, rows⟩ = .ok report) :
    Shows console (path, o) report

variable {console : Console.Writer} {path : FilePath} {o : Outcome} {report : String}
  {entries : List (FilePath × Outcome)}

theorem shows_of_fileText (h : fileText console path o = .ok report) :
    Shows console (path, o) report := by
  unfold fileText at h
  split at h
  next clean => exact .clean (by rw [fileRecord_eq, List.isEmpty_iff.mp clean]; rfl) h
  next found =>
    rw [fileTable_eq] at h
    refine .table (fileRecord_eq path o) ?_ h
    rw [List.forall₂_map_left_iff, List.forall₂_map_right_iff]
    exact List.forall₂_same.mpr fun f _ => .of _ _ _ _ _ _

/-- Does a console write the report on every file? -/
def Showable (console : Console.Writer) (entries : List (FilePath × Outcome)) : Prop :=
  ∀ e ∈ entries, ∃ report, fileText console e.1 e.2 = .ok report

/-- The report for people is written to its end exactly if the console writes that of each file. -/
theorem textReport_cases (console : Console.Writer) (entries : List (FilePath × Outcome)) :
    (Showable console entries ∧ ∃ reports, List.Forall₂ (Shows console) entries reports ∧
      textReport console entries = (String.join reports, none)) ∨
    ¬ Showable console entries ∧
      ∃ report fault, textReport console entries = (report, some fault) := by
  unfold Showable
  induction entries with
  | nil => exact .inl ⟨by simp, [], .nil, rfl⟩
  | cons e entries ih =>
    obtain ⟨path, o⟩ := e
    rw [List.forall_mem_cons, textReport]
    cases here : fileText console path o with
    | error fault => exact .inr ⟨by simp, "", fault, rfl⟩
    | ok report =>
      have first : ∃ report', Except.ok report = (.ok report' : Except Console.MarkupFault _) :=
        ⟨report, rfl⟩
      obtain ⟨others, reports, shows, rest⟩ | ⟨others, more, fault, rest⟩ := ih
      · refine .inl ⟨⟨first, others⟩, report :: reports, .cons (shows_of_fileText here) shows, ?_⟩
        rw [rest, String.join_cons]
      · refine .inr ⟨fun ⟨_, all⟩ => others all, report ++ more, fault, ?_⟩
        rw [rest]

/-- The texts of a file's report that come from outside: its name, and the codes and messages. -/
def foreignTexts (path : FilePath) (o : Outcome) : List String :=
  path.text :: o.findings.flatMap fun f => [f.diagnostic.code, f.diagnostic.message]

theorem closed_cleanLine {normal : String → String} {name : String} :
    Closed normal s!"[green]{fixMark}[/green] {name}" ↔ Closed normal name := by
  have spelled : (s!"[green]{fixMark}[/green] {name}").toList =
      '[' :: (['g', 'r', 'e', 'e', 'n'] ++ ']' ::
        (['✓'] ++ '[' :: ('/' :: ['g', 'r', 'e', 'e', 'n'] ++ ']' :: (' ' :: name.toList)))) := by
    simp only [String.toList_append]
    rfl
  rw [Console.closed_styled_iff spelled (by simp) (by simp) (by decide +kernel) (by simp)]
  unfold Closed
  rw [String.toList_ofList, Console.tags_plain (by decide) (by decide)]

/-- A console that reads texts for tags refuses the report on a file of which a text from outside
has a closing tag that matches no open one. -/
theorem closed_of_fileText {normal : String → String} (reads : console.Reads normal)
    (h : fileText console path o = .ok report) :
    ∀ text ∈ foreignTexts path o, Closed normal text := by
  unfold fileText at h
  rw [foreignTexts, List.forall_mem_cons, List.forall_mem_flatMap]
  split at h
  next clean =>
    rw [List.isEmpty_iff.mp clean]
    exact ⟨closed_cleanLine.mp (reads.line h), by simp⟩
  next found =>
    rw [fileTable_eq] at h
    have titled := reads.title h
    refine ⟨titled, fun f hf text mem => ?_⟩
    have row : findingRow f ∈ o.findings.map findingRow := List.mem_map_of_mem hf
    have cells : f.diagnostic.code ∈ findingRow f ∧ f.diagnostic.message ∈ findingRow f := by
      unfold findingRow
      exact ⟨.tail _ (.tail _ (.head _)), .tail _ (.tail _ (.tail _ (.head _)))⟩
    refine reads.cell h (findingRow f) row text ?_
    rcases List.mem_pair.mp mem with rfl | rfl
    · exact cells.1
    · exact cells.2

end Cli.Check

end LintBridge
