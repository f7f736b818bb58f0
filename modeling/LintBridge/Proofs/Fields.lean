import LintBridge.Config.Schema
import LintBridge.Proofs.Checked
/-!
The fields of the configuration as one family. A mapping is checked as a configuration
exactly if its sections are mappings, there is nothing beside them, and every field comes to
the checked form of what stands there, or to its default where nothing does
(`checkSettings_eq_ok_iff`).
-/
namespace LintBridge.Config

open Schema

/-- A field of the configuration, by the type of its values. -/
inductive Field : Type → Type where
  | level : Field Log.Level
  | outputs : Field (List LogOutput)
  | executablePath : Field String
  | ruleConfigPath : Field String
  | manifestDirectory : Field (Option String)
  | bundledExecutable : Field (Option String)
  | languages : Field (List String)
  | timeout : Field (Option Binary64)

namespace Field

variable {α : Type}

/-- The section of a field. -/
def sectionName : Field α → String
  | level | outputs => "logging"
  | _ => "lint"

def name : Field α → String
  | level => "level"
  | outputs => "outputs"
  | executablePath => "executable_path"
  | ruleConfigPath => "rule_config_path"
  | manifestDirectory => "toolchain_manifest_directory"
  | bundledExecutable => "bundled_executable"
  | languages => "languages"
  | timeout => "timeout_sec"

/-- The value of a field that is not set. -/
def default : Field α → α
  | level => .info
  | outputs => [LogOutput.default]
  | executablePath | ruleConfigPath => ""
  | manifestDirectory | bundledExecutable => none
  | languages => ["luau", "lua"]
  | timeout => none

/-- The checked form of a value of a field. -/
def check (homes : Homes) : Field α → Value → Checking α
  | level, v => (checkLevel v).mapError .mismatch
  | outputs, v => checkOutputList homes v
  | executablePath, v | ruleConfigPath, v => (text v).mapError .mismatch
  | manifestDirectory, v | bundledExecutable, v => (nullable text v).mapError .mismatch
  | languages, v => (list text v).mapError .mismatch
  | timeout, v => (checkTimeout v).mapError .mismatch

/-- The value of a field in a configuration. -/
def value (s : Settings) : Field α → α
  | level => s.logging.level
  | outputs => s.logging.outputs
  | executablePath => s.lint.executablePath
  | ruleConfigPath => s.lint.ruleConfigPath
  | manifestDirectory => s.lint.manifestDirectory
  | bundledExecutable => s.lint.bundledExecutable
  | languages => s.lint.languages
  | timeout => s.lint.timeout

/-- What stands at a field of a mapping whose sections are mappings. -/
def raw? (f : Field α) (es : Value.Entries) : Option Value :=
  match es.field? f.sectionName with
  | some (.map fields) => Value.Entries.field? fields f.name
  | _ => none

/-- A field has the checked form of a value, or its default without one. -/
def Reads (f : Field α) (homes : Homes) (raw : Option Value) (s : Settings) : Prop :=
  match raw with
  | some v => f.check homes v = .ok (f.value s)
  | none => f.value s = f.default

theorem sectionName_mem (f : Field α) : f.sectionName ∈ sections := by
  cases f <;> simp [sectionName, sections]

/-- A field whose check is one of the schema's is read as the schema reads it. -/
theorem reads_iff_defaulted {homes : Homes} {s : Settings} (f : Field α) {es : Value.Entries}
    {check : Value → Checked α} (hf : ∀ v, f.check homes v = (check v).mapError .mismatch) :
    f.Reads homes (es.field? f.name) s ↔ defaulted es f.name f.default check = .ok (f.value s) := by
  rw [defaulted_eq_ok_iff]
  unfold Reads
  cases es.field? f.name with
  | none => exact Iff.rfl
  | some v => simp only [hf, mapError_eq_ok_iff]

/-- No field is a mapping. -/
theorem check_map_ne_ok (f : Field α) (homes : Homes) (es : Value.Entries) (a : α) :
    f.check homes (.map es) ≠ .ok a := by
  cases f <;>
    simp [check, checkLevel, oneOf, checkOutputList, text, nullable, list, checkTimeout, number,
      fail, Except.map, bind, Except.bind]

end Field

/-- The sections of a mapping that are there are mappings. -/
def SectionsAreMappings (es : Value.Entries) : Prop :=
  ∀ name ∈ sections, ∀ v, es.field? name = some v → ∃ fields, v = .map fields

theorem checkLint_eq_ok_iff {v : Value} {c : LintConfig} :
    checkLint v = .ok c ↔ ∃ es, v = .map es ∧
      defaulted es "executable_path" "" text = .ok c.executablePath ∧
      defaulted es "rule_config_path" "" text = .ok c.ruleConfigPath ∧
      defaulted es "toolchain_manifest_directory" none (nullable text) = .ok c.manifestDirectory ∧
      defaulted es "bundled_executable" none (nullable text) = .ok c.bundledExecutable ∧
      defaulted es "languages" LintConfig.default.languages (list text) = .ok c.languages ∧
      defaulted es "timeout_sec" none checkTimeout = .ok c.timeout := by
  simp only [checkLint, bind_eq_ok, entries_eq_ok_iff]
  constructor
  · rintro ⟨es, rfl, a, ha, b, hb, m, hm, n, hn, l, hl, t, ht, h⟩
    cases h
    exact ⟨es, rfl, ha, hb, hm, hn, hl, ht⟩
  · rintro ⟨es, rfl, ha, hb, hm, hn, hl, ht⟩
    exact ⟨es, rfl, _, ha, _, hb, _, hm, _, hn, _, hl, _, ht, rfl⟩

theorem checkLogging_eq_ok_iff {homes : Homes} {v : Value} {c : LoggingConfig} :
    checkLogging homes v = .ok c ↔ ∃ es, v = .map es ∧
      defaulted es "level" .info checkLevel = .ok c.level ∧
      match Value.Entries.field? es "outputs" with
      | some outputs => checkOutputList homes outputs = .ok c.outputs
      | none => c.outputs = [LogOutput.default] := by
  simp only [checkLogging, bind_eq_ok, mapError_eq_ok_iff, entries_eq_ok_iff]
  refine exists_congr fun es => and_congr_right fun _ => ?_
  cases Value.Entries.field? es "outputs" with
  | none =>
    simp only [bind_eq_ok]
    constructor
    · rintro ⟨level, hl, outputs, ho, h⟩
      cases ho
      cases h
      exact ⟨hl, rfl⟩
    · rintro ⟨hl, ho⟩
      exact ⟨c.level, hl, c.outputs, by rw [ho]; rfl, rfl⟩
  | some v =>
    simp only [bind_eq_ok, mapError_eq_ok_iff]
    constructor
    · rintro ⟨level, hl, outputs, ho, h⟩
      cases h
      exact ⟨hl, ho⟩
    · rintro ⟨hl, ho⟩
      exact ⟨c.level, hl, c.outputs, ho, rfl⟩

/-- The two sections are checked one by one. -/
theorem checkSettings_eq_ok_iff_sections {homes : Homes} {es : Value.Entries} {s : Settings} :
    checkSettings homes es = .ok s ↔
      (match es.field? "logging" with
        | some v => checkLogging homes v = .ok s.logging
        | none => s.logging = LoggingConfig.default) ∧
      (match es.field? "lint" with
        | some v => checkLint v = .ok s.lint
        | none => s.lint = LintConfig.default) ∧ firstExtra es = none := by
  rcases s with ⟨logging, lint⟩
  unfold checkSettings
  cases es.field? "logging" <;> cases es.field? "lint" <;> cases firstExtra es <;>
    simp only [bind_eq_ok, mapError_eq_ok_iff] <;>
    simp [pure, Except.pure, throw, throwThe, MonadExceptOf.throw] <;> grind

/-- The logging section is read field by field. -/
theorem loggingSection_iff {homes : Homes} {es : Value.Entries} {s : Settings} :
    (match es.field? "logging" with
      | some v => checkLogging homes v = .ok s.logging
      | none => s.logging = LoggingConfig.default) ↔
    (∀ v, es.field? "logging" = some v → ∃ fields, v = .map fields) ∧
      Field.level.Reads homes (Field.level.raw? es) s ∧
      Field.outputs.Reads homes (Field.outputs.raw? es) s := by
  rcases s with ⟨⟨level, outputs⟩, lint⟩
  cases h : es.field? "logging" with
  | none =>
    simp [Field.Reads, Field.raw?, Field.sectionName, h, Field.value, Field.default,
      LoggingConfig.default]
  | some v =>
    cases v with
    | map fields =>
      simp only [checkLogging_eq_ok_iff, Value.map.injEq, exists_eq_left', Option.some.injEq,
        forall_eq',
        exists_eq', Field.raw?, Field.sectionName, h, true_and]
      rw [Field.reads_iff_defaulted .level fun _ => rfl]
      exact Iff.rfl
    | _ => simp [checkLogging_eq_ok_iff]

/-- The lint section is read field by field. -/
theorem lintSection_iff {homes : Homes} {es : Value.Entries} {s : Settings} :
    (match es.field? "lint" with
      | some v => checkLint v = .ok s.lint
      | none => s.lint = LintConfig.default) ↔
    (∀ v, es.field? "lint" = some v → ∃ fields, v = .map fields) ∧
      Field.executablePath.Reads homes (Field.executablePath.raw? es) s ∧
      Field.ruleConfigPath.Reads homes (Field.ruleConfigPath.raw? es) s ∧
      Field.manifestDirectory.Reads homes (Field.manifestDirectory.raw? es) s ∧
      Field.bundledExecutable.Reads homes (Field.bundledExecutable.raw? es) s ∧
      Field.languages.Reads homes (Field.languages.raw? es) s ∧
      Field.timeout.Reads homes (Field.timeout.raw? es) s := by
  rcases s with ⟨logging, executable, rules, directory, bundled, languages, timeout⟩
  cases h : es.field? "lint" with
  | none =>
    simp [Field.Reads, Field.raw?, Field.sectionName, h, Field.value, Field.default,
      LintConfig.default]
  | some v =>
    cases v with
    | map fields =>
      simp only [checkLint_eq_ok_iff, Value.map.injEq, exists_eq_left', Option.some.injEq,
        forall_eq',
        exists_eq', Field.raw?, Field.sectionName, h, true_and]
      rw [Field.reads_iff_defaulted .executablePath fun _ => rfl,
        Field.reads_iff_defaulted .ruleConfigPath fun _ => rfl,
        Field.reads_iff_defaulted .manifestDirectory fun _ => rfl,
        Field.reads_iff_defaulted .bundledExecutable fun _ => rfl,
        Field.reads_iff_defaulted .languages fun _ => rfl,
        Field.reads_iff_defaulted .timeout fun _ => rfl]
      exact Iff.rfl
    | _ => simp [checkLint_eq_ok_iff]

theorem checkSettings_eq_ok_iff {homes : Homes} {es : Value.Entries} {s : Settings} :
    checkSettings homes es = .ok s ↔ SectionsAreMappings es ∧
      (∀ (α : Type) (f : Field α), f.Reads homes (f.raw? es) s) ∧ firstExtra es = none := by
  rw [checkSettings_eq_ok_iff_sections, loggingSection_iff, lintSection_iff]
  constructor
  · rintro ⟨⟨logging, hl, ho⟩, ⟨lint, he, hr, hm, hb, hg, ht⟩, extra⟩
    refine ⟨?_, ?_, extra⟩
    · intro name hn
      obtain rfl | rfl : name = "logging" ∨ name = "lint" := by simpa [sections] using hn
      · exact logging
      · exact lint
    · intro α f
      cases f <;> assumption
  · rintro ⟨mappings, reads, extra⟩
    exact ⟨⟨mappings _ (by simp [sections]), reads _ _, reads _ _⟩,
      ⟨mappings _ (by simp [sections]), reads _ _, reads _ _, reads _ _, reads _ _, reads _ _,
        reads _ _⟩, extra⟩

end LintBridge.Config
