import LintBridge.Cli.Check
import LintBridge.Proofs.Precedence
/-!
A rule file that is given to a check. Over layers that make a configuration it makes the same one
with that rule file in it, whatever layer its other fields come from (`Config.load_ruled`).
-/
namespace LintBridge.Config

open Value

variable {α : Type}

/-- A configuration with another rule file. -/
def Settings.ruled (c : Settings) (rules : String) : Settings :=
  { c with lint := { c.lint with ruleConfigPath := rules } }

/-- The layer of a rule file. -/
def rulesLayer (rules : String) : Entries :=
  [(.text "lint", .map [(.text "rule_config_path", .text rules)])]

/-- What stands in a section of two layers, of which the upper one is a mapping or missing. -/
theorem inner_stacked {upper lower : Option Value}
    (mapping : ∀ v, upper = some v → ∃ es : Entries, v = .map es ∧ es.Distinct) (key : Value) :
    inner (stacked upper lower) key = stacked (inner upper key) (inner lower key) := by
  cases upper with
  | none => rfl
  | some v =>
    obtain ⟨es, rfl, distinct⟩ := mapping v rfl
    cases lower with
    | none => exact (stacked_none _).symm
    | some w =>
      cases w with
      | map base => exact get?_merge (distinct key)
      | _ => exact (stacked_none _).symm

/-- A value over a section that is a mapping in the end is one itself. -/
theorem mapping_of_stacked {v : Value} {lower : Option Value} {fields : Entries}
    (h : stacked (some v) lower = some (.map fields)) : ∃ es : Entries, v = .map es := by
  cases lower with
  | none => exact ⟨fields, Option.some.inj h⟩
  | some w =>
    obtain same | ⟨base, es, -, rfl, -⟩ := overlay_eq v w
    · rw [stacked, same] at h
      exact ⟨fields, Option.some.inj h⟩
    · exact ⟨es, rfl⟩

section
variable {files environment : Entries} {rules : String}

theorem single_rulesLayer (rules : String) : Single (rulesLayer rules) :=
  single_one (@Entries.Distinct.record [("rule_config_path", .text rules)] (by simp))

/-- The section of the linter with another rule file over it: at the rule file stands that file,
and everywhere else what stood there before. -/
theorem lint_ruled (rules : String) (single : Single environment)
    (mappings : SectionsAreMappings (merge files environment)) :
    ∃ whole : Entries,
      (merge files (merge environment (rulesLayer rules))).field? "lint" = some (.map whole) ∧
      whole.field? "rule_config_path" = some (.text rules) ∧
      ∀ name, name ≠ "rule_config_path" →
        whole.field? name = inner ((merge files environment).field? "lint") (.text name) := by
  let own : Entries := [(.text "rule_config_path", .text rules)]
  have distinct : own.Distinct :=
    @Entries.Distinct.record [("rule_config_path", .text rules)] (by simp)
  have before : (merge files environment).field? "lint" =
      stacked (environment.field? "lint") (files.field? "lint") := field?_merge (single.1 _)
  have mapping : ∀ v, environment.field? "lint" = some v →
      ∃ es : Entries, v = .map es ∧ es.Distinct := by
    intro v hv
    rw [hv] at before
    obtain ⟨w, hw⟩ : ∃ w, stacked (some v) (files.field? "lint") = some w := by
      cases files.field? "lint" <;> exact ⟨_, rfl⟩
    obtain ⟨fields, rfl⟩ := mappings "lint" (by simp [sections]) w (before.trans hw)
    obtain ⟨es, rfl⟩ := mapping_of_stacked hw
    obtain ⟨k, among, -⟩ := Entries.mem_of_get? hv
    exact ⟨es, rfl, single.2 _ among es rfl⟩
  obtain ⟨above, hm, middle, single'⟩ := stacked_map distinct (environment.field? "lint")
  have between : (merge environment (rulesLayer rules)).field? "lint" = some (.map above) := by
    rw [field?_merge ((single_rulesLayer rules).1 _), ← hm]
    rfl
  have distinct' : above.Distinct := single' fun es hes => by
    obtain ⟨_, same, clean⟩ := mapping _ hes
    cases same
    exact clean
  obtain ⟨whole, hw, values, -⟩ := stacked_map distinct' (files.field? "lint")
  have top : (merge files (merge environment (rulesLayer rules))).field? "lint" =
      some (.map whole) := by
    rw [field?_merge (once_merge (single.1 _) _), between, hw]
  refine ⟨whole, top, ?_, ?_⟩
  · have given : own.get? (.text "rule_config_path") = some (.text rules) := by
      simp [own, Entries.get?, sameKey]
    have stands (lower : Option Value) :
        stacked (some (.text rules)) lower = some (.text rules) := by
      cases lower <;> rfl
    rw [Entries.field?, values, middle, given, stands, stands]
  · intro name apart
    have absent : own.get? (.text name) = none := by
      simp [own, Entries.get?, sameKey, Ne.symm apart]
    rw [Entries.field?, values, middle, absent, before, inner_stacked mapping]
    rfl

/-- The section for logging is untouched by a rule file. -/
theorem logging_ruled (files : Entries) (rules : String) (single : Single environment) :
    (merge files (merge environment (rulesLayer rules))).field? "logging" =
      (merge files environment).field? "logging" := by
  have absent : (rulesLayer rules).field? "logging" = none := by
    simp [rulesLayer, Entries.field?, Entries.get?, sameKey]
  rw [field?_merge (once_merge (single.1 _) _), field?_merge ((single_rulesLayer rules).1 _),
    absent,
    field?_merge (single.1 _), stacked]

/-- A rule file over layers that are checked as a configuration: it is read at its field, and all
other fields are read as before. -/
theorem checkSettings_ruled {homes : Homes} {c : Settings} (single : Single environment)
    (made : checkSettings homes (merge files environment) = .ok c) :
    checkSettings homes (merge files (merge environment (rulesLayer rules))) =
      .ok (c.ruled rules) := by
  obtain ⟨mappings, reads, extra⟩ := checkSettings_eq_ok_iff.mp made
  obtain ⟨whole, lint, given, others⟩ := lint_ruled rules single mappings
  have logging := logging_ruled files rules single
  have linter {β : Type} (f : Field β) (hs : f.sectionName = "lint")
      (hn : f.name ≠ "rule_config_path") :
      f.raw? (merge files (merge environment (rulesLayer rules))) =
        f.raw? (merge files environment) := by
    rw [raw?_eq_inner, raw?_eq_inner, hs, lint]
    exact others f.name hn
  have logger {β : Type} (f : Field β) (hs : f.sectionName = "logging") :
      f.raw? (merge files (merge environment (rulesLayer rules))) =
        f.raw? (merge files environment) := by
    rw [raw?_eq_inner, raw?_eq_inner, hs, logging]
  refine checkSettings_eq_ok_iff.mpr ⟨?_, ?_, ?_⟩
  · intro name hn v hv
    obtain rfl | rfl : name = "logging" ∨ name = "lint" := by simpa [sections] using hn
    · rw [logging] at hv
      exact mappings _ hn v hv
    · rw [lint] at hv
      exact ⟨whole, (Option.some.inj hv).symm⟩
  · intro β f
    have before := reads β f
    cases f with
    | ruleConfigPath =>
      have raw : Field.ruleConfigPath.raw? (merge files (merge environment (rulesLayer rules))) =
          some (.text rules) := by
        rw [raw?_eq_inner]
        change inner ((merge files (merge environment (rulesLayer rules))).field? "lint") _ = _
        rw [lint]
        exact given
      rw [raw]
      rfl
    | level =>
      rw [logger _ rfl]
      exact before
    | outputs =>
      rw [logger _ rfl]
      exact before
    | _ =>
      rw [linter _ rfl (by decide)]
      exact before
  · rw [firstExtra_merge] at extra
    rw [firstExtra_merge, firstExtra_merge]
    refine ⟨extra.1, extra.2, firstExtra_eq_none_iff.mpr fun e he => ?_⟩
    exact ⟨"lint", by simp [sections], by rw [List.mem_singleton.mp he]⟩

end

/-- A rule file that is given to a check makes the configuration of a workspace the same one with
that rule file. -/
theorem load_ruled {src : Sources} {root : FilePath} {c : Settings} {rules : String}
    (filled : rules ≠ "") (h : (load src (some root) []).result = .ok c) :
    (load src (some root) (Cli.overrides none (some rules))).result = .ok (c.ruled rules) := by
  have layer : callerLayer (Cli.overrides none (some rules)) = rulesLayer rules := by
    have given : Cli.overrides none (some rules) = rulesLayer rules := by
      simp [Cli.overrides, rulesLayer, filled]
    rw [given]
    exact callerLayer_one (by simp [sections]) _
  rw [load_result] at h ⊢
  obtain ⟨files, read, h⟩ := bind_eq_ok.mp h
  rw [read]
  change assemble src files _ = _
  unfold assemble at h ⊢
  rw [layer]
  split at h
  · cases h
  next environment found =>
    have single := single_environmentLayer (by decide) found
    have made := settle_eq_ok_iff_checkSettings.mp h
    exact settle_eq_ok_iff_checkSettings.mpr (checkSettings_ruled single made)

end LintBridge.Config
