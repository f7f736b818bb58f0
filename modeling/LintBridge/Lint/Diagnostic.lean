import LintBridge.Document.EditorRange
import LintBridge.Lint.Violation
import LintBridge.Assoc
/-!
What the editor is told about a finding, and the quick fix that may come with it. The fix
edits its own stretch but is anchored at the finding's, which is where it is looked up.
-/
namespace LintBridge

/-- A finding in the form of the editor protocol. -/
structure Diagnostic where
  range : EditorRange
  severity : Severity
  code : String
  href : Option String
  source : String
  message : String
  tags : Option (List Int)
  deriving DecidableEq, Repr

/-- A replacement of one stretch of a document. -/
structure TextEdit where
  range : EditorRange
  newText : String
  deriving DecidableEq, Repr

/-- A quick fix: the diagnostics that it repairs and its edits by document. -/
structure QuickFix where
  title : String
  diagnostics : List Diagnostic
  changes : Assoc String (List TextEdit)
  deriving DecidableEq, Repr

/-- A quick fix and the stretch at which it is looked up. -/
structure StoredAction where
  anchor : EditorRange
  action : QuickFix
  deriving DecidableEq, Repr

/-- A diagnostic and its quick fix, if it has one. -/
structure Finding where
  diagnostic : Diagnostic
  fix : Option StoredAction
  deriving DecidableEq, Repr

namespace Finding

/-- The diagnostics of a list of findings. -/
def diagnostics (fs : List Finding) : List Diagnostic := fs.map Finding.diagnostic

/-- The quick fixes of a list of findings. -/
def actions (fs : List Finding) : List StoredAction := fs.filterMap Finding.fix

@[simp] theorem diagnostics_nil : diagnostics [] = [] := rfl
@[simp] theorem actions_nil : actions [] = [] := rfl
@[simp] theorem diagnostics_cons (f : Finding) (fs : List Finding) :
    diagnostics (f :: fs) = f.diagnostic :: diagnostics fs := rfl
theorem actions_cons (f : Finding) (fs : List Finding) :
    actions (f :: fs) = f.fix.toList ++ actions fs := by
  cases h : f.fix <;> simp [actions, h]

end Finding

namespace Violation

/-- A link that is not empty. -/
def link (v : Violation) : Option String := v.codeDescription.filter fun s => !s.isEmpty

def diagnostic (v : Violation) : Except CoordinateFault Diagnostic :=
  (EditorRange.ofInterval v.range.toInterval).map fun range =>
    { range, severity := v.severity, code := v.code, href := v.link, source := v.source,
      message := v.message, tags := v.tags }

/-- The quick fix for a diagnostic. -/
def SuggestedFix.action (uri : String) (d : Diagnostic) (fix : SuggestedFix) :
    Except CoordinateFault StoredAction :=
  (EditorRange.ofInterval fix.range.toInterval).map fun range =>
    { anchor := d.range
      action :=
        { title := "Fix: " ++ d.message, diagnostics := [d],
          changes := [(uri, [⟨range, fix.replacement⟩])] } }

/-- The editor's view of one violation. The diagnostic's own stretch is looked at first. -/
def finding (uri : String) (v : Violation) : Except CoordinateFault Finding := do
  let d ← v.diagnostic
  match v.suggestedFix with
  | none => return ⟨d, none⟩
  | some fix => return ⟨d, some (← SuggestedFix.action uri d fix)⟩

/-- The editor's view of a batch, in the same order. -/
def findings (uri : String) : List Violation → Except CoordinateFault (List Finding)
  | [] => .ok []
  | v :: vs => do
    let f ← v.finding uri
    let fs ← findings uri vs
    return f :: fs

end Violation
end LintBridge
