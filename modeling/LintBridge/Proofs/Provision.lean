import LintBridge.Proofs.Resolution
import LintBridge.Proofs.StateFile
/-!
Finding the linter at once, on files that do not change meanwhile: everything that it can do to a
session and to the files (`Session.Provided`). A linter that was found is known from then on, and
only a discovery touches the configuration and the files.
-/
namespace LintBridge

open Effect (Quiet)

theorem RuntimeState.write_extends {fs fs' : FileSystem} {p : FilePath} {s : RuntimeState}
    (h : RuntimeState.write fs p s = .ok fs') : fs.Extends fs' := by
  obtain ⟨fs₁, made, written⟩ := bind_eq_ok.mp h
  exact (FileSystem.isDirectoryAt_of_makeDirectories made).2.trans
    (FileSystem.write_eq_ok written).2.1

namespace Session

variable {s : Session} {fs : FileSystem} {turn : Turn (Except SystemError (Option Toolchain))}

theorem remember_files (s : Session) (fs : FileSystem) (executable directory : String) :
    fs.Extends (s.remember fs executable directory).2.1 ∧
      (s.persists = false → (s.remember fs executable directory).2.1 = fs) := by
  unfold remember
  cases hp : s.persists with
  | false => simp [FileSystem.Extends.refl]
  | true =>
    simp only [Bool.not_true, Bool.false_eq_true, ↓reduceIte, Bool.true_eq_false, false_implies,
      and_true]
    split
    next fs' written => exact RuntimeState.write_extends written
    next => exact .refl fs

/-- A session that has discovered its linter. -/
def discovering (s : Session) (executable directory : String) : Session :=
  { s with
    config := { s.config with executablePath := executable, manifestDirectory := some directory }
    toolchain := some ⟨executable, some directory, .foreman⟩ }

/-- What finding the linter at once does: nothing if it is known, and nothing but a report if there
is none or if a look at the files is refused. A linter that is named or bundled is known from then
on; a discovery is also kept in the configuration and, if the session persists, in the files. -/
inductive Provided (s : Session) (fs : FileSystem) :
    Turn (Except SystemError (Option Toolchain)) → Prop where
  | known {t : Toolchain} (there : s.toolchain = some t) : Provided s fs ⟨s, fs, [], .ok (some t)⟩
  | nothing {es : List Effect} (unknown : s.toolchain = none) (quiet : Quiet es)
    (sought : (Toolchain.resolve fs s.home s.config.executablePath s.roots).1 = .ok none)
    (missing : fs.isFile (.ofText s.bundledPath) = .ok false) : Provided s fs ⟨s, fs, es, .ok none⟩
  | refused {es : List Effect} {e : SystemError} (unknown : s.toolchain = none) (quiet : Quiet es)
    (look : (Toolchain.resolve fs s.home s.config.executablePath s.roots).1 = .error e ∨
      (Toolchain.resolve fs s.home s.config.executablePath s.roots).1 = .ok none ∧
        fs.isFile (.ofText s.bundledPath) = .error e) : Provided s fs ⟨s, fs, es, .error e⟩
  | named {es : List Effect} (unknown : s.toolchain = none) (quiet : Quiet es)
    (named : s.config.executablePath ≠ "") :
    Provided s fs ⟨{ s with toolchain := some ⟨s.config.executablePath, none, .explicit⟩ }, fs, es,
      .ok (some ⟨s.config.executablePath, none, .explicit⟩)⟩
  | bundled {es : List Effect} (unknown : s.toolchain = none) (quiet : Quiet es)
    (unnamed : s.config.executablePath = "")
    (sought : (Toolchain.resolve fs s.home s.config.executablePath s.roots).1 = .ok none)
    (there : fs.isFile (.ofText s.bundledPath) = .ok true) :
    Provided s fs ⟨{ s with toolchain := some ⟨s.bundledPath, none, .bundled⟩ }, fs, es,
      .ok (some ⟨s.bundledPath, none, .bundled⟩)⟩
  | discovered {es : List Effect} {executable directory : String} (unknown : s.toolchain = none)
    (quiet : Quiet es) (unnamed : s.config.executablePath = "") (filled : executable ≠ "")
    (sought : (Toolchain.resolve fs s.home s.config.executablePath s.roots).1 =
      .ok (some ⟨executable, some directory, .foreman⟩)) :
    Provided s fs ⟨s.discovering executable directory, (s.remember fs executable directory).2.1, es,
      .ok (some ⟨executable, some directory, .foreman⟩)⟩

theorem provided (s : Session) (fs : FileSystem) : Provided s fs (s.ensureToolchain fs) := by
  cases unknown : s.toolchain with
  | some t =>
    have same : s.ensureToolchain fs = ⟨s, fs, [], .ok (some t)⟩ := by
      simp [ensureToolchain, unknown]
    rw [same]
    exact .known unknown
  | none =>
    have reached := (s.reaches_resolve fs).cases
    rcases sought : Toolchain.resolve fs s.home s.config.executablePath s.roots with ⟨found, events⟩
    rw [sought] at reached
    have first : (Toolchain.resolve fs s.home s.config.executablePath s.roots).1 = found := by
      rw [sought]
    have quiet (more : List Log.Event) := quiet_reports none (events ++ more)
    unfold ensureToolchain
    simp only [unknown, sought]
    rcases found with e | _ | t
    · exact .refused unknown (quiet_reports none events) (.inl first)
    · have unnamed : s.config.executablePath = "" := by
        obtain ⟨-, hs⟩ | ⟨unnamed, -⟩ := reached
        · cases hs
        · exact unnamed
      rcases there : fs.isFile (.ofText s.bundledPath) with e | _ | _
      · have refused := Provided.refused unknown (quiet_reports none events) (.inr ⟨first, there⟩)
        simpa [Except.bind, adopt, Session.bundled, there, Except.map] using refused
      · have missing := quiet [.toolchainNotFound (Cause.bundledMissing s.bundledPath).toFault]
        have nothing := Provided.nothing unknown missing first there
        simpa [Except.bind, adopt, Session.bundled, there, Except.map, ← unknown] using nothing
      · have bundled := Provided.bundled unknown (quiet [.bundledFallback s.bundledPath]) unnamed
          first there
        simpa [Except.bind, adopt, Session.bundled, there, Except.map] using bundled
    · obtain ⟨named, hs⟩ | ⟨unnamed, hs | ⟨e, hs⟩ | hs | ⟨manifest, -, hs | ⟨-, hs⟩⟩⟩ := reached
      · cases hs
        exact .named unknown (quiet []) named
      · cases hs
      · cases hs
      · cases hs
      · cases hs
      · cases hs
        have discovered := Provided.discovered unknown
          (quiet (s.remember fs (Toolchain.binaryPath s.home).text manifest.parent.text).2.2)
          unnamed (FilePath.text_ne_empty _) first
        simpa [Except.bind, adopt, remember_session, discovering] using discovered

namespace Provided

/-- A linter that was found is known. -/
theorem toolchain (h : Provided s fs turn) {found : Option Toolchain}
    (value : turn.value = .ok found) : turn.session.toolchain = found := by
  cases h with
  | known there =>
    cases value
    exact there
  | nothing unknown quiet sought missing =>
    cases value
    exact unknown
  | refused unknown quiet look => cases value
  | named unknown quiet named =>
    cases value
    rfl
  | bundled unknown quiet unnamed sought there =>
    cases value
    rfl
  | discovered unknown quiet unnamed filled sought =>
    cases value
    rfl

/-- Nothing but the linter of the configuration is touched. -/
theorem config (h : Provided s fs turn) : turn.session.config = { s.config with
    executablePath := turn.session.config.executablePath
    manifestDirectory := turn.session.config.manifestDirectory } := by
  cases h <;> rfl

theorem kept (h : Provided s fs turn) : turn.session.roots = s.roots ∧
    turn.session.home = s.home ∧ turn.session.packaged = s.packaged ∧
    turn.session.persists = s.persists := by
  cases h <;> exact ⟨rfl, rfl, rfl, rfl⟩

theorem quiet (h : Provided s fs turn) : Quiet turn.effects := by
  cases h <;> first | exact .nil | assumption

/-- The files are touched by a discovery of a session that persists, and only added to. -/
theorem files (h : Provided s fs turn) : fs.Extends turn.files ∧
    (s.persists = false ∨ turn.session.toolchain = none → turn.files = fs) := by
  cases h with
  | discovered unknown quiet unnamed filled sought =>
    obtain ⟨added, kept⟩ := remember_files s fs _ _
    exact ⟨added, fun h => h.elim kept (by simp [discovering])⟩
  | _ => exact ⟨.refl fs, fun _ => rfl⟩

end Provided

/-- A linter that was found is not looked for again, whatever the files are by then. -/
theorem ensureToolchain_again (s : Session) (fs : FileSystem) {t : Toolchain}
    (h : (s.ensureToolchain fs).value = .ok (some t)) (fs' : FileSystem) :
    (s.ensureToolchain fs).session.ensureToolchain fs' =
      ⟨(s.ensureToolchain fs).session, fs', [], .ok (some t)⟩ := by
  have known := (provided s fs).toolchain h
  generalize (s.ensureToolchain fs).session = ready at known ⊢
  simp [ensureToolchain, known]

theorem isLintable_ensureToolchain (s : Session) (fs : FileSystem) (language : Option String) :
    (s.ensureToolchain fs).session.isLintable language = s.isLintable language := by
  have same := (s.provided fs).config
  unfold isLintable
  rw [same]

/-- A session that keeps what it finds, or not, and has another rule file. -/
def tuned (s : Session) (persists : Bool) (rules : String) : Session :=
  { s with persists, config := { s.config with ruleConfigPath := rules } }

/-- Finding the linter depends on neither. -/
theorem ensureToolchain_tuned (s : Session) (fs : FileSystem) (persists : Bool) (rules : String) :
    ((s.tuned persists rules).ensureToolchain fs).value = (s.ensureToolchain fs).value ∧
      ((s.tuned persists rules).ensureToolchain fs).session =
        (s.ensureToolchain fs).session.tuned persists rules := by
  have same : (s.tuned persists rules).toolchain = s.toolchain := rfl
  have search : Toolchain.resolve fs (s.tuned persists rules).home
      (s.tuned persists rules).config.executablePath (s.tuned persists rules).roots =
      Toolchain.resolve fs s.home s.config.executablePath s.roots := rfl
  unfold ensureToolchain
  rw [same, search]
  cases s.toolchain with
  | some t => exact ⟨rfl, rfl⟩
  | none =>
    rcases Toolchain.resolve fs s.home s.config.executablePath s.roots with ⟨found, events⟩
    have path : (s.tuned persists rules).bundledPath = s.bundledPath := rfl
    rcases found with e | _ | ⟨executable, directory, origin⟩
    · exact ⟨rfl, rfl⟩
    · simp only [Except.bind, adopt, bundled, path]
      cases fs.isFile (.ofText s.bundledPath) <;> exact ⟨rfl, rfl⟩
    · cases origin <;> cases directory <;> simp [Except.bind, adopt, remember_session, tuned]

end Session
end LintBridge
