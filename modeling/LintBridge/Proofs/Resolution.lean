import LintBridge.Proofs.Uninterrupted
/-!
The linters that a configuration stands for. A search looks at the files twice, and they
may change in between; what it can come to is what its looks allow, whatever the files are
at each of them (`Session.Reaches`). On files that do not change, a whole search is one of
them (`Session.reaches_resolve`).
-/
namespace LintBridge

namespace Session

/-- How far a search with the configuration and the folders of a session can come, if each
of its looks is at one of some file systems. -/
inductive Reaches (s : Session) (files : List FileSystem) : Toolchain.Search → Prop where
  | start : Reaches s files (Toolchain.Search.start s.config.executablePath s.roots).search
  | look {search : Toolchain.Search} {fs : FileSystem} (reached : Reaches s files search)
    (seen : fs ∈ files) : Reaches s files (search.step fs s.home).search

/-- The linters that the configuration and the folders of a session stand for: what a search
comes to, and the bundled linter if it comes to nothing. -/
inductive Resolved (s : Session) (files : List FileSystem) : Toolchain → Prop where
  | found {t : Toolchain} (reached : Reaches s files (.settled (some t))) : Resolved s files t
  | bundled {fs : FileSystem} (reached : Reaches s files (.settled none)) (seen : fs ∈ files)
    (there : fs.isFile (.ofText s.bundledPath) = .ok true) :
    Resolved s files ⟨s.bundledPath, none, .bundled⟩

theorem Reaches.mono {s : Session} {files files' : List FileSystem} (more : files ⊆ files')
    {search : Toolchain.Search} (h : s.Reaches files search) : s.Reaches files' search := by
  induction h with
  | start => exact .start
  | look reached seen ih => exact .look ih (more seen)

theorem Resolved.mono {s : Session} {files files' : List FileSystem} (more : files ⊆ files')
    {t : Toolchain} (h : s.Resolved files t) : s.Resolved files' t := by
  cases h with
  | found reached => exact .found (reached.mono more)
  | bundled reached seen there => exact .bundled (reached.mono more) (more seen) there

/-- The stages of a search, by what the configuration, the folders and the files have to be. -/
theorem Reaches.cases {s : Session} {files : List FileSystem} {search : Toolchain.Search}
    (h : Reaches s files search) :
    (s.config.executablePath ≠ "" ∧
        search = .settled (some ⟨s.config.executablePath, none, .explicit⟩)) ∨
      s.config.executablePath = "" ∧
        (search = .settled none ∨ (∃ e, search = .refused e) ∨ search = .manifests s.roots ∨
          ∃ manifest, (∃ fs ∈ files, Toolchain.findManifest fs s.roots = .ok (some manifest)) ∧
            (search = .binary manifest ∨
              (∃ fs ∈ files, fs.isFile (Toolchain.binaryPath s.home) = .ok true) ∧
                search = .settled (some ⟨(Toolchain.binaryPath s.home).text,
                  some manifest.parent.text, .foreman⟩))) := by
  induction h with
  | start =>
    unfold Toolchain.Search.start
    by_cases named : s.config.executablePath = ""
    · refine .inr ⟨named, ?_⟩
      simp only [named, ne_eq, not_true_eq_false, ↓reduceIte]
      split
      · exact .inl rfl
      · exact .inr (.inr (.inl rfl))
    · exact .inl ⟨named, by simp [named]⟩
  | @look search fs reached seen ih =>
    obtain ⟨named, rfl⟩ | ⟨named, rfl | ⟨e, rfl⟩ | rfl | ⟨manifest, there, rfl | ⟨binary, rfl⟩⟩⟩ :=
      ih
    · exact .inl ⟨named, rfl⟩
    · exact .inr ⟨named, .inl rfl⟩
    · exact .inr ⟨named, .inr (.inl ⟨e, rfl⟩)⟩
    · refine .inr ⟨named, ?_⟩
      simp only [Toolchain.Search.step]
      rcases hm : Toolchain.findManifest fs s.roots with e | _ | manifest
      · exact .inr (.inl ⟨e, rfl⟩)
      · exact .inl rfl
      · exact .inr (.inr (.inr ⟨manifest, ⟨fs, seen, hm⟩, .inl rfl⟩))
    · refine .inr ⟨named, ?_⟩
      simp only [Toolchain.Search.step]
      rcases hb : fs.isFile (Toolchain.binaryPath s.home) with e | _ | _
      · exact .inr (.inl ⟨e, rfl⟩)
      · exact .inl rfl
      · exact .inr (.inr (.inr ⟨manifest, there, .inr ⟨⟨fs, seen, hb⟩, rfl⟩⟩))
    · exact .inr ⟨named, .inr (.inr (.inr ⟨manifest, there, .inr ⟨binary, rfl⟩⟩))⟩

/-- A linter that a search has come to is the one that is named, or a discovery where none is
named. -/
theorem Reaches.linter {s : Session} {files : List FileSystem} {t : Toolchain}
    (h : s.Reaches files (.settled (some t))) :
    (s.config.executablePath ≠ "" ∧ t = ⟨s.config.executablePath, none, .explicit⟩) ∨
      s.config.executablePath = "" ∧ t.origin = .foreman := by
  obtain ⟨named, hs⟩ | ⟨named, hs | ⟨e, hs⟩ | hs | ⟨manifest, -, hs | ⟨-, hs⟩⟩⟩ := h.cases
  · cases hs
    exact .inl ⟨named, rfl⟩
  · cases hs
  · cases hs
  · cases hs
  · cases hs
  · cases hs
    exact .inr ⟨named, rfl⟩

/-- A linter that is named is the only one. -/
theorem Resolved.eq_named {s : Session} {files : List FileSystem} {t : Toolchain}
    (h : s.Resolved files t) (named : s.config.executablePath ≠ "") :
    t = ⟨s.config.executablePath, none, .explicit⟩ := by
  cases h with
  | found reached =>
    obtain ⟨-, rfl⟩ | ⟨unnamed, -⟩ := reached.linter
    · rfl
    · exact absurd unnamed named
  | bundled reached seen there =>
    obtain ⟨-, hs⟩ | ⟨unnamed, -⟩ := reached.cases
    · cases hs
    · exact absurd unnamed named

/-- A bundled linter that the configuration stands for is its own. -/
theorem Resolved.executable_of_bundled {s : Session} {files : List FileSystem} {t : Toolchain}
    (h : s.Resolved files t) (origin : t.origin = .bundled) : t.executable = s.bundledPath := by
  cases h with
  | found reached =>
    obtain ⟨-, rfl⟩ | ⟨-, foreman⟩ := reached.linter
    · cases origin
    · rw [foreman] at origin
      cases origin
  | bundled reached seen there => rfl

/-- A whole search on files that do not change is a search. -/
theorem reaches_resolve (s : Session) (fs : FileSystem) :
    s.Reaches [fs] (.ofOutcome
      (Toolchain.resolve fs s.home s.config.executablePath s.roots).1) := by
  rw [Toolchain.resolve_found, ← Toolchain.Search.step_step]
  exact .look (.look .start (by simp)) (by simp)

/-- The linter that is found at once: what a whole search finds, or the bundled one. -/
theorem ensureToolchain_value {s : Session} (unknown : s.toolchain = none) (fs : FileSystem) :
    (s.ensureToolchain fs).value =
      (Toolchain.resolve fs s.home s.config.executablePath s.roots).1.bind fun found =>
        found.elim ((s.bundled fs).map Prod.fst) fun t => .ok (some t) := by
  unfold Session.ensureToolchain adopt
  simp only [unknown]
  rcases (Toolchain.resolve fs s.home s.config.executablePath s.roots).1 with e | _ | t
  · rfl
  · simp only [Except.bind, Option.elim_none]
    cases s.bundled fs <;> rfl
  · rfl

/-- A linter that is named is taken at once, whatever the files are. -/
theorem ensureToolchain_named {s : Session} (unknown : s.toolchain = none)
    (named : s.config.executablePath ≠ "") (fs : FileSystem) :
    s.ensureToolchain fs =
      ⟨{ s with toolchain := some ⟨s.config.executablePath, none, .explicit⟩ }, fs, [],
        .ok (some ⟨s.config.executablePath, none, .explicit⟩)⟩ := by
  simp [ensureToolchain, unknown, Toolchain.resolve, Toolchain.Search.start, named,
    Toolchain.Search.step, adopt, reports, Except.bind]

/-- A linter is found at once if a whole search finds it, or if it finds nothing and the linter
is the bundled one. -/
theorem ensureToolchain_eq_some_iff {s : Session} (unknown : s.toolchain = none) {fs : FileSystem}
    {t : Toolchain} :
    (s.ensureToolchain fs).value = .ok (some t) ↔
      (Toolchain.resolve fs s.home s.config.executablePath s.roots).1 = .ok (some t) ∨
        (Toolchain.resolve fs s.home s.config.executablePath s.roots).1 = .ok none ∧
          fs.isFile (.ofText s.bundledPath) = .ok true ∧ t = ⟨s.bundledPath, none, .bundled⟩ := by
  rw [ensureToolchain_value unknown]
  rcases (Toolchain.resolve fs s.home s.config.executablePath s.roots).1 with e | _ | found
  · simp [Except.bind]
  · simp only [Except.bind, Option.elim_none, Session.bundled]
    rcases fs.isFile (.ofText s.bundledPath) with e | _ | _ <;> simp [Except.map, eq_comm]
  · simp [Except.bind]

end Session
end LintBridge
