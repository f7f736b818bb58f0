import LintBridge.Proofs.Resolution
import LintBridge.Proofs.StateFile
import LintBridge.Proofs.Folders
/-!
A discovery that is written down. What a session has found through a manifest is the linter at its
usual place, to be run in the folder of the manifest, and the record of it is read back from that
folder (`Session.Recorded.load`).
-/
namespace LintBridge

namespace Toolchain

/-- The manifest of a folder is one more component, and no way back. -/
theorem child_manifest : ∃ name : List Char, name ≠ ['.', '.'] ∧
    ∀ root : FilePath, root.child manifestName = ⟨root.slashes, root.parts ++ [name]⟩ := by
  have name : FilePath.ofText manifestName = ⟨0, [manifestName.toList]⟩ := by decide +kernel
  refine ⟨manifestName.toList, by decide +kernel, fun root => ?_⟩
  generalize manifestName.toList = component at name
  simp [FilePath.child, FilePath.join, name, FilePath.isAbsolute]

/-- A manifest stands right in its folder, however the path of the folder is seen. -/
theorem parent_manifest {root : FilePath} (absolute : root.isAbsolute = true) (cwd : FilePath) :
    ((root.child manifestName).absolute cwd).parent = root := by
  obtain ⟨name, -, child⟩ := child_manifest
  have absolute' : (⟨root.slashes, root.parts ++ [name]⟩ : FilePath).isAbsolute = true := absolute
  simp [child, FilePath.absolute, FilePath.join, absolute', FilePath.parent]

/-- The manifest that is found stands in a folder. -/
theorem parent_of_findManifest {fs : FileSystem} {roots : List FilePath} {manifest : FilePath}
    (absolute : ∀ root ∈ roots, root.isAbsolute = true)
    (h : findManifest fs roots = .ok (some manifest)) :
    manifest.parent ∈ roots ∧ fs.isFile (manifest.parent.child manifestName) = .ok true := by
  induction roots with
  | nil => cases h
  | cons root rest ih =>
    obtain ⟨first, others⟩ := List.forall_mem_cons.mp absolute
    simp only [findManifest] at h
    split at h
    next => cases h
    next there =>
      cases h
      rw [parent_manifest first]
      exact ⟨List.mem_cons_self, there⟩
    next =>
      obtain ⟨mem, there⟩ := ih others h
      exact ⟨List.mem_cons_of_mem _ mem, there⟩

/-- The manifest that is found is that of the first folder if it has one. -/
theorem parent_of_findManifest_first {fs : FileSystem} {root : FilePath} {rest : List FilePath}
    {manifest : FilePath} (absolute : root.isAbsolute = true)
    (there : fs.isFile (root.child manifestName) = .ok true)
    (h : findManifest fs (root :: rest) = .ok (some manifest)) : manifest.parent = root := by
  simp only [findManifest, there] at h
  cases h
  exact parent_manifest absolute _

end Toolchain

namespace FileSystem

variable {fs : FileSystem}

/-- A path above one that the system begins to follow is followed as well. -/
theorem rejected?_above {root : FilePath} (absolute : root.isAbsolute = true)
    {names : List (List Char)} (taken : fs.rejected? ⟨root.slashes, root.parts ++ names⟩ = none) :
    fs.rejected? root = none := by
  have slashes : root.slashes ≠ 0 := by simpa [FilePath.isAbsolute] using absolute
  have shorter : octetCount root.text.toList ≤
      octetCount (⟨root.slashes, root.parts ++ names⟩ : FilePath).text.toList := by
    obtain ⟨rest, whole⟩ := Text.joinWith_prefix_append ['/'] root.parts names
    simp [FilePath.text, Path.assemble, slashes, ← whole]
  unfold rejected? at taken ⊢
  split at taken
  next => cases taken
  next clean =>
    split at taken
    next => cases taken
    next short =>
      simp only [List.any_append, Bool.or_eq_true, not_or] at clean
      rw [if_neg clean.1, if_neg fun long => short (Nat.le_trans long shorter)]

/-- A file stands in a directory. -/
theorem isDirectory_of_isFile {root : FilePath} (absolute : root.isAbsolute = true)
    {name : List Char}
    (there : fs.isFile ⟨root.slashes, root.parts ++ [name]⟩ = .ok true) :
    fs.isDirectory root = true := by
  have absolute' : (⟨root.slashes, root.parts ++ [name]⟩ : FilePath).isAbsolute = true := absolute
  obtain ⟨octets, executable, found⟩ := exists_lookup_of_isFile there
  obtain ⟨free, place, reached, -⟩ := lookup_eq_some_iff.mp found
  obtain ⟨taken, along⟩ := refused?_eq_none_iff.mp free
  rw [place?_absolute absolute', follow?_append] at reached
  obtain ⟨folder, followed, last⟩ := Option.bind_eq_some_iff.mp reached
  rw [← place?_absolute absolute] at followed
  have directory : fs.isDirectoryAt folder = true := by
    by_contra other
    simp [follow?, other] at last
  refine isDirectory_iff.mpr ⟨refused?_eq_none_iff.mpr ⟨rejected?_above absolute taken, ?_⟩,
    folder, followed, directory⟩
  intro start hs
  have way := along start (by simpa [start?, absolute, absolute'] using hs)
  rw [refusalAlong?_append, Option.or_eq_none_iff] at way
  exact way.1

end FileSystem

namespace Session

/-- A session finds its linter through a manifest and writes a record of it, either outside of
every cycle or at the last look of a cycle's search. -/
inductive Discovers (s : Session) (fs : FileSystem) (t : Toolchain) : Session → FileSystem → Prop
  | atOnce {path : String} (unknown : s.toolchain = none)
    (found : (s.ensureToolchain fs).value = .ok (some t)) (foreman : t.origin = .foreman)
    (written : .report ⟨none, .stateWritten path⟩ ∈ (s.ensureToolchain fs).effects) :
    Discovers s fs t (s.ensureToolchain fs).session (s.ensureToolchain fs).files
  | inCycle {c : Cycle} {search : Toolchain.Search} {canPublish : Bool} {path : String}
    (stage : c.stage = .searching search) (reached : s.Reaches [fs] search)
    (found : (search.step fs s.home).search = .settled (some t)) (foreman : t.origin = .foreman)
    (written : .report ⟨some ⟨c.uri, c.generation⟩, .stateWritten path⟩ ∈
      (s.resume fs canPublish c .looked).effects) :
    Discovers s fs t (s.resume fs canPublish c .looked).session
      (s.resume fs canPublish c .looked).files

/-- What a discovery that is written down amounts to: the linter is run in the folder of the
manifest that was found, and both are in the configuration and in the record. -/
structure Recorded (s : Session) (fs : FileSystem) (t : Toolchain) (after : Session)
    (fs' : FileSystem) (manifest : FilePath) : Prop where
  found : Toolchain.findManifest fs s.roots = .ok (some manifest)
  linter : t = ⟨(Toolchain.binaryPath s.home).text, some manifest.parent.text, .foreman⟩
  session : after = { s with
    config := { s.config with
      executablePath := t.executable, manifestDirectory := t.ruleDirectory }
    toolchain := some t }
  written : RuntimeState.write fs (RuntimeState.path (.ofText manifest.parent.text))
    ⟨t.executable, manifest.parent.text⟩ = .ok fs'

theorem mem_reports {cycle cycle' : Option Log.CycleContext} {events : List Log.Event}
    {event : Log.Event} :
    .report ⟨cycle, event⟩ ∈ reports cycle' events ↔ cycle = cycle' ∧ event ∈ events := by
  simp only [reports, List.mem_map, Effect.report.injEq, Log.Entry.mk.injEq]
  constructor
  · rintro ⟨e, he, rfl, rfl⟩
    exact ⟨rfl, he⟩
  · rintro ⟨rfl, he⟩
    exact ⟨event, he, rfl, rfl⟩

/-- A search writes nothing. -/
theorem written_notMem_step (fs : FileSystem) (home : FilePath) (search : Toolchain.Search)
    (path : String) : .stateWritten path ∉ (search.step fs home).events := by
  cases search with
  | settled t => simp [Toolchain.Search.step]
  | refused e => simp [Toolchain.Search.step]
  | manifests roots =>
    simp only [Toolchain.Search.step]
    split <;> simp
  | binary manifest =>
    simp only [Toolchain.Search.step]
    split <;> simp

theorem written_notMem_resolve (fs : FileSystem) (home : FilePath) (explicit : String)
    (roots : List FilePath) (path : String) :
    .stateWritten path ∉ (Toolchain.resolve fs home explicit roots).2 := by
  have start : .stateWritten path ∉ (Toolchain.Search.start explicit roots).events := by
    unfold Toolchain.Search.start
    split
    · simp
    · split <;> simp
  simp [Toolchain.resolve, start, written_notMem_step]

/-- Taking over a discovery reports a record only where it was written. -/
theorem adopt_written {s : Session} {fs : FileSystem} {executable directory path : String}
    {out : Session × FileSystem × List Log.Event × Option Toolchain}
    (taken : s.adopt fs (some ⟨executable, some directory, .foreman⟩) = .ok out)
    (h : .stateWritten path ∈ out.2.2.1) :
    out.1 = { s with
        config := { s.config with
          executablePath := executable, manifestDirectory := some directory }
        toolchain := some ⟨executable, some directory, .foreman⟩ } ∧
      RuntimeState.write fs (RuntimeState.path (.ofText directory)) ⟨executable, directory⟩ =
        .ok out.2.1 := by
  have session := s.remember_session fs executable directory
  simp only [adopt, Except.ok.injEq] at taken
  subst taken
  dsimp only at h ⊢
  refine ⟨by rw [session], ?_⟩
  revert h
  unfold remember
  dsimp only
  split
  · simp
  · split
    next written => exact fun _ => written
    next => simp

/-- What a search comes to as a discovery is the linter at its usual place, to be run in the
folder of a manifest. -/
theorem Reaches.recorded {s : Session} {fs : FileSystem} {t : Toolchain} {path : String}
    {out : Session × FileSystem × List Log.Event × Option Toolchain}
    (h : s.Reaches [fs] (.settled (some t))) (foreman : t.origin = .foreman)
    (taken : s.adopt fs (some t) = .ok out) (written : .stateWritten path ∈ out.2.2.1) :
    ∃ manifest, s.Recorded fs t out.1 out.2.1 manifest := by
  obtain ⟨-, hs⟩ | ⟨-, hs | ⟨e, hs⟩ | hs | ⟨manifest, ⟨fs', seen, found⟩, hs | ⟨-, hs⟩⟩⟩ := h.cases
  · cases hs
    cases foreman
  · cases hs
  · cases hs
  · cases hs
  · cases hs
  · cases hs
    obtain rfl := List.mem_singleton.mp seen
    obtain ⟨session, record⟩ := adopt_written taken written
    exact ⟨manifest, found, rfl, session, record⟩

/-- What a search has found is taken over. -/
theorem exists_adopt (s : Session) (fs : FileSystem) (t : Toolchain) :
    ∃ out, s.adopt fs (some t) = .ok out ∧ out.2.2.2 = some t :=
  ⟨_, rfl, rfl⟩

theorem Discovers.recorded {s after : Session} {fs fs' : FileSystem} {t : Toolchain}
    (h : s.Discovers fs t after fs') : ∃ manifest, s.Recorded fs t after fs' manifest := by
  cases h with
  | @atOnce path unknown found foreman written =>
    have reached := s.reaches_resolve fs
    have looked : (Toolchain.resolve fs s.home s.config.executablePath s.roots).1 =
        .ok (some t) := by
      obtain found | ⟨-, -, rfl⟩ := (ensureToolchain_eq_some_iff unknown).mp found
      · exact found
      · cases foreman
    obtain ⟨out, taken, -⟩ := s.exists_adopt fs t
    have turn : s.ensureToolchain fs = ⟨out.1, out.2.1,
        reports none ((Toolchain.resolve fs s.home s.config.executablePath s.roots).2 ++ out.2.2.1),
        .ok out.2.2.2⟩ := by
      simp only [ensureToolchain, unknown, looked, Except.bind, taken]
    rw [looked] at reached
    rw [turn] at written ⊢
    rcases List.mem_append.mp (mem_reports.mp written).2 with searched | written
    · exact absurd searched (written_notMem_resolve _ _ _ _ _)
    · exact reached.recorded foreman taken written
  | @inCycle c search canPublish path stage reached found foreman written =>
    have reached := reached.look (List.mem_singleton_self fs)
    rw [found] at reached
    have turn := resume_looked (s := s) stage fs canPublish
    have silent := written_notMem_step fs s.home search path
    generalize search.step fs s.home = step at found turn silent
    obtain ⟨events, _⟩ := step
    subst found
    obtain ⟨out, taken, kept⟩ := s.exists_adopt fs t
    rw [turn] at written ⊢
    simp only [afterSearch, Bool.false_eq_true, if_false, taken, enterBase, kept] at written ⊢
    rcases List.mem_append.mp written with before | pass
    · rcases List.mem_append.mp before with searched | written
      · exact absurd (mem_reports.mp searched).2 silent
      · exact reached.recorded foreman taken (mem_reports.mp written).2
    · simp [startPass, Invocation.announce] at pass

/-- The record of a discovery is found below the folder of the manifest. -/
theorem Recorded.load {s after : Session} {fs fs' : FileSystem} {t : Toolchain}
    {manifest : FilePath} (h : s.Recorded fs t after fs' manifest)
    (normal : ∀ root ∈ s.roots, root.Normal) (absolute : ∀ root ∈ s.roots, root.isAbsolute = true) :
    RuntimeState.load fs' (RuntimeState.path manifest.parent) =
      .ok (some ⟨t.executable, manifest.parent.text⟩, []) := by
  obtain ⟨mem, there⟩ := Toolchain.parent_of_findManifest absolute h.found
  have written := h.written
  rw [FilePath.ofText_text (normal _ mem) (absolute _ mem)] at written
  obtain ⟨name, -, child⟩ := Toolchain.child_manifest
  rw [child] at there
  exact RuntimeState.load_of_write (FileSystem.isDirectory_of_isFile (absolute _ mem) there) written

end Session

end LintBridge
