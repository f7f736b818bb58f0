import LintBridge.Proofs.Passes
import LintBridge.Proofs.Provision
import LintBridge.Proofs.Records
/-!
Which linter a session takes that does not know one yet: the configured one, or the one below the
home if a folder has a manifest, or the one that comes with the program, or none
(`Session.Chosen`). A look that the system refuses leaves it without an answer
(`Session.Refuses`). Only a linter that was found is kept, and only a discovery is written down
(`Session.chooses_by_fallback`).
-/
namespace LintBridge

namespace Toolchain

/-- The first folder in order whose look for a manifest at its top level does not come to nothing,
and what it comes to. -/
structure FirstSeen (fs : FileSystem) (roots : List FilePath) (root : FilePath)
    (seen : Except SystemError Bool) : Prop where
  here : fs.isFile (root.child manifestName) = seen
  first : ∃ before after, roots = before ++ root :: after ∧
    ∀ other ∈ before, fs.isFile (other.child manifestName) = .ok false

/-- A folder without a manifest is passed over. -/
theorem FirstSeen.skip {fs : FileSystem} {other root : FilePath} {roots : List FilePath}
    {seen : Except SystemError Bool} (without : fs.isFile (other.child manifestName) = .ok false)
    (stops : seen ≠ .ok false) : FirstSeen fs (other :: roots) root seen ↔
      FirstSeen fs roots root seen := by
  constructor
  · rintro ⟨here, before, after, split, first⟩
    cases before with
    | nil =>
      cases split
      exact absurd (here.symm.trans without) stops
    | cons _ before =>
      cases split
      exact ⟨here, before, after, rfl, (List.forall_mem_cons.mp first).2⟩
  · rintro ⟨here, before, after, rfl, first⟩
    exact ⟨here, other :: before, after, rfl, List.forall_mem_cons.mpr ⟨without, first⟩⟩

/-- Behind any other folder nothing is looked for. -/
theorem firstSeen_cons_iff {fs : FileSystem} {other root : FilePath} {roots : List FilePath}
    {seen : Except SystemError Bool} (stops : fs.isFile (other.child manifestName) ≠ .ok false) :
    FirstSeen fs (other :: roots) root seen ↔
      root = other ∧ fs.isFile (other.child manifestName) = seen := by
  constructor
  · rintro ⟨here, before, after, split, first⟩
    cases before with
    | nil =>
      cases split
      exact ⟨rfl, here⟩
    | cons _ before =>
      cases split
      exact absurd (first _ List.mem_cons_self) stops
  · rintro ⟨rfl, here⟩
    exact ⟨here, [], roots, rfl, by simp⟩

/-- The manifest that is found is the one of the first folder that has one. -/
theorem findManifest_eq_some_iff {fs : FileSystem} {roots : List FilePath} {manifest : FilePath} :
    findManifest fs roots = .ok (some manifest) ↔ ∃ root, FirstSeen fs roots root (.ok true) ∧
      manifest = (root.child manifestName).absolute fs.workingDirectory := by
  induction roots with
  | nil =>
    constructor
    · rintro ⟨⟩
    · rintro ⟨root, ⟨-, before, after, split, -⟩, -⟩
      simp at split
  | cons root roots ih =>
    rw [findManifest]
    rcases here : fs.isFile (root.child manifestName) with e | _ | _
    · simp [firstSeen_cons_iff, here]
    · simpa [FirstSeen.skip here] using ih
    · simp [firstSeen_cons_iff, here, eq_comm]

/-- Looking for a manifest ends with an error if it comes to one before it comes to a manifest. -/
theorem findManifest_eq_error_iff {fs : FileSystem} {roots : List FilePath} {e : SystemError} :
    findManifest fs roots = .error e ↔ ∃ root, FirstSeen fs roots root (.error e) := by
  induction roots with
  | nil =>
    constructor
    · rintro ⟨⟩
    · rintro ⟨root, -, before, after, split, -⟩
      simp at split
  | cons root roots ih =>
    rw [findManifest]
    rcases here : fs.isFile (root.child manifestName) with e' | _ | _
    · simp [firstSeen_cons_iff, here]
    · simpa [FirstSeen.skip here] using ih
    · simp [firstSeen_cons_iff, here]

theorem findManifest_eq_none_iff {fs : FileSystem} {roots : List FilePath} :
    findManifest fs roots = .ok none ↔
      ∀ root ∈ roots, fs.isFile (root.child manifestName) = .ok false := by
  induction roots with
  | nil => simp [findManifest]
  | cons root roots ih =>
    rw [findManifest, List.forall_mem_cons, ← ih]
    rcases fs.isFile (root.child manifestName) with e | _ | _ <;> simp

/-- The directory of the manifest of a folder is the folder itself. -/
theorem parent_child_manifest (root cwd : FilePath) :
    ((root.child manifestName).absolute cwd).parent = root.absolute cwd := by
  obtain ⟨name, -, child⟩ := child_manifest
  rw [child]
  unfold FilePath.absolute FilePath.join FilePath.isAbsolute FilePath.parent
  by_cases relative : root.slashes = 0
  · simp [relative, ← List.append_assoc]
  · simp [relative]

/-- No folder has a manifest, or there is no linter below the home. -/
def Undiscovered (fs : FileSystem) (home : FilePath) (roots : List FilePath) : Prop :=
  (∀ root ∈ roots, fs.isFile (root.child manifestName) = .ok false) ∨
    ∃ root, FirstSeen fs roots root (.ok true) ∧ fs.isFile (binaryPath home) = .ok false

section

variable {fs : FileSystem} {home : FilePath} {roots : List FilePath}

/-- A search where no linter is named looks for a manifest, and then below the home. -/
theorem resolve_unnamed : (resolve fs home "" roots).1 = (findManifest fs roots).bind fun found =>
    found.elim (.ok none) (Search.installed fs home) := by
  rw [resolve_found]
  cases roots <;> rfl

/-- Where no linter is named, a search finds the one below the home if a folder has a manifest. -/
theorem resolve_unnamed_eq_some_iff {t : Toolchain} : (resolve fs home "" roots).1 = .ok (some t) ↔
    ∃ root, FirstSeen fs roots root (.ok true) ∧ fs.isFile (binaryPath home) = .ok true ∧
      t = ⟨(binaryPath home).text, some (root.absolute fs.workingDirectory).text, .foreman⟩ := by
  rw [resolve_unnamed]
  constructor
  · intro found
    obtain ⟨_ | manifest, there, installed⟩ := bind_eq_ok.mp found
    · cases installed
    · obtain ⟨root, first, rfl⟩ := findManifest_eq_some_iff.mp there
      obtain ⟨seen, look, same⟩ := map_eq_ok_iff.mp installed
      cases seen with
      | false => cases same
      | true =>
        rw [parent_child_manifest] at same
        exact ⟨root, first, look, (Option.some.inj same).symm⟩
  · rintro ⟨root, first, there, rfl⟩
    rw [findManifest_eq_some_iff.mpr ⟨root, first, rfl⟩]
    simp [Except.bind, Search.installed, there, Except.map, parent_child_manifest]

theorem resolve_unnamed_eq_none_iff :
    (resolve fs home "" roots).1 = .ok none ↔ Undiscovered fs home roots := by
  rw [resolve_unnamed]
  constructor
  · intro nothing
    obtain ⟨_ | manifest, there, installed⟩ := bind_eq_ok.mp nothing
    · exact .inl (findManifest_eq_none_iff.mp there)
    · obtain ⟨root, first, -⟩ := findManifest_eq_some_iff.mp there
      obtain ⟨seen, look, same⟩ := map_eq_ok_iff.mp installed
      cases seen with
      | false => exact .inr ⟨root, first, look⟩
      | true => cases same
  · rintro (apart | ⟨root, first, missing⟩)
    · rw [findManifest_eq_none_iff.mpr apart]
      rfl
    · rw [findManifest_eq_some_iff.mpr ⟨root, first, rfl⟩]
      simp [Except.bind, Search.installed, missing, Except.map]

theorem resolve_unnamed_eq_error_iff {e : SystemError} :
    (resolve fs home "" roots).1 = .error e ↔ (∃ root, FirstSeen fs roots root (.error e)) ∨
      ∃ root, FirstSeen fs roots root (.ok true) ∧ fs.isFile (binaryPath home) = .error e := by
  rw [resolve_unnamed]
  constructor
  · intro fails
    obtain refused | ⟨found, there, installed⟩ := bind_eq_error.mp fails
    · exact .inl (findManifest_eq_error_iff.mp refused)
    · cases found with
      | none => cases installed
      | some manifest =>
        obtain ⟨root, first, -⟩ := findManifest_eq_some_iff.mp there
        exact .inr ⟨root, first, map_eq_error_iff.mp installed⟩
  · rintro (refused | ⟨root, first, look⟩)
    · rw [findManifest_eq_error_iff.mpr refused]
      rfl
    · rw [findManifest_eq_some_iff.mpr ⟨root, first, rfl⟩]
      simp [Except.bind, Search.installed, look, Except.map]

end

end Toolchain

namespace Session

open Toolchain (FirstSeen Undiscovered)

/-- The linter that a session takes, by the first of the places where there is one. -/
inductive Chosen (s : Session) (fs : FileSystem) : Option Toolchain → Prop where
  | configured (named : s.config.executablePath ≠ "") :
    Chosen s fs (some ⟨s.config.executablePath, none, .explicit⟩)
  | installed {root : FilePath} (unnamed : s.config.executablePath = "")
    (first : FirstSeen fs s.roots root (.ok true))
    (there : fs.isFile (Toolchain.binaryPath s.home) = .ok true) :
    Chosen s fs (some ⟨(Toolchain.binaryPath s.home).text,
      some (root.absolute fs.workingDirectory).text, .foreman⟩)
  | bundled (unnamed : s.config.executablePath = "")
    (apart : Undiscovered fs s.home s.roots)
    (there : fs.isFile (.ofText s.bundledPath) = .ok true) :
    Chosen s fs (some ⟨s.bundledPath, none, .bundled⟩)
  | nothing (unnamed : s.config.executablePath = "")
    (apart : Undiscovered fs s.home s.roots)
    (missing : fs.isFile (.ofText s.bundledPath) = .ok false) : Chosen s fs none

/-- The system refuses the first look that would tell: at a folder, for a linter below the home, or
for the one that comes with the program. -/
inductive Refuses (s : Session) (fs : FileSystem) (e : SystemError) : Prop where
  | manifest {root : FilePath} (unnamed : s.config.executablePath = "")
    (first : FirstSeen fs s.roots root (.error e)) : Refuses s fs e
  | binary {root : FilePath} (unnamed : s.config.executablePath = "")
    (first : FirstSeen fs s.roots root (.ok true))
    (look : fs.isFile (Toolchain.binaryPath s.home) = .error e) : Refuses s fs e
  | bundled (unnamed : s.config.executablePath = "") (apart : Undiscovered fs s.home s.roots)
    (look : fs.isFile (.ofText s.bundledPath) = .error e) : Refuses s fs e

/-- A session that does not know its linter takes the one that is chosen. -/
theorem value_ensureToolchain_iff {s : Session} (unknown : s.toolchain = none) (fs : FileSystem)
    (found : Option Toolchain) : (s.ensureToolchain fs).value = .ok found ↔ s.Chosen fs found := by
  rw [ensureToolchain_value unknown]
  constructor
  · intro value
    obtain ⟨sought, search, taken⟩ := bind_eq_ok.mp value
    by_cases named : s.config.executablePath = ""
    · rw [named] at search
      cases sought with
      | some t =>
        cases taken
        obtain ⟨root, first, there, rfl⟩ := Toolchain.resolve_unnamed_eq_some_iff.mp search
        exact .installed named first there
      | none =>
        have apart := Toolchain.resolve_unnamed_eq_none_iff.mp search
        rcases look : fs.isFile (.ofText s.bundledPath) with e | _ | _
        · simp [Session.bundled, look, Except.map] at taken
        · obtain rfl : found = none := by simpa [Session.bundled, look, Except.map] using taken.symm
          exact .nothing named apart look
        · obtain rfl : found = some _ := by
            simpa [Session.bundled, look, Except.map] using taken.symm
          exact .bundled named apart look
    · rw [resolve_named named] at search
      cases search
      cases taken
      exact .configured named
  · intro chosen
    cases chosen with
    | configured named =>
      rw [resolve_named named]
      rfl
    | @installed root unnamed first there =>
      rw [unnamed, Toolchain.resolve_unnamed_eq_some_iff.mpr ⟨root, first, there, rfl⟩]
      rfl
    | bundled unnamed apart there =>
      rw [unnamed, Toolchain.resolve_unnamed_eq_none_iff.mpr apart]
      simp [Session.bundled, there, Except.bind, Except.map]
    | nothing unnamed apart missing =>
      rw [unnamed, Toolchain.resolve_unnamed_eq_none_iff.mpr apart]
      simp [Session.bundled, missing, Except.bind, Except.map]

/-- A session that does not know its linter comes to an error with a look that is refused, and only
then. -/
theorem value_ensureToolchain_error_iff {s : Session} (unknown : s.toolchain = none)
    (fs : FileSystem) (e : SystemError) :
    (s.ensureToolchain fs).value = .error e ↔ s.Refuses fs e := by
  rw [ensureToolchain_value unknown]
  constructor
  · intro fails
    by_cases named : s.config.executablePath = ""
    · rw [named] at fails
      obtain search | ⟨sought, search, taken⟩ := bind_eq_error.mp fails
      · obtain ⟨root, first⟩ | ⟨root, first, look⟩ :=
          Toolchain.resolve_unnamed_eq_error_iff.mp search
        · exact .manifest named first
        · exact .binary named first look
      · cases sought with
        | some t => cases taken
        | none =>
          have look := map_eq_error_iff.mp (map_eq_error_iff.mp taken)
          exact .bundled named (Toolchain.resolve_unnamed_eq_none_iff.mp search) look
    · rw [resolve_named named] at fails
      cases fails
  · intro refuses
    cases refuses with
    | @manifest root unnamed first =>
      rw [unnamed, Toolchain.resolve_unnamed_eq_error_iff.mpr (.inl ⟨root, first⟩)]
      rfl
    | @binary root unnamed first look =>
      rw [unnamed, Toolchain.resolve_unnamed_eq_error_iff.mpr (.inr ⟨root, first, look⟩)]
      rfl
    | bundled unnamed apart look =>
      rw [unnamed, Toolchain.resolve_unnamed_eq_none_iff.mpr apart]
      simp [Session.bundled, look, Except.bind, Except.map]

/-- A session after it has taken a linter, or none. The configuration keeps a discovery as well. -/
def taking (s : Session) : Option Toolchain → Session
  | some ⟨executable, some directory, .foreman⟩ => s.discovering executable directory
  | found => { s with toolchain := found }

theorem taking_none {s : Session} (unknown : s.toolchain = none) : s.taking none = s := by
  have nothing : s.taking none = { s with toolchain := none } := rfl
  rw [nothing, ← unknown]

/-- What taking a linter leaves behind. -/
structure ByFallback (s : Session) (fs : FileSystem)
    (turn : Turn (Except SystemError (Option Toolchain))) : Prop where
  linter : ∀ found, turn.value = .ok found ↔ s.Chosen fs found
  /-- There is an answer exactly if no look is refused. -/
  answers : (∃ found, turn.value = .ok found) ↔ ∀ e, ¬ s.Refuses fs e
  refused : ∀ e, turn.value = .error e ↔ s.Refuses fs e
  /-- A linter that is named is taken without a look at the files. -/
  unseen : s.config.executablePath ≠ "" → ∀ fs', s.ensureToolchain fs' = { turn with files := fs' }
  session : ∀ found, turn.value = .ok found → turn.session = s.taking found
  /-- Where nothing was found, the next call chooses anew, from the files of that time. -/
  again : (∀ t, turn.value ≠ .ok (some t)) → turn.session = s ∧
    ∀ fs' found, (turn.session.ensureToolchain fs').value = .ok found ↔ s.Chosen fs' found
  /-- A discovery is written down in its folder, if the session persists and that works. -/
  recorded : ∀ executable directory,
    turn.value = .ok (some ⟨executable, some directory, .foreman⟩) →
    s.persists = true → turn.files = ((RuntimeState.write fs
      (RuntimeState.path (.ofText directory)) ⟨executable, directory⟩).toOption.getD fs)
  /-- Without such a discovery nothing is written. -/
  unwritten : s.persists = false ∨ (∀ t, turn.value = .ok (some t) → t.origin ≠ .foreman) →
    turn.files = fs

/-- A discovery is written down by a session that persists, as far as that works. -/
theorem remember_written (s : Session) (fs : FileSystem) (executable directory : String) :
    (s.remember fs executable directory).2.1 = if s.persists then
      (RuntimeState.write fs (RuntimeState.path (.ofText directory))
        ⟨executable, directory⟩).toOption.getD fs
    else fs := by
  unfold remember
  cases s.persists with
  | false => rfl
  | true =>
    simp only [Bool.not_true, Bool.false_eq_true, ↓reduceIte]
    split
    next written => simp [written, Except.toOption]
    next failed => simp [failed, Except.toOption]

/-- What finding the linter at once does to the session and to the files. -/
theorem Provided.leaves {s : Session} {fs : FileSystem}
    {turn : Turn (Except SystemError (Option Toolchain))} (h : Provided s fs turn)
    (unknown : s.toolchain = none) :
    turn.session = s.taking (turn.value.toOption.getD none) ∧
      turn.files = match turn.value with
        | .ok (some ⟨executable, some directory, .foreman⟩) =>
          (s.remember fs executable directory).2.1
        | _ => fs := by
  cases h with
  | known there =>
    rw [unknown] at there
    cases there
  | nothing _ quiet sought missing => exact ⟨(taking_none unknown).symm, rfl⟩
  | refused _ quiet look => exact ⟨(taking_none unknown).symm, rfl⟩
  | named _ quiet named => exact ⟨rfl, rfl⟩
  | bundled _ quiet unnamed sought there => exact ⟨rfl, rfl⟩
  | discovered _ quiet unnamed filled sought => exact ⟨rfl, rfl⟩

/-- A session that does not know its linter takes the configured one, or the one below the home if
a folder has a manifest, or the one that comes with the program, or none. It gives no answer, and
stays as it is, exactly if the system refuses one of the looks that it takes for that. -/
theorem chooses_by_fallback {s : Session} (unknown : s.toolchain = none) (fs : FileSystem) :
    s.ByFallback fs (s.ensureToolchain fs) := by
  obtain ⟨session, files⟩ := (s.provided fs).leaves unknown
  refine ⟨value_ensureToolchain_iff unknown fs, ?_, value_ensureToolchain_error_iff unknown fs,
    ?_, ?_, ?_, ?_, ?_⟩
  · simp only [← value_ensureToolchain_error_iff unknown]
    cases (s.ensureToolchain fs).value <;> simp
  · intro named fs'
    rw [ensureToolchain_named unknown named, ensureToolchain_named unknown named]
  · intro found value
    rw [session, value]
    rfl
  · intro nothing
    have same : (s.ensureToolchain fs).session = s := by
      rw [session]
      rcases value : (s.ensureToolchain fs).value with e | _ | t
      · exact taking_none unknown
      · exact taking_none unknown
      · exact absurd value (nothing t)
    exact ⟨same, fun fs' found => by rw [same, value_ensureToolchain_iff unknown]⟩
  · intro executable directory found persists
    rw [files, found]
    simp [remember_written, persists]
  · intro off
    rw [files]
    split
    next executable directory found =>
      rw [remember_written]
      obtain off | other := off
      · simp [off]
      · exact absurd rfl (other _ found)
    next => rfl

/-- A folder before that of the manifest is passed over, and a file stands where the record is to
be written: the discovery is kept all the same. -/
theorem chooses_without_record :
    let bare : FileSystem := .empty
    let files := ((bare.addFile (.ofText "/w/foreman.toml") [] false).addFile
      (.ofText "/w/.lutels") [] false).addFile (.ofText "/h/.foreman/bin/lute") [] true
    let s := Session.fresh ⟨"", "", none, none, ["luau"], none⟩ [⟨1, [['v']]⟩, ⟨0, [['w']]⟩] true
      ⟨1, [['h']]⟩ "/lute"
    let found : Toolchain := ⟨"/h/.foreman/bin/lute", some "/w", .foreman⟩
    s.toolchain = none ∧ s.ByFallback files (s.ensureToolchain files) ∧
      (s.ensureToolchain files).value = .ok (some found) ∧
      (s.ensureToolchain files).session = s.discovering found.executable "/w" ∧
      (s.ensureToolchain files).files = files := by
  intro bare files s found
  have unknown : s.toolchain = none := rfl
  have fallback := chooses_by_fallback unknown files
  have value : (s.ensureToolchain files).value = .ok (some found) :=
    toOption_eq_some_iff.mp (by decide +kernel)
  have session := fallback.session _ value
  have recorded := fallback.recorded _ _ value rfl
  have refused : (RuntimeState.write files (RuntimeState.path (.ofText "/w"))
      ⟨found.executable, "/w"⟩).toOption.isNone = true := by decide +kernel
  rw [Option.isNone_iff_eq_none.mp refused] at recorded
  exact ⟨unknown, fallback, value, session, recorded⟩

/-- The path of a name below the root. -/
theorem text_below_root (name : List Char) :
    FilePath.text ⟨1, [name]⟩ = String.ofList ('/' :: name) := by
  simp [FilePath.text, Path.assemble, Text.joinWith]

/-- The system refuses to look for a name that no directory can hold. -/
theorem isFile_of_longName {name : List Char} (long : longestName < octetCount name)
    (short : octetCount name < 4095) (noNul : '\x00' ∉ name) :
    FileSystem.empty.isFile ⟨1, [name]⟩ =
      .error ⟨36, "File name too long", some (String.ofList ('/' :: name))⟩ := by
  have accepted : FileSystem.empty.rejected? ⟨1, [name]⟩ = none := by
    have octets : octetCount ('/' :: name) = 1 + octetCount name := rfl
    have fits : ¬ FileSystem.empty.pathLimit ≤ octetCount ('/' :: name) := by
      change ¬ 4096 ≤ _
      omega
    simp [FileSystem.rejected?, noNul, text_below_root, fits]
  have refusal : FileSystem.empty.refusal [] name = some .nameTooLong := if_pos long
  have refused : FileSystem.empty.refused? ⟨1, [name]⟩ =
      some (Refusal.nameTooLong.toError ⟨1, [name]⟩) := by
    simp [FileSystem.refused?, accepted, FileSystem.start?, FilePath.isAbsolute,
      FileSystem.refusalAlong?, FileSystem.isDirectoryAt, FileSystem.at?, refusal]
  have told : (Refusal.nameTooLong.toError ⟨1, [name]⟩).meansAbsence = false := rfl
  simp only [FileSystem.isFile, FileSystem.look, refused, told]
  rw [Refusal.toError, text_below_root]
  rfl

/-- With the bundled linter configured under a name that is too long for the system, there is no
answer, though nothing else could be taken. -/
theorem long_bundled_name_unanswered :
    let path := String.ofList ('/' :: List.replicate 300 'a')
    let s := Session.fresh ⟨"", "", none, some path, ["luau"], none⟩ [] false ⟨1, [['h']]⟩ "/lute"
    s.toolchain = none ∧ Undiscovered .empty s.home s.roots ∧
      FileSystem.empty.isFile (.ofText s.bundledPath) ≠ .ok true ∧
      (s.ensureToolchain .empty).value = .error ⟨36, "File name too long", some path⟩ := by
  have few : octetCount (List.replicate 300 'a') = 300 := by decide +kernel
  have clean : ∀ c ∈ List.replicate 300 'a', c = 'a' := fun c => List.eq_of_mem_replicate
  -- Of the name only its length and its characters matter.
  generalize List.replicate 300 'a' = name at few clean ⊢
  intro path s
  have named : FilePath.ofText s.bundledPath = ⟨1, [name]⟩ := by
    have bundled : s.bundledPath = String.ofList ('/' :: name) := by
      have filled : path.isEmpty = false := by simp [path]
      exact if_neg (by simp [filled])
    rw [bundled, ← text_below_root]
    refine FilePath.ofText_text ⟨by simp, List.forall_mem_singleton.mpr ⟨?_, ?_, ?_⟩⟩ rfl
    · rintro rfl
      cases few
    · rintro rfl
      cases few
    · exact fun mem => absurd (clean _ mem) (by decide)
  have look : FileSystem.empty.isFile (.ofText s.bundledPath) =
      .error ⟨36, "File name too long", some path⟩ := by
    rw [named]
    refine isFile_of_longName ?_ ?_ fun mem => absurd (clean _ mem) (by decide)
    · rw [few]
      decide
    · rw [few]
      decide
  have apart : Undiscovered .empty s.home s.roots := .inl (by simp [s, Session.fresh])
  refine ⟨rfl, apart, by simp [look], ?_⟩
  exact (value_ensureToolchain_error_iff rfl _ _).mpr (.bundled rfl apart look)

end Session
end LintBridge
