import LintBridge.Proofs.StateFile
/-!
Records that are written one after the other to the same file. Whatever the file held before, the
record that was written last is the one that is read (`RuntimeState.load_of_writes`).
-/
namespace LintBridge

namespace FileSystem

variable {fs fs' : FileSystem} {place : Place}

/-- No file stands above a place. -/
def Clear (fs : FileSystem) (place : Place) : Prop :=
  ∀ k < place.length, ∀ octets executable,
    fs.at? (place.take k) ≠ some (.file octets executable)

/-- All directories above a place are there. -/
def Reached (fs : FileSystem) (place : Place) : Prop :=
  ∀ k < place.length, fs.isDirectoryAt (place.take k) = true

/-- Whatever stands somewhere stands in a directory. -/
def Rooted (fs : FileSystem) : Prop :=
  ∀ place entry, fs.at? place = some entry → fs.Reached place

theorem isBlocked_eq_false_iff : fs.isBlocked place = false ↔ fs.Clear place := by
  unfold isBlocked Clear
  rw [List.any_eq_false]
  refine ⟨fun each k hk octets executable stands => ?_, fun clear k hk stands => ?_⟩
  · exact each k (List.mem_range.mpr hk) (by rw [stands])
  · split at stands
    next octets executable there => exact clear k (List.mem_range.mp hk) octets executable there
    next => cases stands

theorem Reached.clear (h : fs.Reached place) : fs.Clear place := by
  intro k hk octets executable stands
  have there := h k hk
  rw [isDirectoryAt, stands] at there
  simp at there

theorem Reached.mono (h : fs.Reached place)
    (kept : ∀ place, fs.isDirectoryAt place = true → fs'.isDirectoryAt place = true) :
    fs'.Reached place :=
  fun k hk => kept _ (h k hk)

theorem Reached.take (h : fs.Reached place) (k : Nat) : fs.Reached (place.take k) := by
  intro j hj
  rw [List.length_take, Nat.lt_min] at hj
  rw [List.take_take, Nat.min_eq_left (Nat.le_of_lt hj.1)]
  exact h j hj.2

theorem forall_lt_append_singleton {p : Place → Prop} {name : List Char} :
    (∀ k < (place ++ [name]).length, p ((place ++ [name]).take k)) ↔
      (∀ k < place.length, p (place.take k)) ∧ p place := by
  rw [List.length_append, List.length_singleton]
  constructor
  · intro each
    refine ⟨fun k hk => ?_, ?_⟩
    · simpa [List.take_append_of_le_length (Nat.le_of_lt hk)] using each k (by omega)
    · simpa using each place.length (by omega)
  · rintro ⟨above, last⟩ k hk
    rcases Nat.lt_succ_iff_lt_or_eq.mp hk with before | rfl
    · simpa [List.take_append_of_le_length (Nat.le_of_lt before)] using above k before
    · simpa using last

theorem clear_append_singleton {name : List Char} : fs.Clear (place ++ [name]) ↔
    fs.Clear place ∧ ∀ octets executable, fs.at? place ≠ some (.file octets executable) :=
  forall_lt_append_singleton (p := fun place =>
    ∀ octets executable, fs.at? place ≠ some (.file octets executable))

theorem reached_append_singleton {name : List Char} :
    fs.Reached (place ++ [name]) ↔ fs.Reached place ∧ fs.isDirectoryAt place = true :=
  forall_lt_append_singleton (p := fun place => fs.isDirectoryAt place = true)

theorem get?_fold_above {es : Assoc Place FileEntry} {places : List Place} (h : place ≠ []) :
    (places.foldl (fun es p => if p = [] || (es.get? p).isSome then es else es.put p .directory)
      es).get? place =
      if place ∈ places ∧ es.get? place = none then some .directory else es.get? place := by
  induction places generalizing es with
  | nil => simp
  | cons p places ih =>
    rw [List.foldl_cons, ih]
    by_cases same : p = place
    · subst same
      cases he : es.get? p <;> simp [h, he]
    · have unchanged : (if p = [] || (es.get? p).isSome then es
          else es.put p .directory).get? place = es.get? place := by
        split
        · rfl
        · rw [Assoc.get?_put, if_neg same]
      rw [unchanged]
      simp [Ne.symm same]

/-- Directories come to stand above a place where nothing stood, and nothing else changes. -/
theorem at?_putAt {other : Place} (h : place ≠ []) :
    (fs.putAt place .directory).at? other =
      if other = place then some .directory
      else if (∃ k < place.length, place.take k = other) ∧ fs.at? other = none then some .directory
      else fs.at? other := by
  unfold putAt at?
  by_cases top : other = []
  · subst top
    simp [Ne.symm h]
  · rw [if_neg top, if_neg top, Assoc.get?_put, get?_fold_above top]
    simp only [List.mem_map, List.mem_range, eq_comm]

theorem reached_putAt (h : place ≠ []) (clear : fs.Clear place) :
    (fs.putAt place .directory).Reached place := by
  intro k hk
  have above : place.take k ≠ place := fun same => by
    have := congrArg List.length same
    rw [List.length_take] at this
    omega
  rw [isDirectoryAt, at?_putAt h, if_neg above]
  cases stands : fs.at? (place.take k) with
  | none => rw [if_pos ⟨⟨k, hk, rfl⟩, rfl⟩, decide_eq_true_eq]
  | some entry =>
    cases entry with
    | directory => simp
    | file octets executable => exact absurd stands (clear k hk octets executable)

theorem rooted_putAt (rooted : fs.Rooted) (h : place ≠ []) (clear : fs.Clear place)
    (kept : ∀ p, fs.isDirectoryAt p = true → (fs.putAt place .directory).isDirectoryAt p = true) :
    (fs.putAt place .directory).Rooted := by
  have way := reached_putAt h clear
  intro other entry stands
  rw [at?_putAt h] at stands
  split at stands
  next same => exact same ▸ way
  next =>
    split at stands
    next fresh =>
      obtain ⟨⟨k, -, rfl⟩, -⟩ := fresh
      exact way.take k
    next => exact (rooted _ _ stands).mono kept

/-- What making a directory does. -/
structure Makes (fs : FileSystem) (place : Place) (fs' : FileSystem) : Prop where
  there : fs'.isDirectoryAt place = true
  grown : fs.Extends fs'
  rooted : fs'.Rooted
  below : ∀ name, fs'.at? (place ++ [name]) = fs.at? (place ++ [name])

theorem makeDirectories_eq_ok {p : FilePath} (rooted : fs.Rooted)
    (h : fs.makeDirectories p = .ok fs') :
    fs.Makes (p.resolved fs.workingDirectory).parts fs' := by
  obtain ⟨there, grown⟩ := isDirectoryAt_of_makeDirectories h
  unfold makeDirectories at h
  dsimp only at h
  generalize (p.resolved fs.workingDirectory).parts = place at h there ⊢
  split at h
  · cases h
  · split at h
    · cases h
    next free =>
      split at h
      · cases h
        exact ⟨there, grown, rooted, fun _ => rfl⟩
      · cases h
      next absent =>
        cases h
        have top : place ≠ [] := fun top => by simp [top, at?] at absent
        have clear : fs.Clear place := isBlocked_eq_false_iff.mp (by simpa using free)
        refine ⟨there, grown, rooted_putAt rooted top clear grown.kept, fun name => ?_⟩
        rw [at?_putAt top, if_neg (by simp), if_neg]
        rintro ⟨⟨k, hk, same⟩, -⟩
        have := congrArg List.length same
        rw [List.length_take, List.length_append, List.length_singleton] at this
        omega

theorem exists_makeDirectories_iff {p : FilePath} :
    (∃ fs', fs.makeDirectories p = .ok fs') ↔ fs.forbidden? p = none ∧
      fs.Clear (p.resolved fs.workingDirectory).parts ∧ ∀ octets executable,
        fs.at? (p.resolved fs.workingDirectory).parts ≠ some (.file octets executable) := by
  unfold makeDirectories
  dsimp only
  generalize (p.resolved fs.workingDirectory).parts = place
  rw [← isBlocked_eq_false_iff]
  cases fs.forbidden? p with
  | some e => simp
  | none =>
    cases fs.isBlocked place with
    | true => simp
    | false =>
      cases fs.at? place with
      | none => simp
      | some entry => cases entry <;> simp

theorem write_of_reached {p : FilePath} (octets : List UInt8) (allowed : fs.forbidden? p = none)
    (way : fs.Reached (p.resolved fs.workingDirectory).parts)
    (free : fs.at? (p.resolved fs.workingDirectory).parts ≠ some .directory) :
    ∃ executable, fs.write p octets = .ok { fs with
      entries := fs.entries.put (p.resolved fs.workingDirectory).parts
        (.file octets executable) } := by
  unfold write
  dsimp only
  rw [allowed]
  generalize (p.resolved fs.workingDirectory).parts = place at way free ⊢
  dsimp only
  split
  next there => exact absurd there free
  next executable there => exact ⟨executable, rfl⟩
  next absent =>
    have top : place.length ≠ 0 := fun top => by
      rw [List.length_eq_zero_iff.mp top] at absent
      cases absent
    have parent : fs.isDirectoryAt place.dropLast = true := by
      rw [List.dropLast_eq_take]
      exact way _ (Nat.sub_one_lt top)
    rw [if_neg (by simp [isBlocked_eq_false_iff.mpr way.clear]), if_neg (by simp [parent])]
    exact ⟨false, rfl⟩

/-- No file is written where a directory stands. -/
theorem not_directory_of_write {p : FilePath} {octets : List UInt8}
    (h : fs.write p octets = .ok fs') :
    fs.at? (p.resolved fs.workingDirectory).parts ≠ some .directory := by
  intro there
  unfold write at h
  dsimp only at h
  split at h
  · cases h
  · rw [there] at h
    cases h

theorem rooted_put (rooted : fs.Rooted) (way : fs.Reached place) {entry : FileEntry}
    (kept : ∀ p, fs.isDirectoryAt p = true →
      ({ fs with entries := fs.entries.put place entry } : FileSystem).isDirectoryAt p = true) :
    ({ fs with entries := fs.entries.put place entry } : FileSystem).Rooted := by
  intro other found stands
  by_cases same : place = other
  · exact same ▸ way.mono kept
  · have stood : fs.at? other = some found := by
      unfold at? at stands ⊢
      simpa [Assoc.get?_put, same] using stands
    exact (rooted _ _ stood).mono kept

theorem rooted_of_entries (each : ∀ e ∈ fs.entries, fs.Reached e.1) : fs.Rooted := by
  intro place entry stands
  unfold at? at stands
  split at stands
  next top =>
    subst top
    exact fun k hk => absurd hk (Nat.not_lt_zero k)
  next =>
    have listed : ∀ es : Assoc Place FileEntry, es.get? place = some entry →
        (place, entry) ∈ es := by
      intro es
      induction es with
      | nil => simp
      | cons e es ih =>
        rw [Assoc.get?]
        split
        next same =>
          rintro ⟨⟩
          exact same ▸ List.mem_cons_self
        next => exact fun found => List.mem_cons_of_mem _ (ih found)
    exact each _ (listed _ stands)

/-- A file can be put at a path: the system refuses neither the way to it nor the way to its
folder, no file stands above its place, and no directory at it. -/
structure Admits (fs : FileSystem) (p : FilePath) : Prop where
  allowed : fs.forbidden? p = none
  folder : fs.forbidden? p.parent = none
  clear : fs.Clear (p.resolved fs.workingDirectory).parts
  free : fs.at? (p.resolved fs.workingDirectory).parts ≠ some .directory

end FileSystem

/-- A path that leads down from another one. -/
def FilePath.below (root : FilePath) (names : List (List Char)) : FilePath :=
  ⟨root.slashes, root.parts ++ names⟩

namespace RuntimeState

variable {fs fs' : FileSystem} {root : FilePath} {folders : List (List Char)} {name : List Char}

/-- A file system in which a record can be kept at a path below a directory. -/
structure Keeps (fs : FileSystem) (root p : FilePath) : Prop where
  rooted : fs.Rooted
  there : fs.isDirectory root = true
  admits : fs.Admits p

/-- The places of the directory and of the file. -/
theorem write_parts (there : fs.isDirectory root = true)
    (down : ['.', '.'] ∉ folders ++ [name]) : ∃ place,
      fs.place? root = some place ∧ fs.isDirectoryAt place = true ∧
      ((root.below (folders ++ [name])).parent.resolved fs.workingDirectory).parts =
        place ++ folders ∧
      ((root.below (folders ++ [name])).resolved fs.workingDirectory).parts =
        place ++ folders ++ [name] := by
  obtain ⟨-, place, found, directory⟩ := FileSystem.isDirectory_iff.mp there
  have parent : (root.below (folders ++ [name])).parent = root.below folders := by
    simp [FilePath.parent, FilePath.below, ← List.append_assoc]
  have short : ['.', '.'] ∉ folders := fun mem => down (List.mem_append_left _ mem)
  refine ⟨place, found, directory, ?_, ?_⟩
  · rw [parent]
    exact FileSystem.resolved_below found short
  · rw [List.append_assoc]
    exact FileSystem.resolved_below found down

theorem admits_of_write {s : RuntimeState} (rooted : fs.Rooted)
    (there : fs.isDirectory root = true) (down : ['.', '.'] ∉ folders ++ [name])
    (h : write fs (root.below (folders ++ [name])) s = .ok fs') :
    fs.Admits (root.below (folders ++ [name])) := by
  obtain ⟨place, -, -, parent, own⟩ := write_parts there down
  obtain ⟨fs₁, made, written⟩ := bind_eq_ok.mp h
  obtain ⟨folder, clear, free⟩ := FileSystem.exists_makeDirectories_iff.mp ⟨fs₁, made⟩
  obtain ⟨-, -, allowed⟩ := FileSystem.write_eq_ok written
  have makes := FileSystem.makeDirectories_eq_ok rooted made
  rw [makes.grown.forbidden?] at allowed
  rw [parent] at clear free makes
  refine ⟨allowed, folder, ?_, fun directory => ?_⟩
  · rw [own]
    exact FileSystem.clear_append_singleton.mpr ⟨clear, free⟩
  · rw [own, ← makes.below] at directory
    rw [← makes.grown.workingDirectory] at own
    exact FileSystem.not_directory_of_write written (own ▸ directory)

/-- Where a record can be kept, it can be written, is held, and can be written once more. -/
theorem write_of_keeps (s : RuntimeState) (down : ['.', '.'] ∉ folders ++ [name])
    (h : Keeps fs root (root.below (folders ++ [name]))) : ∃ fs' executable,
      write fs (root.below (folders ++ [name])) s = .ok fs' ∧
      Keeps fs' root (root.below (folders ++ [name])) ∧
      fs'.lookup (root.below (folders ++ [name])) =
        some (.file (Text.Utf8.encode s.toText) executable) := by
  obtain ⟨rooted, there, allowed, folder, clear, free⟩ := h
  obtain ⟨place, found, directory, parent, own⟩ := write_parts there down
  rw [own] at clear free
  rw [FileSystem.clear_append_singleton, ← parent] at clear
  -- The directory is made, and the way down to the file is open.
  obtain ⟨fs₁, made⟩ := FileSystem.exists_makeDirectories_iff.mpr ⟨folder, clear⟩
  obtain ⟨inner, first, rooted₁, below⟩ := FileSystem.makeDirectories_eq_ok rooted made
  rw [parent] at inner below
  have listed : fs₁.at? (place ++ folders) = some .directory := by
    simpa [FileSystem.isDirectoryAt] using inner
  have way : fs₁.Reached (place ++ folders ++ [name]) :=
    FileSystem.reached_append_singleton.mpr ⟨rooted₁ _ _ listed, inner⟩
  rw [← below, ← own, ← first.workingDirectory] at free
  rw [← own, ← first.workingDirectory] at way
  -- The file is written, and can be found where it was put.
  obtain ⟨executable, written⟩ := FileSystem.write_of_reached (Text.Utf8.encode s.toText)
    ((first.forbidden? _).trans allowed) way free
  have rooted₂ := FileSystem.rooted_put rooted₁ way (FileSystem.write_eq_ok written).2.1.kept
  generalize ({ fs₁ with entries := fs₁.entries.put _ _ } : FileSystem) = fs₂ at written rooted₂
  obtain ⟨⟨executable', holds⟩, second, -⟩ := FileSystem.write_eq_ok written
  have both := first.trans second
  have way' := way.mono second.kept
  rw [first.workingDirectory, own] at holds way'
  have allowed' := (both.forbidden? _).trans allowed
  refine ⟨fs₂, executable', bind_eq_ok.mpr ⟨fs₁, made, written⟩,
    ⟨rooted₂, FileSystem.isDirectory_mono both there, ?_⟩, ?_⟩
  · refine ⟨allowed', (both.forbidden? _).trans folder, ?_, ?_⟩
    · rw [both.workingDirectory, own]
      exact way'.clear
    · rw [both.workingDirectory, own, holds]
      simp
  · rw [List.append_assoc] at holds way'
    rw [← holds]
    have free' := FileSystem.refused?_mono both found (FileSystem.isDirectory_iff.mp there).1
    refine FileSystem.lookup_below (FileSystem.place?_mono both found) free' down allowed'
      fun k hk => ?_
    have step := way' (place.length + k) (by rw [List.length_append]; omega)
    rwa [List.take_length_add_append] at step

/-- Records written one after the other are all written, and the last one is held. -/
theorem writes_of_keeps (earlier : List RuntimeState) (s : RuntimeState)
    (down : ['.', '.'] ∉ folders ++ [name])
    (h : Keeps fs root (root.below (folders ++ [name]))) : ∃ fs' executable,
      (earlier ++ [s]).foldlM (fun fs s => write fs (root.below (folders ++ [name])) s) fs =
        .ok fs' ∧
      fs'.lookup (root.below (folders ++ [name])) =
        some (.file (Text.Utf8.encode s.toText) executable) := by
  induction earlier generalizing fs with
  | nil =>
    obtain ⟨fs', executable, written, -, holds⟩ := write_of_keeps s down h
    exact ⟨fs', executable, by simp [written], holds⟩
  | cons first earlier ih =>
    obtain ⟨fs', -, written, keeps, -⟩ := write_of_keeps first down h
    obtain ⟨fs'', executable, rest, holds⟩ := ih keeps
    exact ⟨fs'', executable, bind_eq_ok.mpr ⟨fs', written, rest⟩, holds⟩

/-- A record can be written below a directory exactly if nothing stands in its way, and then any
number of records can be written to the same file one after the other, whatever it held before. The
file holds the last one below its header, and that one is read back, with all its characters. -/
theorem load_of_writes (rooted : fs.Rooted) (there : fs.isDirectory root = true)
    (down : ['.', '.'] ∉ folders ++ [name]) (earlier : List RuntimeState) (s : RuntimeState) :
    let p := root.below (folders ++ [name])
    ((∃ fs', write fs p s = .ok fs') ↔ fs.Admits p) ∧
    (fs.Admits p → ∃ fs', (earlier ++ [s]).foldlM (fun fs s => write fs p s) fs = .ok fs') ∧
    ∀ fs', (earlier ++ [s]).foldlM (fun fs s => write fs p s) fs = .ok fs' →
      fs'.readText p = .ok s.toText ∧ header.toList <+: s.toText.toList ∧
        load fs' p = .ok (some s, []) := by
  intro p
  have keeps (admits : fs.Admits p) : Keeps fs root p := ⟨rooted, there, admits⟩
  refine ⟨⟨?_, ?_⟩, ?_, ?_⟩
  · rintro ⟨fs', written⟩
    exact admits_of_write rooted there down written
  · intro admits
    obtain ⟨fs', -, written, -⟩ := write_of_keeps s down (keeps admits)
    exact ⟨fs', written⟩
  · intro admits
    obtain ⟨fs', -, written, -⟩ := writes_of_keeps earlier s down (keeps admits)
    exact ⟨fs', written⟩
  · intro fs' written
    have admits : fs.Admits p := by
      obtain ⟨first, rest, all⟩ := List.exists_cons_of_ne_nil
        (List.append_ne_nil_of_right_ne_nil earlier (List.cons_ne_nil s []))
      rw [all, List.foldlM_cons] at written
      obtain ⟨fs₁, begun, -⟩ := bind_eq_ok.mp written
      exact admits_of_write rooted there down begun
    obtain ⟨fs'', executable, written', holds⟩ := writes_of_keeps earlier s down (keeps admits)
    cases written.symm.trans written'
    obtain ⟨read, loaded⟩ := load_of_lookup holds
    exact ⟨read, by simp [toText], loaded⟩

/-- A workspace with a file in the place of the record. -/
def usedWorkspace : FileSystem :=
  { entries := [(["w".toList], .directory), (["w".toList, ".lutels".toList], .directory),
      (["w".toList, ".lutels".toList, "state.yaml".toList], .file [123, 10] true)]
    workingDirectory := ⟨1, ["w".toList]⟩
    home := ⟨1, ["w".toList]⟩ }

theorem rooted_usedWorkspace : usedWorkspace.Rooted := by
  have each : ∀ e ∈ usedWorkspace.entries, ∀ k < e.1.length,
      usedWorkspace.isDirectoryAt (e.1.take k) = true := by decide +kernel
  exact FileSystem.rooted_of_entries each

/-- Texts that look like a truth value and like a comment over two lines replace the file and each
other. -/
theorem awkward_records_kept :
    let first : RuntimeState := ⟨"yes", "~"⟩
    let second : RuntimeState := ⟨"é: 'x", "\n# &a \x07 ---"⟩
    ∃ fs', ([first] ++ [second]).foldlM (fun fs s => write fs (path ⟨1, ["w".toList]⟩) s)
      usedWorkspace = .ok fs' ∧ load fs' (path ⟨1, ["w".toList]⟩) = .ok (some second, []) := by
  intro first second
  have down : ['.', '.'] ∉ [".lutels".toList] ++ ["state.yaml".toList] := by decide +kernel
  have there : usedWorkspace.isDirectory ⟨1, ["w".toList]⟩ = true := by decide +kernel
  obtain ⟨-, written, kept⟩ :=
    load_of_writes rooted_usedWorkspace there down [first] second
  have admits : usedWorkspace.Admits
      (FilePath.below ⟨1, ["w".toList]⟩ ([".lutels".toList] ++ ["state.yaml".toList])) := by
    exact ⟨by decide +kernel, by decide +kernel,
      FileSystem.isBlocked_eq_false_iff.mp (by decide +kernel), by decide +kernel⟩
  obtain ⟨fs', done⟩ := written admits
  rw [path_eq]
  exact ⟨fs', done, (kept fs' done).2.2⟩

end RuntimeState

end LintBridge
