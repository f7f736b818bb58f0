import LintBridge.Proofs.StateText
import LintBridge.Proofs.Checked
/-!
A record that is written is read back from its file. A path is written where its components lead
without a look at the files, and read by following them, from directory to directory; the two
places are the same where all directories on the way are there.
-/
namespace LintBridge

namespace FileSystem

variable {fs fs' : FileSystem}

/-- What is followed through directories leads where the components lead by themselves. Pairs of
points are taken back at once, so that none of them is ever on the stack. -/
theorem follow?_eq_climb {parts : List (List Char)} {stack : List (List Char)} {place : Place}
    (clean : ['.', '.'] ∉ stack) (h : fs.follow? stack.reverse parts = some place) :
    place = (parts.foldl (Path.climb true) stack).reverse := by
  induction parts generalizing stack with
  | nil => exact (Option.some.inj h).symm
  | cons c parts ih =>
    rw [follow?] at h
    split at h
    · cases h
    · rw [List.foldl_cons]
      split at h
      next back =>
        subst back
        cases stack with
        | nil => exact ih clean h
        | cons top below =>
          have apart : top ≠ ['.', '.'] := fun same => clean (same ▸ List.mem_cons_self)
          have climbed : Path.climb true (top :: below) ['.', '.'] = below := by
            simp [Path.climb, apart]
          rw [climbed]
          refine ih (fun mem => clean (List.mem_cons_of_mem _ mem)) ?_
          simpa using h
      next forth =>
        have climbed : Path.climb true stack c = c :: stack := by simp [Path.climb, forth]
        rw [climbed]
        refine ih (fun mem => ?_) (by simpa using h)
        rcases List.mem_cons.mp mem with rfl | mem
        · exact forth rfl
        · exact clean mem

/-- A path is followed part by part. -/
theorem follow?_append {start : Place} {front back : List (List Char)} :
    fs.follow? start (front ++ back) =
      (fs.follow? start front).bind fun place => fs.follow? place back := by
  induction front generalizing start with
  | nil => rfl
  | cons c front ih =>
    rw [List.cons_append, follow?, follow?]
    split
    · rfl
    · split
      · exact ih
      · exact ih

/-- A file system that another one has become by new entries: all its directories are still
there. -/
structure Extends (fs fs' : FileSystem) : Prop where
  frame : fs' = { fs with entries := fs'.entries }
  kept : ∀ place, fs.isDirectoryAt place = true → fs'.isDirectoryAt place = true

namespace Extends

theorem refl (fs : FileSystem) : fs.Extends fs := ⟨rfl, fun _ => id⟩

theorem trans {fs'' : FileSystem} (h : fs.Extends fs') (h' : fs'.Extends fs'') :
    fs.Extends fs'' := by
  refine ⟨?_, fun place there => h'.kept place (h.kept place there)⟩
  rw [h'.frame, h.frame]

theorem workingDirectory (h : fs.Extends fs') : fs'.workingDirectory = fs.workingDirectory := by
  rw [h.frame]

theorem home (h : fs.Extends fs') : fs'.home = fs.home := by
  rw [h.frame]

theorem refusal (h : fs.Extends fs') : fs'.refusal = fs.refusal := by
  rw [h.frame]

/-- What the system refuses to put somewhere does not depend on what is there. -/
theorem forbidden? (h : fs.Extends fs') (p : FilePath) : fs'.forbidden? p = fs.forbidden? p := by
  rw [h.frame]
  rfl

theorem rejected? (h : fs.Extends fs') (p : FilePath) : fs'.rejected? p = fs.rejected? p := by
  rw [h.frame]
  rfl

end Extends

/-- A path can still be followed where directories are kept. -/
theorem follow?_mono (kept : ∀ place, fs.isDirectoryAt place = true →
    fs'.isDirectoryAt place = true)
    {start place : Place} {parts : List (List Char)} (h : fs.follow? start parts = some place) :
    fs'.follow? start parts = some place := by
  induction parts generalizing start with
  | nil => exact h
  | cons c parts ih =>
    rw [follow?] at h ⊢
    split at h
    · cases h
    next there =>
      have there : fs.isDirectoryAt start = true := by simpa using there
      rw [if_neg (by simp [kept start there])]
      split at h
      next back => rw [if_pos back]; exact ih h
      next forth => rw [if_neg forth]; exact ih h

/-- Directories above a place are put only where nothing is. -/
theorem get?_above {es : Assoc Place FileEntry} {places : List Place} {place : Place}
    {entry : FileEntry} (h : es.get? place = some entry) :
    (places.foldl (fun es p => if p = [] || (es.get? p).isSome then es else es.put p .directory)
      es).get? place = some entry := by
  induction places generalizing es with
  | nil => exact h
  | cons p places ih =>
    rw [List.foldl_cons]
    split
    · exact ih h
    next fresh =>
      refine ih ?_
      rw [Assoc.get?_put, if_neg, h]
      rintro rfl
      simp [h] at fresh

theorem isDirectoryAt_iff {place : Place} :
    fs.isDirectoryAt place = true ↔ place = [] ∨ fs.entries.get? place = some .directory := by
  unfold isDirectoryAt at?
  by_cases top : place = [] <;> simp [top]

/-- A new entry takes no directory away but the one at its place. -/
theorem isDirectoryAt_put {place other : Place} {entry : FileEntry}
    {es : Assoc Place FileEntry} (h : fs.isDirectoryAt other = true)
    (kept : ∀ place, fs.entries.get? place = some .directory → es.get? place = some .directory)
    (apart : place ≠ other ∨ entry = .directory) :
    ({ fs with entries := es.put place entry } : FileSystem).isDirectoryAt other = true := by
  rw [isDirectoryAt_iff] at h ⊢
  rcases h with top | there
  · exact .inl top
  · refine .inr ?_
    rw [Assoc.get?_put]
    split
    next same =>
      rcases apart with apart | rfl
      · exact absurd same apart
      · rfl
    next => exact kept _ there

/-- A directory that is made is there, and so are those that were. -/
theorem isDirectoryAt_of_makeDirectories {p : FilePath} (h : fs.makeDirectories p = .ok fs') :
    fs'.isDirectoryAt (p.resolved fs.workingDirectory).parts = true ∧ fs.Extends fs' := by
  unfold makeDirectories at h
  dsimp only at h
  split at h
  · cases h
  · split at h
    · cases h
    · split at h
      next there =>
        cases h
        exact ⟨by simp [isDirectoryAt, there], .refl fs⟩
      · cases h
      next absent =>
        cases h
        refine ⟨?_, rfl, fun place hp => isDirectoryAt_put hp (fun _ h => get?_above h) (.inr rfl)⟩
        rw [isDirectoryAt_iff, putAt]
        exact .inr (by simp)

/-- A file that is written holds what was written, directories are kept, and nothing on the way
to it was refused. -/
theorem write_eq_ok {p : FilePath} {octets : List UInt8} (h : fs.write p octets = .ok fs') :
    (∃ executable, fs'.at? (p.resolved fs.workingDirectory).parts =
      some (.file octets executable)) ∧
      fs.Extends fs' ∧ fs.forbidden? p = none := by
  unfold write at h
  dsimp only at h
  split at h
  · cases h
  next allowed =>
    generalize (p.resolved fs.workingDirectory).parts = place at h ⊢
    have filled {entry : Option FileEntry} {executable : Bool} (ha : fs.at? place = entry)
        (he : entry ≠ some .directory)
        (hf : fs' = { fs with entries := fs.entries.put place (.file octets executable) }) :
        (∃ executable, fs'.at? place = some (.file octets executable)) ∧
          fs.Extends fs' ∧ fs.forbidden? p = none := by
      subst hf
      have top : place ≠ [] := fun top => he (by rw [← ha, at?, if_pos top])
      refine ⟨⟨executable, by simp [at?, top]⟩, ⟨rfl, fun other there => ?_⟩, allowed⟩
      refine isDirectoryAt_put there (fun _ => id) (.inl ?_)
      rintro rfl
      rw [isDirectoryAt, ha] at there
      exact he (by simpa using there)
    split at h
    · cases h
    next there => exact filled there (by simp) (Except.ok.inj h).symm
    next absent =>
      split at h
      · cases h
      · split at h
        · cases h
        · exact filled absent (by simp) (Except.ok.inj h).symm

theorem refused?_eq_none_iff {p : FilePath} : fs.refused? p = none ↔
    fs.rejected? p = none ∧
      ∀ start, fs.start? p = some start → fs.refusalAlong? start p.parts = none := by
  unfold refused?
  cases fs.rejected? p with
  | some e => simp
  | none => cases fs.start? p <;> simp

/-- A path is looked up from the place at which it starts. -/
theorem place?_eq_start? (p : FilePath) :
    fs.place? p = (fs.start? p).bind fun start => fs.follow? start p.parts := by
  unfold place? start? FilePath.absolute FilePath.join
  split
  · rfl
  · exact follow?_append

/-- A refusal on the way along a path is one on the way along its beginning, or one beyond the
place that this leads to. -/
theorem refusalAlong?_append {start : Place} {front back : List (List Char)} :
    fs.refusalAlong? start (front ++ back) = (fs.refusalAlong? start front).or
      ((fs.follow? start front).bind fun place => fs.refusalAlong? place back) := by
  induction front generalizing start with
  | nil => rfl
  | cons c front ih =>
    rw [List.cons_append, refusalAlong?, refusalAlong?, follow?]
    split
    · rfl
    · cases fs.refusal start c with
      | some r => rfl
      | none =>
        dsimp only
        split
        · exact ih
        · exact ih

/-- No name is refused on a way down if none is refused below its directory. -/
theorem refusalAlong?_down {place : Place} {names : List (List Char)} (down : ['.', '.'] ∉ names)
    (each : ∀ k < names.length, fs.refusal (place ++ names.take k) (names.getD k []) = none) :
    fs.refusalAlong? place names = none := by
  induction names generalizing place with
  | nil => rfl
  | cons name names ih =>
    simp only [List.mem_cons, not_or] at down
    have first : fs.refusal place name = none := by simpa using each 0 (by simp)
    rw [refusalAlong?, first]
    split
    · rfl
    · dsimp only
      rw [if_neg (Ne.symm down.1)]
      refine ih down.2 fun k hk => ?_
      simpa using each (k + 1) (by simpa using hk)

/-- A way that could be followed without a refusal still can where directories are kept. -/
theorem refusalAlong?_mono (h : fs.Extends fs') {start place : Place} {parts : List (List Char)}
    (reached : fs.follow? start parts = some place) (free : fs.refusalAlong? start parts = none) :
    fs'.refusalAlong? start parts = none := by
  induction parts generalizing start with
  | nil => rfl
  | cons c parts ih =>
    rw [follow?] at reached
    rw [refusalAlong?] at free ⊢
    split at reached
    · cases reached
    next there =>
      have there : fs.isDirectoryAt start = true := by simpa using there
      rw [if_neg (by simp [there])] at free
      rw [if_neg (by simp [h.kept _ there]), h.refusal]
      cases allowed : fs.refusal start c with
      | some r =>
        rw [allowed] at free
        cases free
      | none =>
        rw [allowed] at free
        dsimp only at free ⊢
        split at reached
        next back =>
          rw [if_pos back] at free ⊢
          exact ih reached free
        next forth =>
          rw [if_neg forth] at free ⊢
          exact ih reached free

theorem forbidden?_eq_none_iff {p : FilePath} : fs.forbidden? p = none ↔
    fs.rejected? p = none ∧ ∀ k < (p.resolved fs.workingDirectory).parts.length,
      fs.refusal ((p.resolved fs.workingDirectory).parts.take k)
        ((p.resolved fs.workingDirectory).parts.getD k []) = none := by
  simp [forbidden?, Option.or_eq_none_iff]

theorem place?_absolute {p : FilePath} (absolute : p.isAbsolute = true) :
    fs.place? p = fs.follow? [] p.parts := by
  unfold place? FilePath.absolute FilePath.join
  rw [if_pos absolute]

theorem join_below {base p : FilePath} (names : List (List Char)) :
    base.join ⟨p.slashes, p.parts ++ names⟩ =
      ⟨(base.join p).slashes, (base.join p).parts ++ names⟩ := by
  unfold FilePath.join FilePath.isAbsolute
  dsimp only
  split
  · rfl
  · simp

/-- A path below a directory is written where it is read. -/
theorem resolved_below {p : FilePath} {place : Place} {names : List (List Char)}
    (h : fs.place? p = some place) (down : ['.', '.'] ∉ names) :
    ((⟨p.slashes, p.parts ++ names⟩ : FilePath).resolved fs.workingDirectory).parts =
      place ++ names := by
  have climbed (stack : List (List Char)) :
      names.foldl (Path.climb true) stack = names.reverse ++ stack := by
    induction names generalizing stack with
    | nil => rfl
    | cons name names ih =>
      simp only [List.mem_cons, not_or] at down
      have up : Path.climb true stack name = name :: stack := by
        simp [Path.climb, Ne.symm down.1]
      rw [List.foldl_cons, up, ih down.2]
      simp
  have reached := follow?_eq_climb List.not_mem_nil h
  unfold FilePath.resolved
  rw [join_below]
  dsimp only
  rw [List.foldl_append, climbed, List.reverse_append, List.reverse_reverse, reached,
    FilePath.absolute]

theorem follow?_down {place : Place} {names : List (List Char)} (down : ['.', '.'] ∉ names)
    (way : ∀ k < names.length, fs.isDirectoryAt (place ++ names.take k) = true) :
    fs.follow? place names = some (place ++ names) := by
  induction names generalizing place with
  | nil => simp [follow?]
  | cons name names ih =>
    simp only [List.mem_cons, not_or] at down
    have first : fs.isDirectoryAt place = true := by simpa using way 0 (by simp)
    rw [follow?, if_neg (by simp [first]), if_neg (Ne.symm down.1), ih down.2]
    · simp
    · intro k hk
      simpa using way (k + 1) (by simpa using hk)

/-- Where nothing may be refused below a directory that can be looked up, a path below it can be
looked up. -/
theorem refused?_below {p : FilePath} {place : Place} {names : List (List Char)}
    (h : fs.place? p = some place) (free : fs.refused? p = none) (down : ['.', '.'] ∉ names)
    (allowed : fs.forbidden? ⟨p.slashes, p.parts ++ names⟩ = none) :
    fs.refused? ⟨p.slashes, p.parts ++ names⟩ = none := by
  obtain ⟨taken, each⟩ := forbidden?_eq_none_iff.mp allowed
  rw [resolved_below h down] at each
  refine refused?_eq_none_iff.mpr ⟨taken, fun start hs => ?_⟩
  have begun : fs.start? p = some start := hs
  rw [place?_eq_start?, begun, Option.bind_some] at h
  rw [refusalAlong?_append, (refused?_eq_none_iff.mp free).2 start begun, h, Option.none_or,
    Option.bind_some]
  refine refusalAlong?_down down fun k hk => ?_
  have step := each (place.length + k) (by rw [List.length_append]; omega)
  rw [List.take_length_add_append, List.getD_eq_getElem?_getD,
    List.getElem?_append_right (Nat.le_add_right _ _), Nat.add_sub_cancel_left] at step
  rwa [List.getD_eq_getElem?_getD]

/-- What stands at a path below a directory, if all directories on the way down are there and
nothing is refused. -/
theorem lookup_below {p : FilePath} {place : Place} {names : List (List Char)}
    (h : fs.place? p = some place) (free : fs.refused? p = none) (down : ['.', '.'] ∉ names)
    (allowed : fs.forbidden? ⟨p.slashes, p.parts ++ names⟩ = none)
    (way : ∀ k < names.length, fs.isDirectoryAt (place ++ names.take k) = true) :
    fs.lookup ⟨p.slashes, p.parts ++ names⟩ = fs.at? (place ++ names) := by
  unfold lookup
  rw [refused?_below h free down allowed]
  unfold place? FilePath.absolute at h ⊢
  rw [join_below, follow?_append, h, Option.bind_some, follow?_down down way]
  rfl

/-- A path is still found where directories are kept. -/
theorem place?_mono (h : fs.Extends fs') {p : FilePath} {place : Place}
    (found : fs.place? p = some place) : fs'.place? p = some place := by
  unfold place? at found ⊢
  rw [h.workingDirectory]
  exact follow?_mono h.kept found

/-- A path that is found without a refusal is so where directories are kept. -/
theorem refused?_mono (h : fs.Extends fs') {p : FilePath} {place : Place}
    (found : fs.place? p = some place) (free : fs.refused? p = none) : fs'.refused? p = none := by
  obtain ⟨taken, each⟩ := refused?_eq_none_iff.mp free
  refine refused?_eq_none_iff.mpr ⟨(h.rejected? p).trans taken, fun start hs => ?_⟩
  rw [place?_eq_start?] at found
  obtain ⟨first, begun, reached⟩ := Option.bind_eq_some_iff.mp found
  have same : fs'.start? p = some first := by
    unfold start? at begun ⊢
    rw [h.workingDirectory]
    split at begun
    next absolute => rwa [if_pos absolute]
    next relative =>
      rw [if_neg relative]
      exact follow?_mono h.kept begun
  obtain rfl : first = start := Option.some.inj (same.symm.trans hs)
  exact refusalAlong?_mono h reached (each first begun)

theorem lookup_eq_some_iff {p : FilePath} {entry : FileEntry} :
    fs.lookup p = some entry ↔
      fs.refused? p = none ∧ ∃ place, fs.place? p = some place ∧ fs.at? place = some entry := by
  unfold lookup
  cases fs.refused? p <;> simp [Option.bind_eq_some_iff]

/-- A file that is seen is there. -/
theorem exists_lookup_of_isFile {p : FilePath} (h : fs.isFile p = .ok true) :
    ∃ octets executable, fs.lookup p = some (.file octets executable) := by
  unfold isFile look at h
  split at h
  · split at h <;> cases h
  · cases found : fs.lookup p with
    | none => simp [found, Except.map] at h
    | some entry =>
      cases entry with
      | directory => simp [found, Except.map, FileEntry.isFile] at h
      | file octets executable => exact ⟨octets, executable, rfl⟩

theorem isDirectory_iff {p : FilePath} : fs.isDirectory p = true ↔
    fs.refused? p = none ∧ ∃ place, fs.place? p = some place ∧ fs.isDirectoryAt place = true := by
  simp [isDirectory, isDirectoryAt, lookup_eq_some_iff]

/-- A directory stays one where directories are kept. -/
theorem isDirectory_mono (h : fs.Extends fs') {p : FilePath} (there : fs.isDirectory p = true) :
    fs'.isDirectory p = true := by
  obtain ⟨free, place, found, directory⟩ := isDirectory_iff.mp there
  exact isDirectory_iff.mpr
    ⟨refused?_mono h found free, place, place?_mono h found, h.kept _ directory⟩

/-- What is found is seen by who looks. -/
theorem look_of_lookup {p : FilePath} {entry : FileEntry} (h : fs.lookup p = some entry) :
    fs.look p = .ok (some entry) := by
  rw [look, (lookup_eq_some_iff.mp h).1, h]

end FileSystem

namespace RuntimeState

variable {fs fs' : FileSystem}

theorem path_eq (root : FilePath) :
    path root = ⟨root.slashes, root.parts ++ [".lutels".toList, "state.yaml".toList]⟩ := by
  have first : FilePath.ofText ".lutels" = ⟨0, [".lutels".toList]⟩ := by decide +kernel
  have second : FilePath.ofText "state.yaml" = ⟨0, ["state.yaml".toList]⟩ := by decide +kernel
  simp [path, FilePath.child, FilePath.join, first, second, FilePath.isAbsolute]

/-- A record that its file holds is read. -/
theorem load_of_lookup {p : FilePath} {s : RuntimeState} {executable : Bool}
    (h : fs.lookup p = some (.file (Text.Utf8.encode s.toText) executable)) :
    fs.readText p = .ok s.toText ∧ load fs p = .ok (some s, []) := by
  have free := (FileSystem.lookup_eq_some_iff.mp h).1
  have read : fs.readText p = .ok s.toText := by
    simp [FileSystem.readText, FileSystem.read, free, h, decodeStream_toText, Except.mapError]
  refine ⟨read, ?_⟩
  simp [load, FileSystem.exists_, FileSystem.look_of_lookup h, read, Except.map, Except.toOption,
    ofText_toText]

/-- A record that was written below a directory is read back. -/
theorem load_of_write {root : FilePath} {s : RuntimeState}
    (there : fs.isDirectory root = true) (h : write fs (path root) s = .ok fs') :
    load fs' (path root) = .ok (some s, []) := by
  rw [path_eq] at h ⊢
  generalize hf : ".lutels".toList = folder at h ⊢
  generalize hn : "state.yaml".toList = name at h ⊢
  have down : ['.', '.'] ∉ [folder, name] := by
    subst hf hn
    decide +kernel
  obtain ⟨free, place, found, directory⟩ := FileSystem.isDirectory_iff.mp there
  -- The directory and the file come to stand right below the place of the root.
  obtain ⟨fs₁, made, written⟩ := bind_eq_ok.mp h
  obtain ⟨inner, first⟩ := FileSystem.isDirectoryAt_of_makeDirectories made
  have parent : (⟨root.slashes, root.parts ++ [folder, name]⟩ : FilePath).parent =
      ⟨root.slashes, root.parts ++ [folder]⟩ := by
    simp [FilePath.parent]
  have forth : ['.', '.'] ∉ [folder] := fun mem => down (by simp_all)
  rw [parent, FileSystem.resolved_below found forth] at inner
  obtain ⟨⟨executable, holds⟩, second, allowed⟩ := FileSystem.write_eq_ok written
  rw [FileSystem.resolved_below (FileSystem.place?_mono first found) down] at holds
  -- The way to the root is still there, and leads on to the file.
  have both := first.trans second
  have reached := FileSystem.place?_mono both found
  rw [← second.forbidden?] at allowed
  have lookup := FileSystem.lookup_below reached (FileSystem.refused?_mono both found free) down
    allowed fun k hk => by
      obtain rfl | rfl : k = 0 ∨ k = 1 := by
        simp only [List.length_cons, List.length_nil] at hk
        omega
      · simpa using both.kept _ directory
      · simpa using second.kept _ inner
  exact (load_of_lookup (lookup.trans holds)).2

end RuntimeState

end LintBridge
