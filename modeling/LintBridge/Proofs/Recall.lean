import LintBridge.Proofs.Precedence
/-!
What the record of a linter does to a configuration. Layers that say nothing of the linter make
the same configuration with the record and without it, but for the linter and its directory, which
are those of the record (`load_silent`).
-/
namespace LintBridge.Config

open Value

variable {α : Type}

/-- A configuration with the linter of a record. -/
def Settings.recall (c : Settings) (s : RuntimeState) : Settings :=
  { c with
    lint := { c.lint with
      executablePath := s.executablePath, manifestDirectory := some s.manifestDirectory } }

/-- A layer that says nothing of the linter and its directory. -/
structure Spares (es : Entries) : Prop where
  mapping : ∀ v, es.field? "lint" = some v → ∃ fields, v = .map fields
  executable : Field.executablePath.raw? es = none
  directory : Field.manifestDirectory.raw? es = none

/-- The layers beside the record of a workspace, if they can be read, say nothing of the linter
and make a configuration by themselves. -/
inductive Silent (src : Sources) (root : FilePath) (given : Entries) (c : Settings) : Prop
  | layers {user own environment : Entries}
    (hu : readMapping src.files src.userFile = .ok user)
    (ho : readMapping src.files (workspaceFile root) = .ok own)
    (he : environmentLayer src.environment sections = .ok environment)
    (spare : ∀ l ∈ [callerLayer given, environment, own, user], Spares l)
    (made : settle src.files.homes (fileLayers user none own) environment (callerLayer given) =
      .ok c)

/-- Layers over each other say no more than each of them. -/
theorem Spares.merge {base upper : Entries} (hb : ProperAt "lint" base) (hu : ProperAt "lint" upper)
    (h : Spares base) (h' : Spares upper) : Spares (merge base upper) := by
  have absent {β : Type} {f : Field β} (hf : f.sectionName = "lint") (lower : f.raw? base = none)
      (above : f.raw? upper = none) : f.raw? (Config.merge base upper) = none := by
    rw [← hf] at hb hu
    have alike := alike_raw?_merge f hb hu
    rw [lower, above] at alike
    obtain same | ⟨_, _, _, same⟩ := alike
    · exact same
    · cases same
  refine ⟨fun v hv => ?_, absent rfl h.executable h'.executable,
    absent rfl h.directory h'.directory⟩
  obtain ⟨fields, rfl, _⟩ := (hb.merge hu).2 v hv
  exact ⟨fields, rfl⟩

theorem firstExtra_stateLayer (s : RuntimeState) : firstExtra (stateLayer s) = none := by
  rw [firstExtra_eq_none_iff]
  intro e he
  exact ⟨"lint", by simp [sections], by rw [List.mem_singleton.mp he]⟩

theorem field?_logging_stateLayer (s : RuntimeState) : (stateLayer s).field? "logging" = none := by
  simp [stateLayer, Entries.field?, Entries.get?, sameKey, key?]

/-- At a field of the linter's section stands the record's value, or nothing. -/
theorem raw?_stateLayer (s : RuntimeState) (f : Field α) (hf : f.sectionName = "lint") :
    f.raw? (stateLayer s) = Entries.field? [(.text "executable_path", .text s.executablePath),
      (.text "toolchain_manifest_directory", .text s.manifestDirectory)] f.name := by
  have lint : (stateLayer s).field? "lint" = some s.toValue := by
    simp [stateLayer, Entries.field?, Entries.get?, sameKey]
  rw [Field.raw?, hf, lint]
  rfl

section
variable {homes : Homes} {user own top : Entries} {c : Settings}

/-- The highest of some layers decides what stands at a field of their merge. -/
theorem alike_raw?_between (f : Field α) (hu : ProperAt f.sectionName user)
    (ho : ProperAt f.sectionName own) (ht : ProperAt f.sectionName top) :
    Alike (f.raw? (merge (merge user own) top)) ((f.raw? top).or ((f.raw? own).or (f.raw? user))) :=
  (alike_raw?_merge f (hu.merge ho) ht).trans (Alike.or (.inl rfl) (alike_raw?_merge f hu ho))

/-- Below other layers the record has no part in the other section. -/
theorem field?_logging_between (s : RuntimeState) (ho : own.Once (.text "logging"))
    (ht : top.Once (.text "logging")) :
    (merge (merge (merge user (stateLayer s)) own) top).field? "logging" =
      (merge (merge user own) top).field? "logging" := by
  rw [field?_merge ht, field?_merge ho, field?_merge ((single_stateLayer s).1 _),
    field?_logging_stateLayer, field?_merge ht, field?_merge ho, stacked]

/-- The linter's section with the record in it, field by field. -/
theorem reads_between (s : RuntimeState) (hu : ProperAt "lint" user) (ho : ProperAt "lint" own)
    (ht : ProperAt "lint" top) (spareTop : Spares top) (spareOwn : Spares own)
    (f : Field α) (hf : f.sectionName = "lint")
    (reads : f.Reads homes (f.raw? (merge (merge user own) top)) c) :
    f.Reads homes (f.raw? (merge (merge (merge user (stateLayer s)) own) top)) (c.recall s) := by
  have state : ProperAt "lint" (stateLayer s) := proper_stateLayer s "lint" (by simp [sections])
  rw [← hf] at hu ho ht state
  rw [f.reads_congr (alike_raw?_between f hu ho ht)] at reads
  rw [f.reads_congr (alike_raw?_between f (hu.merge state) ho ht),
    f.reads_congr (Alike.or (.inl rfl) (Alike.or (.inl rfl) (alike_raw?_merge f hu state))),
    raw?_stateLayer s f hf]
  cases f with
  | level => simp [Field.sectionName] at hf
  | outputs => simp [Field.sectionName] at hf
  | executablePath =>
    rw [spareTop.executable, spareOwn.executable]
    rfl
  | manifestDirectory =>
    rw [spareTop.directory, spareOwn.directory]
    rfl
  | ruleConfigPath => exact reads
  | bundledExecutable => exact reads
  | languages => exact reads
  | timeout => exact reads

/-- A record between layers that are checked as a configuration and say nothing of the linter
puts its linter there, and changes nothing else. -/
theorem checkSettings_recall (s : RuntimeState) (hu : ProperAt "lint" user)
    (ho : ProperAt "lint" own) (ht : ProperAt "lint" top) (spareTop : Spares top)
    (spareOwn : Spares own) (hol : own.Once (.text "logging")) (htl : top.Once (.text "logging"))
    (made : checkSettings homes (merge (merge user own) top) = .ok c) :
    checkSettings homes (merge (merge (merge user (stateLayer s)) own) top) = .ok (c.recall s) := by
  rw [checkSettings_eq_ok_iff_sections, lintSection_iff] at made ⊢
  obtain ⟨logging, ⟨_, he, hr, hm, hb, hl, hlim⟩, extra⟩ := made
  have state : ProperAt "lint" (stateLayer s) := proper_stateLayer s "lint" (by simp [sections])
  have reads {α : Type} (f : Field α) (hf : f.sectionName = "lint")
      (h : f.Reads homes (f.raw? (merge (merge user own) top)) c) :=
    reads_between s hu ho ht spareTop spareOwn f hf h
  refine ⟨?_, ⟨?_, reads _ rfl he, reads _ rfl hr, reads _ rfl hm, reads _ rfl hb, reads _ rfl hl,
    reads _ rfl hlim⟩, ?_⟩
  · rw [field?_logging_between s hol htl]
    exact logging
  · intro v hv
    obtain ⟨fields, rfl, _⟩ := (((hu.merge state).merge ho).merge ht).2 v hv
    exact ⟨fields, rfl⟩
  · simp only [firstExtra_merge, firstExtra_stateLayer] at extra ⊢
    exact ⟨⟨⟨extra.1.1, trivial⟩, extra.1.2⟩, extra.2⟩

/-- Without a record no linter is named. -/
theorem unnamed_of_spares (hu : ProperAt "lint" user) (ho : ProperAt "lint" own)
    (ht : ProperAt "lint" top) (spareTop : Spares top) (spareOwn : Spares own)
    (spareUser : Spares user) (made : checkSettings homes (merge (merge user own) top) = .ok c) :
    c.lint.executablePath = "" := by
  rw [checkSettings_eq_ok_iff] at made
  have reads := made.2.1 _ Field.executablePath
  rw [Field.reads_congr _ (alike_raw?_between Field.executablePath hu ho ht), spareTop.executable,
    spareOwn.executable, spareUser.executable] at reads
  exact reads

end

/-- A workspace whose other layers say nothing of the linter has their configuration, with the
linter of its record if there is one, and names no linter otherwise. -/
theorem load_silent {src : Sources} {root : FilePath} {given : Entries} {c : Settings}
    {state : Option RuntimeState} {events : List Log.Event} (single : Single given)
    (h : Silent src root given c)
    (hs : RuntimeState.load src.files (RuntimeState.path root) = .ok (state, events)) :
    (load src (some root) given).result = .ok (state.elim c c.recall) ∧
      c.lint.executablePath = "" := by
  obtain @⟨user, own, environment, hu, ho, he, spare, made⟩ := h
  simp only [List.forall_mem_cons] at spare
  obtain ⟨spareCaller, spareEnvironment, spareOwn, spareUser, _⟩ := spare
  have loaded : (load src (some root) given).result = settle src.files.homes
      (fileLayers user state own) environment (callerLayer given) := by
    rw [load_result, fileMapping_eq_ok_iff.mpr ⟨_, .workspace hu hs ho⟩]
    simp [bind, Except.bind, assemble, he]
  have lowest := (single_readMapping hu).properAt spareUser.mapping
  have next := (single_readMapping ho).properAt spareOwn.mapping
  have singleEnvironment := single_environmentLayer (by decide) he
  have above := singleEnvironment.properAt spareEnvironment.mapping
  have highest := (singleAt_callerLayer single (by simp [sections])).properAt spareCaller.mapping
  have spareTop := spareEnvironment.merge above highest spareCaller
  have checked := settle_eq_ok_iff_checkSettings.mp made
  refine ⟨?_, unnamed_of_spares lowest next (above.merge highest) spareTop spareOwn spareUser
    checked⟩
  rw [loaded]
  cases state with
  | none => exact made
  | some s =>
    exact settle_eq_ok_iff_checkSettings.mpr (checkSettings_recall s lowest next
      (above.merge highest) spareTop spareOwn ((single_readMapping ho).1 _)
      (once_merge (singleEnvironment.1 _) _) checked)

/-- A workspace whose other layers say nothing of the linter has no configuration if the look at its
record is refused. -/
theorem load_silent_refused {src : Sources} {root : FilePath} {given : Entries} {c : Settings}
    {e : SystemError} (h : Silent src root given c)
    (hs : RuntimeState.load src.files (RuntimeState.path root) = .error e) :
    (load src (some root) given).result = .error (.system e) := by
  obtain @⟨user, own, environment, hu, ho, he, spare, made⟩ := h
  simp [load_result, fileMapping, hu, hs, bind, Except.bind, Except.mapError]

end LintBridge.Config
