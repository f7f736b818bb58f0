import LintBridge.Proofs.Layers
/-!
Which layer a field of the configuration comes from. Merged mappings have at every field what
the highest of their layers has there, up to mappings, which no field accepts (`Stacks`); so
the loaded configuration reads every field from the highest layer that has it
(`field_from_highest_layer`).
-/
namespace LintBridge.Config

open Value

variable {α : Type}

/-- What stands at a field in two mappings that no check tells apart. -/
def Alike (a b : Option Value) : Prop :=
  a = b ∨ ∃ es es', a = some (.map es) ∧ b = some (.map es')

theorem Field.reads_congr (f : Field α) {homes : Homes} {a b : Option Value} {s : Settings}
    (h : Alike a b) : f.Reads homes a s ↔ f.Reads homes b s := by
  rcases h with rfl | ⟨es, es', rfl, rfl⟩
  · rfl
  · exact ⟨fun h => (f.check_map_ne_ok homes es _ h).elim,
      fun h => (f.check_map_ne_ok homes es' _ h).elim⟩

theorem Alike.or {a a' b b' : Option Value} (ha : Alike a a') (hb : Alike b b') :
    Alike (a.or b) (a'.or b') := by
  rcases ha with rfl | ⟨es, es', rfl, rfl⟩
  · cases a with
    | none => exact hb
    | some v => exact .inl rfl
  · exact .inr ⟨es, es', rfl, rfl⟩

theorem Alike.symm {a b : Option Value} (h : Alike a b) : Alike b a := by
  rcases h with rfl | ⟨es, es', rfl, rfl⟩
  · exact .inl rfl
  · exact .inr ⟨es', es, rfl, rfl⟩

theorem Alike.trans {a b c : Option Value} (h : Alike a b) (h' : Alike b c) : Alike a c := by
  rcases h with rfl | ⟨es, es', rfl, rfl⟩
  · exact h'
  · rcases h' with rfl | ⟨_, es'', _, rfl⟩
    · exact .inr ⟨es, es', rfl, rfl⟩
    · exact .inr ⟨es, es'', rfl, rfl⟩

/-- A value over another one: the upper one, or a mapping for a mapping. -/
theorem alike_stacked (upper lower : Option Value) :
    Alike (stacked upper lower) (upper.or lower) := by
  cases upper with
  | none => exact .inl rfl
  | some v =>
    cases lower with
    | none => exact .inl rfl
    | some w =>
      obtain same | ⟨base, es, rfl, rfl, same⟩ := overlay_eq v w
      · exact .inl (congrArg some same)
      · exact .inr ⟨_, es, congrArg some same, rfl⟩

/-- Under the same value nothing is told apart that was not before. -/
theorem Alike.stacked {a b : Option Value} (upper : Option Value) (h : Alike a b) :
    Alike (stacked upper a) (stacked upper b) :=
  ((alike_stacked upper a).trans (.or (.inl rfl) h)).trans (alike_stacked upper b).symm

/-- What stands at a key of a section that is a mapping. -/
def inner : Option Value → Value → Option Value
  | some (.map fields), key => Entries.get? fields key
  | _, _ => none

@[simp] theorem stacked_none (upper : Option Value) : stacked upper none = upper := by
  cases upper <;> rfl

/-- A mapping over a section, key by key. -/
theorem stacked_map {fields : Entries} (distinct : fields.Distinct) (lower : Option Value) :
    ∃ whole : Entries, stacked (some (.map fields)) lower = some (.map whole) ∧
      (∀ key, whole.get? key = stacked (fields.get? key) (inner lower key)) ∧
      ((∀ es, lower = some (.map es) → Entries.Distinct es) → whole.Distinct) := by
  have alone (h : stacked (some (.map fields)) lower = some (.map fields))
      (empty : ∀ key, inner lower key = none) : ∃ whole : Entries,
        stacked (some (.map fields)) lower = some (.map whole) ∧
          (∀ key, whole.get? key = stacked (fields.get? key) (inner lower key)) ∧
          ((∀ es, lower = some (.map es) → Entries.Distinct es) → whole.Distinct) :=
    ⟨fields, h, fun key => by rw [empty, stacked_none], fun _ => distinct⟩
  cases lower with
  | none => exact alone rfl fun _ => rfl
  | some v =>
    cases v with
    | map base =>
      exact ⟨merge base fields, rfl, fun key => get?_merge (distinct key),
        fun below key => once_merge (below base rfl key) fields⟩
    | _ => exact alone rfl fun _ => rfl

theorem raw?_eq_inner (f : Field α) (es : Entries) :
    f.raw? es = inner (es.field? f.sectionName) (.text f.name) := by
  unfold Field.raw? inner
  rcases es.field? f.sectionName with - | v
  · rfl
  · cases v <;> rfl

/-- The section of a merge. -/
theorem field?_merge {base upper : Entries} {name : String} (h : upper.Once (.text name)) :
    (merge base upper).field? name = stacked (upper.field? name) (base.field? name) :=
  get?_merge h

theorem ProperAt.merge {base upper : Entries} {name : String} (hb : ProperAt name base)
    (hu : ProperAt name upper) : ProperAt name (merge base upper) := by
  refine ⟨once_merge hb.1 upper, fun v hv => ?_⟩
  rw [field?_merge hu.1] at hv
  cases habove : upper.field? name with
  | none =>
    rw [habove] at hv
    exact hb.2 v hv
  | some w =>
    obtain ⟨fields, rfl, distinct⟩ := hu.2 w habove
    rw [habove] at hv
    cases hbelow : base.field? name with
    | none =>
      rw [hbelow] at hv
      cases hv
      exact ⟨fields, rfl, distinct⟩
    | some w' =>
      obtain ⟨below, rfl, distinct'⟩ := hb.2 w' hbelow
      rw [hbelow] at hv
      cases hv
      exact ⟨_, rfl, fun key => once_merge (distinct' key) fields⟩

theorem SingleAt.merge {base upper : Entries} {name : String} (hb : SingleAt name base)
    (hu : SingleAt name upper) : SingleAt name (merge base upper) := by
  refine ⟨once_merge hb.1 upper, fun fields hv => ?_⟩
  rw [field?_merge hu.1] at hv
  cases above : upper.field? name with
  | none =>
    rw [above] at hv
    exact hb.2 fields hv
  | some v =>
    rw [above] at hv
    cases below : base.field? name with
    | none =>
      rw [below] at hv
      exact hu.2 fields (above.trans hv)
    | some w =>
      rw [below] at hv
      have laid : overlay v w = .map fields := Option.some.inj hv
      obtain same | ⟨es, es', rfl, rfl, merged⟩ := overlay_eq v w
      · exact hu.2 fields (by rw [above, ← same, laid])
      · obtain rfl := Value.map.inj (merged.symm.trans laid)
        exact fun key => once_merge (hb.2 es below key) es'

/-- A field of a merge is that of the upper layer, or of the lower one without it. -/
theorem alike_raw?_merge (f : Field α) {base upper : Entries} (hb : ProperAt f.sectionName base)
    (hu : ProperAt f.sectionName upper) :
    Alike (f.raw? (merge base upper)) ((f.raw? upper).or (f.raw? base)) := by
  unfold Field.raw?
  rw [field?_merge hu.1]
  cases habove : upper.field? f.sectionName with
  | none => exact .inl rfl
  | some w =>
    obtain ⟨fields, rfl, distinct⟩ := hu.2 w habove
    cases hbelow : base.field? f.sectionName with
    | none => exact .inl Option.or_none.symm
    | some w' =>
      obtain ⟨below, rfl, _⟩ := hb.2 w' hbelow
      have merged : Entries.field? (merge below fields) f.name =
          stacked (Entries.field? fields f.name) (Entries.field? below f.name) :=
        get?_merge (distinct _)
      change Alike (Entries.field? (merge below fields) f.name) _
      rw [merged]
      exact alike_stacked _ _

/-- A layer has nothing beside the sections. -/
theorem firstExtra_eq_none_iff {es : Entries} :
    firstExtra es = none ↔ ∀ e ∈ es, ∃ name ∈ sections, e.1 = .text name := by
  unfold firstExtra
  rw [List.find?_eq_none]
  refine forall₂_congr fun e _ => ?_
  simp only [Bool.not_eq_true, Bool.not_eq_false', List.any_eq_true]
  exact exists_congr fun name => and_congr_right fun _ =>
    ⟨eq_text_of_sameKey, fun h => by simp [h]⟩

/-- A merge has nothing beside the sections exactly if neither layer has. -/
theorem firstExtra_merge {base upper : Entries} :
    firstExtra (merge base upper) = none ↔ firstExtra base = none ∧ firstExtra upper = none := by
  simp only [firstExtra_eq_none_iff]
  refine forall_key_merge (P := fun k => ∃ name ∈ sections, k = .text name) fun {a b} h => ?_
  constructor
  · rintro ⟨name, hn, rfl⟩
    rw [sameKey_comm] at h
    exact ⟨name, hn, eq_text_of_sameKey h⟩
  · rintro ⟨name, hn, rfl⟩
    exact ⟨name, hn, eq_text_of_sameKey h⟩

theorem keysAreText_of_firstExtra {es : Entries} (h : firstExtra es = none) :
    RuntimeState.keysAreText es = true := by
  unfold RuntimeState.keysAreText
  rw [List.all_eq_true]
  intro e he
  obtain ⟨name, _, hk⟩ := firstExtra_eq_none_iff.mp h e he
  rw [hk]

/-- A mapping has at every field what the highest of some layers has there, and nothing beside
the sections if none of them has. -/
structure Stacks (ls : List Entries) (es : Entries) : Prop where
  proper : Proper es
  raw : ∀ {α : Type} (f : Field α), Alike (f.raw? es) (ls.findSome? f.raw?)
  extra : firstExtra es = none ↔ ∀ l ∈ ls, firstExtra l = none

namespace Stacks

theorem one {es : Entries} (h : Proper es) : Stacks [es] es where
  proper := h
  raw f := .inl (by cases hf : f.raw? es <;> simp [hf])
  extra := by simp

/-- Layers over other layers. -/
theorem merge {us ls : List Entries} {upper lower : Entries} (hu : Stacks us upper)
    (hl : Stacks ls lower) : Stacks (us ++ ls) (merge lower upper) where
  proper name hn := (hl.proper name hn).merge (hu.proper name hn)
  raw f := by
    have hn := f.sectionName_mem
    rw [List.findSome?_append]
    exact (alike_raw?_merge f (hl.proper _ hn) (hu.proper _ hn)).trans ((hu.raw f).or (hl.raw f))
  extra := by
    rw [firstExtra_merge, hu.extra, hl.extra, List.forall_mem_append]
    exact and_comm

end Stacks

theorem proper_stateLayer (s : RuntimeState) : Proper (stateLayer s) :=
  (single_stateLayer s).proper sectionsAreMappings_one

/-- The layers of files in one. -/
theorem FileLayers.stacks {src : Sources} {workspace : Option FilePath} {ls : List Entries}
    {files : Entries} (hf : FileLayers src workspace ls files) (proper : ∀ l ∈ ls, Proper l) :
    Stacks ls files := by
  cases hf with
  | user hu => exact .one (proper _ (by simp))
  | workspace hu hs ho =>
    rename_i user own state events
    have hu : Stacks [user] user := .one (proper _ (by simp))
    have ho : Stacks [own] own := .one (proper _ (by simp))
    cases state with
    | none => exact ho.merge hu
    | some s => exact ho.merge ((Stacks.one (proper_stateLayer s)).merge hu)

/-- Layers settle on what their merge is checked as. -/
theorem settle_eq_ok_iff_checkSettings {homes : Homes} {files environment caller : Entries}
    {s : Settings} :
    settle homes files environment caller = .ok s ↔
      checkSettings homes (merge files (merge environment caller)) = .ok s := by
  unfold settle
  constructor
  · intro hs
    dsimp only at hs
    split at hs
    · cases hs
    · split at hs
      next checked => rw [checked, Except.ok.inj hs]
      all_goals cases hs
  · intro hs
    simp [keysAreText_of_firstExtra (checkSettings_eq_ok_iff.mp hs).2.2, hs]

/-- When layers settle, and on what. -/
theorem settle_eq_ok_iff {homes : Homes} {ls : List Entries} {files environment caller : Entries}
    {s : Settings} (h : Stacks ls (merge files (merge environment caller))) :
    settle homes files environment caller = .ok s ↔
      (∀ l ∈ ls, firstExtra l = none) ∧
      ∀ (α : Type) (f : Field α), f.Reads homes (ls.findSome? f.raw?) s := by
  rw [settle_eq_ok_iff_checkSettings, checkSettings_eq_ok_iff, h.extra]
  constructor
  · rintro ⟨_, reads, extra⟩
    exact ⟨extra, fun α f => (f.reads_congr (h.raw f)).mp (reads α f)⟩
  · rintro ⟨extra, reads⟩
    refine ⟨fun name hn v hv => ?_, fun α f => (f.reads_congr (h.raw f)).mpr (reads α f), extra⟩
    obtain ⟨fields, rfl, _⟩ := (h.proper name hn).2 v hv
    exact ⟨fields, rfl⟩

/-- Layers that can be read are settled. -/
theorem load_of_layers? {src : Sources} {workspace : Option FilePath} {given : Entries}
    {ls : List Entries} (hl : layers? src workspace given = some ls)
    (proper : ∀ l ∈ ls, Proper l) :
    ∃ files environment, Stacks ls (merge files (merge environment (callerLayer given))) ∧
      (load src workspace given).result =
        settle src.files.homes files environment (callerLayer given) := by
  obtain ⟨environment, below, files, he, hf, rfl⟩ := layers?_eq_some_iff.mp hl
  have above : Stacks [callerLayer given, environment] (merge environment (callerLayer given)) :=
    (Stacks.one (proper _ (by simp))).merge (.one (proper _ (by simp)))
  have files' : Stacks below files :=
    hf.stacks fun l h => proper l (List.mem_cons_of_mem _ (List.mem_cons_of_mem _ h))
  refine ⟨files, environment, above.merge files', ?_⟩
  rw [load_result, fileMapping_eq_ok_iff.mpr ⟨below, hf⟩]
  simp [bind, Except.bind, assemble, he]

/-- When layers make a configuration, and which one. -/
theorem load_eq_ok_iff {src : Sources} {workspace : Option FilePath} {given : Entries}
    {ls : List Entries} {s : Settings} (hl : layers? src workspace given = some ls)
    (proper : ∀ l ∈ ls, Proper l) :
    (load src workspace given).result = .ok s ↔
      (∀ l ∈ ls, firstExtra l = none) ∧
      ∀ (α : Type) (f : Field α), f.Reads src.files.homes (ls.findSome? f.raw?) s := by
  obtain ⟨files, environment, alike, result⟩ := load_of_layers? hl proper
  rw [result]
  exact settle_eq_ok_iff alike

/-- A configuration is made from layers that can all be read. -/
theorem layers?_of_load {src : Sources} {workspace : Option FilePath} {given : Entries}
    {s : Settings} (h : (load src workspace given).result = .ok s) :
    ∃ ls, layers? src workspace given = some ls := by
  rw [load_result, bind_eq_ok] at h
  obtain ⟨files, hf, h⟩ := h
  obtain ⟨below, hf⟩ := fileMapping_eq_ok_iff.mp hf
  unfold assemble at h
  split at h
  · cases h
  next environment he => exact ⟨_, layers?_eq_some_iff.mpr ⟨environment, below, files, he, hf, rfl⟩⟩

/-- Without a workspace only the user's file matters of all files. -/
theorem load_congr_files {src : Sources} {files : FileSystem} {given : Entries}
    (user : readMapping files src.userFile = readMapping src.files src.userFile)
    (homes : files.homes = src.files.homes) :
    load { src with files } none given = load src none given := by
  simp [load, user, assemble, homes]

/-- Every field of a loaded configuration is the checked form of what stands in the highest
layer that has the field, and its default if none has; without a workspace there are no layers
but the caller's, the environment and the user's file, and of the files only that one counts. -/
theorem field_from_highest_layer {src : Sources} {workspace : Option FilePath} {given : Entries}
    {s : Settings} (single : Single given)
    (mappings : ∀ ls, layers? src workspace given = some ls → ∀ l ∈ ls, SectionsAreMappings l)
    (h : (load src workspace given).result = .ok s) :
    (∃ ls, layers? src workspace given = some ls ∧
      ∀ (α : Type) (f : Field α), f.Reads src.files.homes (ls.findSome? f.raw?) s) ∧
    (workspace = none → ∀ files : FileSystem,
      readMapping files src.userFile = readMapping src.files src.userFile →
      files.homes = src.files.homes →
      load { src with files } none given = load src none given) := by
  obtain ⟨ls, hl⟩ := layers?_of_load h
  have proper : ∀ l ∈ ls, Proper l := fun l => proper_of_layers? hl single (mappings ls hl)
  exact ⟨⟨ls, hl, ((load_eq_ok_iff hl proper).mp h).2⟩, fun _ _ => load_congr_files⟩

/-- An environment that names a linter, and no file. -/
def environmentOnly : Sources where
  files := .empty
  userFile := ⟨1, ["global.yaml".toList]⟩
  environment := [("LUTELS__LINT__EXECUTABLE_PATH", "/usr/bin/lute")]

/-- What the caller gives over it: another linter and one language. -/
def givenLinter : Entries :=
  [(.text "lint", .map [(.text "executable_path", .text "/opt/lute"),
    (.text "languages", .list [.text "luau"])])]

theorem environmentLayer_environmentOnly :
    environmentLayer environmentOnly.environment sections =
      .ok [(.text "lint", .map [(.text "executable_path", .text "/usr/bin/lute")])] := by
  have names : lowered environmentOnly.environment =
      [("lutels__lint__executable_path", "/usr/bin/lute")] := by decide +kernel
  have logging : Text.dropLead? (variableLead ++ "logging" ++ "__").toList
      "lutels__lint__executable_path".toList = none := by decide +kernel
  have lint : Text.dropLead? (variableLead ++ "lint" ++ "__").toList
      "lutels__lint__executable_path".toList = some "executable_path".toList := by decide +kernel
  have path : (splitNested [] "executable_path".toList).map String.ofList =
      ["executable_path"] := by decide +kernel
  have noList : endsAtList "lint" ["executable_path"] = false := by decide +kernel
  have alone : ∀ name ∈ sections, Assoc.get? [("lutels__lint__executable_path", "/usr/bin/lute")]
      (variableLead ++ name) = none := by decide +kernel
  have lower : "executable_path".toLower = "executable_path" := by decide +kernel
  have listed : (sectionFields "lint").find? (fun f => f.1 = "executable_path") =
      some ("executable_path", false) := by decide +kernel
  have renamed : renameFields "lint" [(.text "executable_path", .text "/usr/bin/lute")] =
      [(.text "executable_path", .text "/usr/bin/lute")] := by
    simp [renameFields, lower, listed, Entries.put]
  simp only [environmentLayer, sections, sectionValue, names, plantAll, logging, lint, path, noList,
    alone "logging" (by simp [sections]), alone "lint" (by simp [sections]), Bool.false_and,
    Bool.false_eq_true, if_false, plant, Entries.put, renamed, Except.map]

/-- The caller decides where both name a linter, and the environment where only it does. -/
theorem caller_over_environment :
    ∃ ls s, layers? environmentOnly none givenLinter = some ls ∧
      (load environmentOnly none givenLinter).result = .ok s ∧
      (∀ (α : Type) (f : Field α),
        f.Reads environmentOnly.files.homes (ls.findSome? f.raw?) s) := by
  have settled : (load environmentOnly none givenLinter).result =
      .ok ⟨.default, ⟨"/opt/lute", "", none, none, ["luau"], none⟩⟩ :=
    toOption_eq_some_iff.mp (by decide +kernel)
  have single : Single givenLinter :=
    single_one (@Entries.Distinct.record [("executable_path", _), ("languages", _)] (by decide))
  have mappings : ∀ ls, layers? environmentOnly none givenLinter = some ls →
      ∀ l ∈ ls, SectionsAreMappings l := by
    have absent : environmentOnly.files.exists_ environmentOnly.userFile = .ok false := by
      decide +kernel
    have noUser : readMapping environmentOnly.files environmentOnly.userFile = .ok [] := by
      rw [readMapping, absent]
    have caller : callerLayer givenLinter = givenLinter :=
      callerLayer_one (by simp [sections]) _
    intro ls hl
    simp only [layers?, workspaceLayers?, noUser, environmentLayer_environmentOnly, caller,
      Except.toOption, Option.bind_some, Option.map_some, Option.some.injEq] at hl
    subst hl
    simp only [List.nil_append, List.forall_mem_cons]
    exact ⟨sectionsAreMappings_one, sectionsAreMappings_one, sectionsAreMappings_nil, by simp⟩
  obtain ⟨⟨ls, hl, reads⟩, _⟩ := field_from_highest_layer single mappings settled
  exact ⟨ls, _, hl, settled, reads⟩

end LintBridge.Config
