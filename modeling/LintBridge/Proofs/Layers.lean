import LintBridge.Config.Load
import LintBridge.Proofs.Merging
import LintBridge.Proofs.Fields
/-!
The layers that a configuration is made from, the highest first, and what every layer has in
common whatever file, variable or caller it comes from: no key stands in it twice, and none in
a mapping below it (`Single`).
-/
namespace LintBridge

open Value (Entries)

/-- No key of a mapping stands in it twice. -/
def Value.Entries.Distinct (es : Entries) : Prop := ∀ key, es.Once key

namespace Value.Entries.Distinct

theorem nil : Entries.Distinct [] := fun key => once_nil key

/-- An entry with a new key in front. -/
theorem cons {es : Entries} (h : es.Distinct) {k : Value} (v : Value)
    (fresh : ∀ e ∈ es, e.1.sameKey k = false) : Entries.Distinct ((k, v) :: es) := by
  intro key
  cases same : k.sameKey key with
  | false => exact (once_cons_of_not_sameKey same).mpr (h key)
  | true =>
    rw [once_cons_of_sameKey same]
    cases found : es.get? key with
    | none => rfl
    | some w =>
      obtain ⟨k', hm, hk⟩ := mem_of_get? found
      rw [Value.sameKey_comm] at same
      exact absurd (Value.sameKey_trans hk same) (by simp [fresh _ hm])

/-- The entries of a record. -/
theorem record {fields : List (String × Value)} (nodup : (fields.map Prod.fst).Nodup) :
    Entries.Distinct (fields.map fun f => (Value.text f.1, f.2)) := by
  induction fields with
  | nil => exact nil
  | cons f fields ih =>
    obtain ⟨fresh, nodup⟩ := List.nodup_cons.mp nodup
    refine (ih nodup).cons f.2 fun e he => ?_
    obtain ⟨f', hm, rfl⟩ := List.mem_map.mp he
    have other : f'.1 ≠ f.1 := fun same => fresh (same ▸ List.mem_map_of_mem hm)
    simpa [Value.sameKey] using other

theorem foldl_put {α : Type} (entry : α → Value × Value) (xs : List α) {es : Entries}
    (h : es.Distinct) : (xs.foldl (fun m x => m.put (entry x).1 (entry x).2) es).Distinct :=
  fun key => once_foldl_put entry xs (h key)

end Value.Entries.Distinct

namespace Yaml

/-- A timestamp is no mapping. -/
theorem timestampValue_ne_map {text : String} {es : Entries} :
    timestampValue text ≠ .ok (.map es) := by
  unfold timestampValue
  intro h
  split at h
  · cases h
  next t _ =>
    dsimp only at h
    split at h
    · cases hd : checkedDate (numberOf t.year) (numberOf t.month) (numberOf t.day) <;>
        rw [hd] at h <;> cases h
    · simp only [bind_eq_ok] at h
      obtain ⟨offset, _, date, _, h⟩ := h
      split_ifs at h <;> cases h

/-- No scalar is a mapping. -/
theorem scalarValue_ne_map {tag : Tag} {text : String} {es : Entries} :
    scalarValue tag text ≠ .ok (.map es) := by
  intro h
  unfold scalarValue at h
  split at h
  case h_2 => cases hb : boolValue text <;> rw [hb] at h <;> cases h
  case h_3 => cases hb : intValue text <;> rw [hb] at h <;> cases h
  case h_4 => cases hb : floatValue text <;> rw [hb] at h <;> cases h
  case h_5 => exact timestampValue_ne_map (mapError_eq_ok_iff.mp h)
  case h_7 => split_ifs at h; split at h <;> cases h
  all_goals cases h

theorem ofExcept_value_ne_map {r : Except LoadFault Value} {es : Entries}
    (h : r ≠ .ok (.map es)) : (Built.ofExcept r).value ≠ .map es := by
  cases r with
  | error f => exact fun h' => nomatch h'
  | ok v => exact fun h' => h (congrArg Except.ok h')

/-- The entries of a mapping are written one after the other. -/
theorem buildMapping_fst (bs : List (Built × Built)) :
    (buildMapping bs).1 = bs.foldl (fun m b => Entries.put m b.1.value b.2.value) [] :=
  (List.foldl_hom Prod.fst fun _ _ => rfl).symm

/-- A mapping is built from the entries of a node. -/
theorem build_eq_map {n : Node} {es : Entries} (h : n.build.value = .map es) :
    ∃ nodes, es = (buildMapping (buildEntries nodes)).1 := by
  cases n with
  | scalar tag text =>
    exfalso
    unfold Node.build at h
    split at h
    case h_6 => exact ofExcept_value_ne_map scalarValue_ne_map h
    all_goals cases h
  | sequence tag items =>
    exfalso
    unfold Node.build at h
    split at h <;> cases h
  | mapping tag nodes =>
    unfold Node.build at h
    split at h
    case h_1 =>
      cases h
      exact ⟨nodes, rfl⟩
    case h_6 =>
      split at h
      · exact (ofExcept_value_ne_map scalarValue_ne_map h).elim
      · cases h
    all_goals cases h

theorem build_distinct {n : Node} {es : Entries} (h : n.build.value = .map es) :
    es.Distinct := by
  obtain ⟨nodes, rfl⟩ := build_eq_map h
  rw [buildMapping_fst]
  exact Entries.Distinct.nil.foldl_put (fun b : Built × Built => (b.1.value, b.2.value)) _

/-- Every value of a mapping is built from a node. -/
theorem build_value {n : Node} {es : Entries} (h : n.build.value = .map es)
    {e : Value × Value} (he : e ∈ es) : ∃ n' : Node, e.2 = n'.build.value := by
  have built (nodes : List (Node × Node)) (b : Built × Built) (hb : b ∈ buildEntries nodes) :
      ∃ n' : Node, b.2 = n'.build := by
    induction nodes with
    | nil => simp [buildEntries] at hb
    | cons node nodes ih =>
      rw [buildEntries] at hb
      rcases List.mem_cons.mp hb with rfl | hb
      · exact ⟨node.2, by rw [buildEntry]⟩
      · exact ih hb
  have written (bs : List (Built × Built)) (m : Entries)
      (he : e ∈ bs.foldl (fun m b => Entries.put m b.1.value b.2.value) m) :
      (∃ b ∈ bs, e.2 = b.2.value) ∨ e ∈ m := by
    induction bs generalizing m with
    | nil => exact .inr he
    | cons b bs ih =>
      rcases ih _ he with ⟨b', hb', hv⟩ | hm
      · exact .inl ⟨b', List.mem_cons_of_mem _ hb', hv⟩
      · exact (Entries.mem_put hm).imp (fun hv => ⟨b, List.mem_cons_self, hv⟩) id
  obtain ⟨nodes, rfl⟩ := build_eq_map h
  rw [buildMapping_fst] at he
  rcases written _ _ he with ⟨b, hb, hv⟩ | he
  · obtain ⟨n', hn⟩ := built nodes b hb
    exact ⟨n', hv.trans (congrArg Built.value hn)⟩
  · exact absurd he List.not_mem_nil

end Yaml

namespace Config

open Value

/-- No key stands twice in a layer or in a mapping of it. -/
def Single (es : Entries) : Prop :=
  es.Distinct ∧ ∀ e ∈ es, ∀ fields, e.2 = .map fields → Entries.Distinct fields

theorem single_nil : Single [] := ⟨.nil, fun _ h => absurd h List.not_mem_nil⟩

theorem single_load {text : String} {es : Entries} (h : Yaml.load text = .ok (.map es)) :
    Single es := by
  unfold Yaml.load at h
  split at h
  · cases h
  · cases h
  · cases h
  next n _ =>
    dsimp only at h
    split at h
    · cases h
    · have value : n.spread.build.value = .map es := Except.ok.inj h
      refine ⟨Yaml.build_distinct value, fun e he fields hv => ?_⟩
      obtain ⟨n', hn⟩ := Yaml.build_value value he
      exact Yaml.build_distinct (hn.symm.trans hv)

/-- No key stands twice in the mapping of a text. -/
theorem single_mappingOf {path text : String} {es : Entries} (h : mappingOf path text = .ok es) :
    Single es := by
  unfold mappingOf at h
  split at h
  · cases h
  · cases h
  next loaded =>
    split at h
    · cases h
      exact single_nil
    · split at h
      · cases h
        exact single_load loaded
      · cases h

/-- No key stands twice in the mapping of a configuration file. -/
theorem single_readMapping {fs : FileSystem} {p : FilePath} {es : Entries}
    (h : readMapping fs p = .ok es) : Single es := by
  unfold readMapping at h
  split at h
  · cases h
  · cases h
    exact single_nil
  · split at h
    · cases h
    · exact single_mappingOf h

/-- The fields of a section that the environment sets. -/
theorem renameFields_distinct (name : String) (es : Entries) :
    (renameFields name es).Distinct := by
  unfold renameFields
  refine List.foldlRecOn (motive := Entries.Distinct) es _ .nil fun m h e _ => ?_
  obtain ⟨k, v⟩ := e
  dsimp only
  repeat' split
  all_goals exact fun key => (h key).put _ _

theorem sectionValue_distinct {env : Environment} {name : String} {fields : Entries}
    (h : sectionValue env name = .ok (some (.map fields))) : fields.Distinct := by
  unfold sectionValue at h
  dsimp only at h
  split at h
  case h_1 =>
    split at h <;> cases h
    exact renameFields_distinct name _
  case h_2 =>
    split at h
    case h_3 =>
      split at h <;> cases h
      exact renameFields_distinct name _
    case h_4 noMap _ =>
      cases h
      exact absurd rfl (noMap fields)
    all_goals cases h

/-- A section with a value is an entry, and one without is left out. -/
theorem environmentLayer_cons {env : Environment} {name : String} {rest : List String}
    {es : Entries} (h : environmentLayer env (name :: rest) = .ok es) :
    (sectionValue (lowered env) name = .ok none ∧ environmentLayer env rest = .ok es) ∨
    ∃ v below, sectionValue (lowered env) name = .ok (some v) ∧
      environmentLayer env rest = .ok below ∧ es = (.text name, v) :: below := by
  rw [environmentLayer] at h
  split at h
  · cases h
  next absent => exact .inl ⟨absent, h⟩
  next v found =>
    cases hr : environmentLayer env rest with
    | error e =>
      rw [hr] at h
      cases h
    | ok below =>
      rw [hr] at h
      cases h
      exact .inr ⟨v, below, found, rfl, rfl⟩

theorem environmentLayer_keys {env : Environment} {names : List String} {es : Entries}
    (h : environmentLayer env names = .ok es) {e : Value × Value} (he : e ∈ es) :
    ∃ name ∈ names, e.1 = .text name := by
  induction names generalizing es with
  | nil =>
    cases h
    exact absurd he List.not_mem_nil
  | cons name rest ih =>
    have later (es' : Entries) (h' : environmentLayer env rest = .ok es') (he' : e ∈ es') :
        ∃ other ∈ name :: rest, e.1 = .text other := by
      obtain ⟨other, hm, hk⟩ := ih h' he'
      exact ⟨other, List.mem_cons_of_mem _ hm, hk⟩
    obtain ⟨_, h'⟩ | ⟨v, below, _, h', rfl⟩ := environmentLayer_cons h
    · exact later es h' he
    · rcases List.mem_cons.mp he with rfl | he
      · exact ⟨name, List.mem_cons_self, rfl⟩
      · exact later below h' he

/-- The layer of the environment: a name that is still to come is none of the keys so far. -/
theorem single_environmentLayer {env : Environment} {names : List String} {es : Entries}
    (nodup : names.Nodup) (h : environmentLayer env names = .ok es) : Single es := by
  induction names generalizing es with
  | nil =>
    cases h
    exact single_nil
  | cons name rest ih =>
    obtain ⟨fresh, nodup⟩ := List.nodup_cons.mp nodup
    obtain ⟨_, h'⟩ | ⟨v, below, found, h', rfl⟩ := environmentLayer_cons h
    · exact ih nodup h'
    · obtain ⟨distinct, fields⟩ := ih nodup h'
      refine ⟨distinct.cons v fun e he => ?_, fun e he es hv => ?_⟩
      · obtain ⟨other, ho, hk⟩ := environmentLayer_keys h' he
        have apart : other ≠ name := fun same => fresh (same ▸ ho)
        simpa [hk, sameKey] using apart
      · rcases List.mem_cons.mp he with rfl | he
        · subst hv
          exact sectionValue_distinct found
        · exact fields e he es hv

/-- A layer of one section. -/
theorem single_one {name : String} {fields : Entries} (distinct : fields.Distinct) :
    Single [(.text name, .map fields)] := by
  refine ⟨Entries.Distinct.nil.cons _ (by simp), fun e he es hv => ?_⟩
  obtain rfl := List.mem_singleton.mp he
  exact Value.map.inj hv ▸ distinct

theorem sectionsAreMappings_nil : SectionsAreMappings [] := by
  intro name _ v hv
  cases hv

theorem sectionsAreMappings_one {name : String} {fields : Entries} :
    SectionsAreMappings [(.text name, .map fields)] := by
  intro other _ v hv
  obtain ⟨k, hm, _⟩ := Entries.mem_of_get? hv
  obtain ⟨_, rfl⟩ := Prod.mk.inj (List.mem_singleton.mp hm)
  exact ⟨fields, rfl⟩

/-- The layer of a state. -/
def stateLayer (s : RuntimeState) : Entries := [(.text "lint", s.toValue)]

theorem single_stateLayer (s : RuntimeState) : Single (stateLayer s) :=
  single_one (.record (by simp))

/-- The layers of a workspace, its own file above its state, if that file can be read. -/
def workspaceLayers? (files : FileSystem) : Option FilePath → Option (List Entries)
  | none => some []
  | some root =>
    (RuntimeState.load files (RuntimeState.path root)).toOption.bind fun state =>
      (readMapping files (workspaceFile root)).toOption.map fun own =>
        own :: (state.1.map stateLayer).toList

/-- The layers for a workspace or for none, the highest first, if all of them can be read. -/
def layers? (src : Sources) (workspace : Option FilePath) (given : Entries) :
    Option (List Entries) :=
  (readMapping src.files src.userFile).toOption.bind fun user =>
    (workspaceLayers? src.files workspace).bind fun below =>
      (environmentLayer src.environment sections).toOption.map fun environment =>
        callerLayer given :: environment :: (below ++ [user])

/-- The layers of files, the highest first, and the mapping that they make. -/
inductive FileLayers (src : Sources) : Option FilePath → List Entries → Entries → Prop
  | user {user : Entries} (hu : readMapping src.files src.userFile = .ok user) :
      FileLayers src none [user] user
  | workspace {root : FilePath} {user own : Entries} {state : Option RuntimeState}
      (hu : readMapping src.files src.userFile = .ok user)
      {events : List Log.Event}
      (hs : RuntimeState.load src.files (RuntimeState.path root) = .ok (state, events))
      (ho : readMapping src.files (workspaceFile root) = .ok own) :
      FileLayers src (some root) (own :: (state.map stateLayer).toList ++ [user])
        (fileLayers user state own)

theorem layers?_eq_some_iff {src : Sources} {workspace : Option FilePath} {given : Entries}
    {ls : List Entries} :
    layers? src workspace given = some ls ↔ ∃ environment below files,
      environmentLayer src.environment sections = .ok environment ∧
      FileLayers src workspace below files ∧ ls = callerLayer given :: environment :: below := by
  simp only [layers?, Option.bind_eq_some_iff, Option.map_eq_some_iff, toOption_eq_some_iff]
  constructor
  · rintro ⟨user, hu, below, hb, environment, he, rfl⟩
    cases workspace with
    | none =>
      cases hb
      exact ⟨environment, _, _, he, .user hu, rfl⟩
    | some root =>
      obtain ⟨⟨state, events⟩, hs, hb⟩ := Option.bind_eq_some_iff.mp hb
      obtain ⟨own, ho, rfl⟩ := Option.map_eq_some_iff.mp hb
      exact ⟨environment, _, _, he,
        .workspace hu (toOption_eq_some_iff.mp hs) (toOption_eq_some_iff.mp ho), rfl⟩
  · rintro ⟨environment, below, files, he, hf, rfl⟩
    cases hf with
    | user hu => exact ⟨_, hu, [], rfl, environment, he, rfl⟩
    | workspace hu hs ho =>
      refine ⟨_, hu, _, ?_, environment, he, rfl⟩
      exact Option.bind_eq_some_iff.mpr ⟨_, toOption_eq_some_iff.mpr hs,
        Option.map_eq_some_iff.mpr ⟨_, toOption_eq_some_iff.mpr ho, rfl⟩⟩

/-- The files of a workspace, or the user's file without one, as one mapping. -/
def fileMapping (src : Sources) : Option FilePath → Except Failure Entries
  | none => readMapping src.files src.userFile
  | some root => do
    let user ← readMapping src.files src.userFile
    let state ← (RuntimeState.load src.files (RuntimeState.path root)).mapError .system
    let own ← readMapping src.files (workspaceFile root)
    return fileLayers user state.1 own

theorem fileMapping_eq_ok_iff {src : Sources} {workspace : Option FilePath} {files : Entries} :
    fileMapping src workspace = .ok files ↔ ∃ below, FileLayers src workspace below files := by
  cases workspace with
  | none =>
    constructor
    · exact fun h => ⟨_, .user h⟩
    · rintro ⟨below, hf⟩
      cases hf with
      | user hu => exact hu
  | some root =>
    simp only [fileMapping, bind_eq_ok, mapError_eq_ok_iff]
    constructor
    · rintro ⟨user, hu, state, hs, own, ho, h⟩
      cases h
      exact ⟨_, .workspace hu hs ho⟩
    · rintro ⟨below, hf⟩
      cases hf with
      | workspace hu hs ho => exact ⟨_, hu, _, hs, _, ho, rfl⟩

/-- The files are read before anything else. -/
theorem load_result (src : Sources) (workspace : Option FilePath) (given : Entries) :
    (load src workspace given).result =
      fileMapping src workspace >>= fun files => assemble src files given := by
  unfold load fileMapping
  cases workspace with
  | none => cases readMapping src.files src.userFile <;> rfl
  | some root =>
    cases readMapping src.files src.userFile with
    | error f => rfl
    | ok user =>
      cases hs : RuntimeState.load src.files (RuntimeState.path root) with
      | error e =>
        simp only [hs, Except.mapError]
        rfl
      | ok state =>
        cases ho : readMapping src.files (workspaceFile root) <;>
          simp [hs, ho, Except.mapError] <;> rfl

/-- A layer with at most one entry for a section, in which no key stands twice if it is a
mapping. -/
def SingleAt (name : String) (es : Entries) : Prop :=
  es.Once (.text name) ∧ ∀ fields, es.field? name = some (.map fields) → Entries.Distinct fields

theorem Single.singleAt {es : Entries} (single : Single es) (name : String) : SingleAt name es := by
  refine ⟨single.1 _, fun fields hv => ?_⟩
  obtain ⟨k, hm, _⟩ := Entries.mem_of_get? hv
  exact single.2 _ hm fields rfl

/-- A layer with at most one entry for a section, and with a mapping there in which no key
stands twice. -/
def ProperAt (name : String) (es : Entries) : Prop :=
  es.Once (.text name) ∧
    ∀ v, es.field? name = some v → ∃ fields, v = .map fields ∧ Entries.Distinct fields

/-- A layer whose sections are such mappings. -/
def Proper (es : Entries) : Prop := ∀ name ∈ sections, ProperAt name es

theorem SingleAt.properAt {es : Entries} {name : String} (single : SingleAt name es)
    (mapping : ∀ v, es.field? name = some v → ∃ fields, v = .map fields) :
    ProperAt name es := by
  refine ⟨single.1, fun v hv => ?_⟩
  obtain ⟨fields, rfl⟩ := mapping v hv
  exact ⟨fields, rfl, single.2 fields hv⟩

theorem Single.properAt {es : Entries} (single : Single es) {name : String}
    (mapping : ∀ v, es.field? name = some v → ∃ fields, v = .map fields) :
    ProperAt name es :=
  (single.singleAt name).properAt mapping

theorem Single.proper {es : Entries} (single : Single es) (mappings : SectionsAreMappings es) :
    Proper es :=
  fun name hn => single.properAt (mappings name hn)

/-- A caller's layer holds values that the caller gave. -/
theorem mem_callerLayer {given : Entries} {e : Value × Value} (he : e ∈ callerLayer given) :
    ∃ e' ∈ given, e'.2 = e.2 := by
  unfold callerLayer at he
  rcases List.mem_append.mp he with he | he
  · obtain ⟨name, _, he⟩ := List.mem_filterMap.mp he
    split at he
    next v hv =>
      cases he
      obtain ⟨k, hm, _⟩ := Entries.mem_of_get? hv
      exact ⟨_, hm, rfl⟩
    next =>
      obtain ⟨e', found, rfl⟩ := Option.map_eq_some_iff.mp he
      exact ⟨e', List.mem_of_find?_eq_some found, rfl⟩
  · exact ⟨e, (List.mem_filter.mp he).1, rfl⟩

/-- Entries that stand for names have no more keys of a name than there are such names. -/
theorem countP_filterMap_le_count {named : String → Option (Value × Value)}
    (spelled : ∀ n e, named n = some e → e.1 = .text n) (names : List String) (name : String) :
    (names.filterMap named).countP (fun e => e.1.sameKey (.text name)) ≤ names.count name := by
  induction names with
  | nil => simp
  | cons n names ih =>
    cases hn : named n with
    | none =>
      rw [List.filterMap_cons_none hn]
      exact Nat.le_trans ih List.count_le_count_cons
    | some e =>
      rw [List.filterMap_cons_some hn, List.countP_cons, List.count_cons]
      have same : e.1.sameKey (.text name) = (n == name) := by
        simp [spelled n e hn, sameKey, beq_eq_decide]
      rw [same]
      omega

theorem toLower_of_mem_sections {name : String} (hn : name ∈ sections) : name.toLower = name := by
  obtain rfl | rfl : name = "logging" ∨ name = "lint" := by simpa [sections] using hn
  · decide +kernel
  · decide +kernel

/-- A caller that sets one section by its name has that for a layer. -/
theorem callerLayer_one {name : String} (hn : name ∈ sections) (v : Value) :
    callerLayer [(.text name, v)] = [(.text name, v)] := by
  have same := toLower_of_mem_sections hn
  obtain rfl | rfl : name = "logging" ∨ name = "lint" := by simpa [sections] using hn
  · simp [callerLayer, sections, Entries.field?, Entries.get?, sameKey, same]
  · simp [callerLayer, sections, Entries.field?, Entries.get?, sameKey, same]

theorem eq_text_of_sameKey {k : Value} {name : String} (h : k.sameKey (.text name) = true) :
    k = .text name := by
  cases k with
  | float x => cases hx : x.toInt? <;> simp [sameKey, key?, hx] at h
  | moment m => cases hm : m.offset <;> simp [sameKey, key?, hm] at h
  | _ => simp_all [sameKey, key?]

/-- The caller's layer has one entry for a section at most, however the caller spelled its name. -/
theorem once_callerLayer (given : Entries) {name : String} (hn : name ∈ sections) :
    (callerLayer given).Once (.text name) := by
  unfold callerLayer Entries.Once
  rw [List.countP_append]
  refine Nat.le_trans (Nat.add_le_add (countP_filterMap_le_count ?_ sections name)
    (Nat.le_of_eq (List.countP_eq_zero.mpr ?_))) (List.nodup_iff_count.mp (by decide) name)
  · intro n e hne
    split at hne
    next => exact (Option.some.inj hne) ▸ rfl
    next =>
      obtain ⟨_, _, rfl⟩ := Option.map_eq_some_iff.mp hne
      rfl
  · intro e he same
    obtain ⟨_, noSection⟩ := List.mem_filter.mp he
    dsimp only at noSection
    rw [eq_text_of_sameKey same] at noSection
    simp [toLower_of_mem_sections hn, hn] at noSection

theorem singleAt_callerLayer {given : Entries} (single : Single given) {name : String}
    (hn : name ∈ sections) : SingleAt name (callerLayer given) := by
  refine ⟨once_callerLayer given hn, fun fields hv => ?_⟩
  obtain ⟨k, hm, _⟩ := Entries.mem_of_get? hv
  obtain ⟨e, he, hv⟩ := mem_callerLayer hm
  exact single.2 e he fields hv

theorem FileLayers.single {src : Sources} {workspace : Option FilePath} {ls : List Entries}
    {files : Entries} (hf : FileLayers src workspace ls files) {l : Entries} (h : l ∈ ls) :
    Single l := by
  cases hf with
  | user hu =>
    obtain rfl := List.mem_singleton.mp h
    exact single_readMapping hu
  | workspace hu hs ho =>
    simp only [List.cons_append, List.mem_cons, List.mem_append, Option.mem_toList,
      Option.map_eq_some_iff, List.not_mem_nil, or_false] at h
    obtain rfl | ⟨s, _, rfl⟩ | rfl := h
    · exact single_readMapping ho
    · exact single_stateLayer s
    · exact single_readMapping hu

/-- The layers are proper ones if their sections are mappings. -/
theorem proper_of_layers? {src : Sources} {workspace : Option FilePath} {given : Entries}
    {ls : List Entries} (hl : layers? src workspace given = some ls) (single : Single given)
    (mappings : ∀ l ∈ ls, SectionsAreMappings l) {l : Entries} (h : l ∈ ls) : Proper l := by
  have hm := mappings l h
  obtain ⟨environment, below, files, he, hf, rfl⟩ := layers?_eq_some_iff.mp hl
  rcases List.mem_cons.mp h with rfl | h
  · exact fun name hn => (singleAt_callerLayer single hn).properAt (hm name hn)
  rcases List.mem_cons.mp h with rfl | h
  · exact (single_environmentLayer (by decide) he).proper hm
  · exact (hf.single h).proper hm

end Config
end LintBridge
