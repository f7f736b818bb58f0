import LintBridge.Server
import LintBridge.Proofs.Checked
/-!
The folders of a workspace as paths and as texts. An absolute path that was taken from a text is
taken again from its own text, so that a folder that is named in a record is the folder itself.
-/
namespace LintBridge

namespace Text

variable {sep : Char}

theorem not_mem_split {s piece : List Char} (h : piece ∈ split sep s) : sep ∉ piece := by
  induction s generalizing piece with
  | nil =>
    obtain rfl := List.mem_singleton.mp h
    simp
  | cons c s ih =>
    rw [split] at h
    split at h
    · rcases List.mem_cons.mp h with rfl | h
      · simp
      · exact ih h
    next other =>
      split at h
      next first more hs =>
        rw [hs] at ih
        rcases List.mem_cons.mp h with rfl | h
        · have := ih List.mem_cons_self
          simpa [Ne.symm other] using this
        · exact ih (List.mem_cons_of_mem _ h)
      next hs => exact absurd hs (split_ne_nil _ _)

theorem split_of_not_mem {s : List Char} (h : sep ∉ s) : split sep s = [s] := by
  induction s with
  | nil => rfl
  | cons c s ih =>
    obtain ⟨hc, hs⟩ : c ≠ sep ∧ sep ∉ s := by simpa [eq_comm, not_or] using h
    rw [split, if_neg hc, ih hs]

theorem split_append {piece s : List Char} (h : sep ∉ piece) :
    split sep (piece ++ sep :: s) = piece :: split sep s := by
  induction piece with
  | nil => simp [split]
  | cons c piece ih =>
    obtain ⟨hc, hp⟩ : c ≠ sep ∧ sep ∉ piece := by simpa [eq_comm, not_or] using h
    rw [List.cons_append, split, if_neg hc, ih hp]

/-- Joining more pieces only adds to the text. -/
theorem joinWith_prefix_append (sep : List Char) (pieces more : List (List Char)) :
    joinWith sep pieces <+: joinWith sep (pieces ++ more) := by
  induction pieces with
  | nil => exact List.nil_prefix
  | cons piece rest ih =>
    cases rest with
    | nil =>
      cases more with
      | nil => exact List.prefix_refl _
      | cons next more =>
        rw [List.singleton_append, joinWith_cons_cons, List.append_assoc]
        exact List.prefix_append _ _
    | cons next rest =>
      rw [List.cons_append, List.cons_append, joinWith_cons_cons, joinWith_cons_cons]
      exact (List.prefix_append_right_inj _).mpr ih

/-- Pieces are found again between their separators. -/
theorem split_joinWith {pieces : List (List Char)} (filled : pieces ≠ [])
    (clean : ∀ piece ∈ pieces, sep ∉ piece) : split sep (joinWith [sep] pieces) = pieces := by
  induction pieces with
  | nil => exact absurd rfl filled
  | cons piece more ih =>
    obtain ⟨hp, hm⟩ := List.forall_mem_cons.mp clean
    cases more with
    | nil => exact split_of_not_mem hp
    | cons next more =>
      rw [joinWith, List.append_assoc, List.singleton_append, split_append hp, ih (by simp) hm]
      simp

end Text

namespace FilePath

open LintBridge.Path

/-- A path as it is taken from a text. -/
structure Normal (p : FilePath) : Prop where
  slashes : p.slashes ≤ 2
  parts : ∀ c ∈ p.parts, c ≠ [] ∧ c ≠ ['.'] ∧ '/' ∉ c

theorem normal_ofText (s : String) : (ofText s).Normal where
  slashes := by
    unfold ofText rootSlashes
    dsimp only
    split <;> decide
  parts c hc := by
    obtain ⟨piece, meaning⟩ := List.mem_filter.mp hc
    simp only [Bool.and_eq_true, Bool.not_eq_true', List.isEmpty_eq_false_iff,
      decide_eq_true_eq] at meaning
    exact ⟨meaning.1, meaning.2, Text.not_mem_split piece⟩

theorem components_slash (s : List Char) : components ('/' :: s) = components s := by
  simp [components, Text.split]

theorem components_joinWith {parts : List (List Char)}
    (h : ∀ c ∈ parts, c ≠ [] ∧ c ≠ ['.'] ∧ '/' ∉ c) :
    components (Text.joinWith ['/'] parts) = parts := by
  cases parts with
  | nil => rfl
  | cons part parts =>
    unfold components
    rw [Text.split_joinWith (by simp) fun c hc => (h c hc).2.2, List.filter_eq_self]
    intro c hc
    simp [(h c hc).1, (h c hc).2.1]

/-- Components begin with no slash. -/
theorem joinWith_noSlash {parts : List (List Char)}
    (h : ∀ c ∈ parts, c ≠ [] ∧ c ≠ ['.'] ∧ '/' ∉ c) :
    ∀ ch ∈ (Text.joinWith ['/'] parts).head?, ch ≠ '/' := by
  cases parts with
  | nil => simp [Text.joinWith]
  | cons part parts =>
    obtain ⟨filled, -, clean⟩ := h part List.mem_cons_self
    obtain ⟨ch, part, rfl⟩ := List.exists_cons_of_ne_nil filled
    have apart : ch ≠ '/' := fun same => clean (same ▸ List.mem_cons_self)
    cases parts <;> simpa [Text.joinWith] using apart

theorem ofText_text {p : FilePath} (normal : p.Normal) (absolute : p.isAbsolute = true) :
    ofText p.text = p := by
  obtain ⟨slashes, parts⟩ := p
  obtain ⟨few, clean⟩ := normal
  have first := joinWith_noSlash clean
  have again := components_joinWith clean
  have some_ : slashes ≠ 0 := by simpa [isAbsolute] using absolute
  dsimp only at few clean
  generalize hj : Text.joinWith ['/'] parts = body at first again
  obtain rfl | rfl : slashes = 1 ∨ slashes = 2 := by omega
  · have slash : rootSlashes ('/' :: body) = 1 := by
      rw [rootSlashes]
      · rintro tail rfl
        exact absurd rfl (first '/' rfl)
      · rintro tail rfl
        exact absurd rfl (first '/' rfl)
    simp [ofText, text, assemble, hj, slash, components_slash, again]
  · have slash : rootSlashes ('/' :: '/' :: body) = 2 := by
      rw [rootSlashes]
      rintro tail rfl
      exact first '/' rfl rfl
    simp [ofText, text, assemble, hj, List.replicate, slash, components_slash, again]

end FilePath

namespace Server

/-- The folders of a server are taken from texts. -/
theorem normal_of_roots {s : Server} {roots : List FilePath} (h : s.roots = .ok roots) :
    ∀ root ∈ roots, root.Normal := by
  have folder {uri : String} {root : FilePath} (hr : folderRoot? uri = .ok (some root)) :
      root.Normal := by
    unfold folderRoot? at hr
    split at hr
    · cases hr
    · cases hr
    next path _ =>
      have given := Except.ok.inj hr
      split at given
      · cases given
      · cases given
        exact FilePath.normal_ofText path
  have listed {uris : List String} {found : List (Option FilePath)}
      (hm : uris.mapM folderRoot? = .ok found) : ∀ root ∈ found.filterMap id, root.Normal := by
    induction uris generalizing found with
    | nil =>
      cases hm
      simp
    | cons uri uris ih =>
      rw [List.mapM_cons, bind_eq_ok] at hm
      obtain ⟨first, hf, hm⟩ := hm
      obtain ⟨more, hr, hm⟩ := bind_eq_ok.mp hm
      cases hm
      cases first with
      | none => simpa using ih hr
      | some root =>
        rw [List.filterMap_cons_some (f := id) (b := root) rfl]
        exact List.forall_mem_cons.mpr ⟨folder hf, ih hr⟩
  unfold Server.roots at h
  obtain ⟨found, hm, h⟩ := bind_eq_ok.mp h
  split at h
  next path _ _ =>
    cases h
    split
    · simp
    · intro root hr
      rw [List.mem_singleton.mp hr]
      exact FilePath.normal_ofText path
  next =>
    cases h
    exact listed hm

end Server
end LintBridge
