import LintBridge.Proofs.FileUris
import LintBridge.Proofs.RulePaths
/-!
The folder of a document. A folder holds a path if its components are the path's first ones, which
is more than that its text is the beginning of the path's (`FilePath.steps_prefix_iff`). The folder
of a document is the first one that holds its path, whatever characters the path has
(`Session.first_enclosing_folder`).
-/
namespace LintBridge

namespace Text

theorem joinWith_append {sep : List Char} {pieces more : List (List Char)} (filled : pieces ≠ [])
    (filled' : more ≠ []) :
    joinWith sep (pieces ++ more) = joinWith sep pieces ++ (sep ++ joinWith sep more) := by
  induction pieces with
  | nil => exact absurd rfl filled
  | cons piece pieces ih =>
    cases pieces with
    | nil =>
      obtain ⟨next, more, rfl⟩ := List.exists_cons_of_ne_nil filled'
      rw [List.singleton_append, joinWith_cons_cons, List.append_assoc]
      rfl
    | cons next pieces =>
      have later := ih (by simp)
      rw [List.cons_append] at later
      rw [List.cons_append, List.cons_append, joinWith_cons_cons, later, joinWith_cons_cons]
      simp

end Text

namespace FilePath

open LintBridge.Path

/-- The components by which paths are compared, the leading slashes of an absolute one first. -/
def steps (p : FilePath) : List (List Char) :=
  if p.isAbsolute then List.replicate p.slashes '/' :: p.parts else p.parts

/-- Does a folder hold a path? -/
theorem isUnder_iff {p root : FilePath} (absolute : p.isAbsolute = true)
    (absolute' : root.isAbsolute = true) : p.isUnder root = true ↔ root.steps <+: p.steps := by
  rw [steps, steps, if_pos absolute, if_pos absolute', List.cons_prefix_cons, isUnder,
    Bool.and_eq_true, List.isPrefixOf_iff_prefix, decide_eq_true_iff]
  refine and_congr_left fun _ => ?_
  constructor
  · exact fun same => by rw [same]
  · exact fun same => by simpa using (congrArg List.length same).symm

theorem toList_text {p : FilePath} (single : p.slashes = 1) :
    p.text.toList = '/' :: Text.joinWith ['/'] p.parts := by
  simp [text, assemble, single]

theorem components_text {p : FilePath} (normal : p.Normal) (absolute : p.isAbsolute = true) :
    components p.text.toList = p.parts :=
  congrArg FilePath.parts (ofText_text normal absolute)

/-- A folder holds itself and, as the root does anyway, everything whose text goes on with a slash
after its own; that one text begins the other is not enough. -/
theorem steps_prefix_iff {p root : FilePath} (normal : p.Normal) (normal' : root.Normal)
    (single : p.slashes = 1) (single' : root.slashes = 1) :
    root.steps <+: p.steps ↔
      p = root ∨ root.parts = [] ∨ root.text.toList ++ ['/'] <+: p.text.toList := by
  have absolute : p.isAbsolute = true := by simp [isAbsolute, single]
  have absolute' : root.isAbsolute = true := by simp [isAbsolute, single']
  have parts : root.steps <+: p.steps ↔ root.parts <+: p.parts := by
    simp [steps, absolute, absolute', single, single', List.cons_prefix_cons]
  rw [parts]
  constructor
  · rintro ⟨more, split⟩
    by_cases top : root.parts = []
    · exact .inr (.inl top)
    by_cases same : more = []
    · refine .inl ?_
      obtain ⟨slashes, names⟩ := p
      obtain ⟨slashes', names'⟩ := root
      simp_all
    · refine .inr (.inr ⟨Text.joinWith ['/'] more, ?_⟩)
      rw [toList_text single, toList_text single', ← split, Text.joinWith_append top same]
      simp
  · rintro (rfl | top | ⟨rest, split⟩)
    · exact List.prefix_refl _
    · rw [top]
      exact List.nil_prefix
    · have names := congrArg components split
      rw [List.append_assoc, List.singleton_append, components_append_slash,
        components_text normal absolute, components_text normal' absolute'] at names
      exact ⟨_, names⟩

end FilePath

namespace Uri

/-- A scheme begins with a letter, and its other characters are letters, digits and three marks. -/
structure IsScheme (s : List Char) : Prop where
  letter : ∃ c rest, s = c :: rest ∧ c.isAlpha = true
  chars : ∀ c ∈ s, isSchemeChar c = true

theorem toNat_of_isSchemeChar {c : Char} (h : isSchemeChar c = true) : c.toNat < 128 := by
  unfold isSchemeChar Char.isAlphanum Char.isAlpha Char.isUpper Char.isLower Char.isDigit at h
  simp only [Bool.or_eq_true, Bool.and_eq_true, decide_eq_true_eq] at h
  have bounded {top : UInt32} (le : c.val ≤ top) (low : top.toNat < 128) : c.toNat < 128 :=
    Nat.lt_of_le_of_lt (UInt32.le_iff_toNat_le.mp le) low
  rcases h with (((((⟨-, upper⟩ | ⟨-, lower⟩) | ⟨-, digit⟩) | rfl) | rfl) | rfl)
  · exact bounded upper (by decide)
  · exact bounded lower (by decide)
  · exact bounded digit (by decide)
  all_goals decide

/-- A character of a scheme, as it is written and in lower case. -/
theorem schemeChar_spec {c : Char} (h : isSchemeChar c = true) :
    32 < c.toNat ∧ c ≠ ':' ∧ c ≠ '\t' ∧ c ≠ '\n' ∧ c ≠ '\r' ∧ isAscii c.toLower = true ∧
      c.toLower ≠ '%' := by
  have every : ∀ n : Fin 128, isSchemeChar (Char.ofNat n) = true → 32 < (Char.ofNat n).toNat ∧
      Char.ofNat n ≠ ':' ∧ Char.ofNat n ≠ '\t' ∧ Char.ofNat n ≠ '\n' ∧ Char.ofNat n ≠ '\r' ∧
      isAscii (Char.ofNat n).toLower = true ∧ (Char.ofNat n).toLower ≠ '%' := by decide +kernel
  have own := every ⟨c.toNat, toNat_of_isSchemeChar h⟩
  rw [Char.ofNat_toNat] at own
  exact own h

/-- A URI with a scheme is cut after it. -/
theorem splitScheme_scheme {scheme : List Char} (h : IsScheme scheme) (rest : List Char) :
    splitScheme (scheme ++ ':' :: rest) = (scheme.map Char.toLower, rest) := by
  have apart : ∀ c ∈ scheme, (decide (c ≠ ':')) = true := fun c hc =>
    decide_eq_true (schemeChar_spec (h.chars c hc)).2.1
  have front : (scheme ++ ':' :: rest).takeWhile (· ≠ ':') = scheme := by
    rw [List.takeWhile_append_of_pos apart]
    simp
  have back : (scheme ++ ':' :: rest).dropWhile (· ≠ ':') = ':' :: rest := by
    rw [List.dropWhile_append_of_pos apart]
    simp
  obtain ⟨c, tail, rfl, letter⟩ := h.letter
  have all : (c :: tail).all isSchemeChar = true := List.all_eq_true.mpr h.chars
  simp only [splitScheme, front, back, letter, all, Bool.and_self, if_true]

theorem scheme_parts {scheme : List Char} (h : IsScheme scheme) (rest : List Char) :
    (parts (String.ofList (scheme ++ ':' :: rest))).scheme = scheme.map Char.toLower := by
  have kept : ((scheme ++ ':' :: rest).dropWhile fun c => c.toNat ≤ 32).filter
      (fun c => c ≠ '\t' && c ≠ '\n' && c ≠ '\r') =
        scheme ++ ':' :: rest.filter (fun c => c ≠ '\t' && c ≠ '\n' && c ≠ '\r') := by
    obtain ⟨c, tail, rfl, -⟩ := h.letter
    have first := (schemeChar_spec (h.chars c List.mem_cons_self)).1
    have whole : (c :: tail).filter (fun c => c ≠ '\t' && c ≠ '\n' && c ≠ '\r') = c :: tail := by
      rw [List.filter_eq_self]
      intro d hd
      obtain ⟨-, -, tab, feed, return_, -⟩ := schemeChar_spec (h.chars d hd)
      simp [tab, feed, return_]
    rw [List.cons_append, List.dropWhile_cons_of_neg (by simpa using first), ← List.cons_append,
      List.filter_append, whole]
    rfl
  unfold parts
  rw [String.toList_ofList, kept]
  dsimp only
  rw [splitScheme_scheme h]

theorem unescape_of_not_mem {s : List Char} (plain : '%' ∉ s) :
    unescape s = s.map fun c => UInt8.ofNat c.toNat := by
  induction s with
  | nil => rfl
  | cons c s ih =>
    obtain ⟨hc, hs⟩ : '%' ≠ c ∧ '%' ∉ s := by simpa using plain
    rw [unescape, ih hs]
    · rfl
    · rintro - - - same -
      exact hc same.symm

/-- Nothing in a scheme is an escape. -/
theorem decodeEscapes_scheme {scheme : List Char} (h : IsScheme scheme) :
    decodeEscapes (scheme.map Char.toLower) = scheme.map Char.toLower := by
  have spec : ∀ c ∈ scheme.map Char.toLower, isAscii c = true ∧ c ≠ '%' := by
    intro c hc
    obtain ⟨d, hd, rfl⟩ := List.mem_map.mp hc
    exact (schemeChar_spec (h.chars d hd)).2.2.2.2.2
  have undone : unescape (scheme.map Char.toLower) =
      Text.Utf8.encode (String.ofList (scheme.map Char.toLower)) := by
    rw [unescape_of_not_mem fun mem => (spec _ mem).2 rfl,
      encode_ascii fun c hc => of_decide_eq_true (spec c hc).1]
  simpa using decodeEscapes_of_unescape (fun c hc => (spec c hc).1) undone

/-- A URI of another scheme names no path. -/
theorem filePath?_of_scheme {scheme : List Char} (h : IsScheme scheme)
    (other : scheme.map Char.toLower ≠ "file".toList) (rest : List Char) :
    filePath? (String.ofList (scheme ++ ':' :: rest)) = none := by
  unfold filePath?
  dsimp only
  rw [scheme_parts h, decodeEscapes_scheme h, if_pos other]

/-- A path begins like one with a drive if its first component does. -/
theorem beginsLikeDrive_text {p : FilePath} (normal : p.Normal) (single : p.slashes = 1)
    (noDrive : ∀ letter rest, letter.isAlpha = true →
      p.parts.head? ≠ some (letter :: ':' :: rest)) :
    beginsLikeDrive p.text.toList = false := by
  rw [FilePath.toList_text single]
  cases first : p.parts with
  | nil => rfl
  | cons part parts =>
    obtain ⟨filled, -, clean⟩ := normal.parts part (first ▸ List.mem_cons_self)
    rcases part with - | ⟨c, - | ⟨d, part⟩⟩
    · exact absurd rfl filled
    · cases parts <;> rfl
    · rw [Text.joinWith_cons_char, Text.joinWith_cons_char]
      by_cases colon : d = ':'
      · subst colon
        have plain := noDrive c part
        rw [first] at plain
        simpa [beginsLikeDrive] using fun letter => plain letter rfl
      · unfold beginsLikeDrive
        split
        next same => simp_all
        next => rfl

end Uri

namespace Session

/-- The folder of a document at a path is the first one that holds the path. -/
theorem rootFor_ofPath (roots : List FilePath) {p : FilePath} (normal : p.Normal)
    (single : p.slashes = 1)
    (noDrive : ∀ letter rest, letter.isAlpha = true →
      p.parts.head? ≠ some (letter :: ':' :: rest)) :
    rootFor roots (Uri.ofPath p.text) = .ok (roots.find? fun root => p.isUnder root) := by
  have slash : Path.isAbsolute p.text.toList = true := by
    rw [FilePath.toList_text single]
    rfl
  have filled : p.text.isEmpty = false := by simpa using p.text_ne_empty
  rw [rootFor, Uri.checkedPath?_ofPath slash (Uri.beginsLikeDrive_text normal single noDrive)]
  simp only [filled, Bool.false_eq_true, if_false,
    FilePath.ofText_text normal (by simp [FilePath.isAbsolute, single])]

/-- A document whose address has another scheme has no folder, if its host can be read. -/
theorem rootFor_of_scheme (roots : List FilePath) {scheme : List Char} (h : Uri.IsScheme scheme)
    (other : scheme.map Char.toLower ≠ "file".toList) (rest : List Char) :
    rootFor roots (String.ofList (scheme ++ ':' :: rest)) =
      match Uri.hostFault? (Uri.parts (String.ofList (scheme ++ ':' :: rest))).authority with
      | none => .ok none
      | some fault => .error (.host fault) := by
  unfold rootFor Uri.checkedPath?
  cases Uri.hostFault? (Uri.parts (String.ofList (scheme ++ ':' :: rest))).authority with
  | none =>
    dsimp only
    rw [Uri.filePath?_of_scheme h other]
  | some fault => rfl

/-- The folder of a document is the first one in the list whose components are the first ones of the
document's path, and there is none if no folder's are. Of texts this means that the folder's own
text is the path's, or is followed by a slash in it. A document whose address has another scheme and
a readable host has no folder. -/
theorem first_enclosing_folder {roots : List FilePath} {p : FilePath}
    (absolute : ∀ root ∈ roots, root.isAbsolute = true) (normal : p.Normal)
    (single : p.slashes = 1)
    (noDrive : ∀ letter rest, letter.isAlpha = true →
      p.parts.head? ≠ some (letter :: ':' :: rest)) :
    (∃ folder, rootFor roots (Uri.ofPath p.text) = .ok folder ∧
      (∀ root, folder = some root ↔ ∃ before after, roots = before ++ root :: after ∧
        root.steps <+: p.steps ∧ ∀ other ∈ before, ¬ other.steps <+: p.steps) ∧
      (folder = none ↔ ∀ root ∈ roots, ¬ root.steps <+: p.steps)) ∧
    (∀ root : FilePath, root.Normal → root.slashes = 1 → (root.steps <+: p.steps ↔
      p = root ∨ root.parts = [] ∨ root.text.toList ++ ['/'] <+: p.text.toList)) ∧
    ∀ scheme rest, Uri.IsScheme scheme → scheme.map Char.toLower ≠ "file".toList →
      Uri.hostFault? (Uri.parts (String.ofList (scheme ++ ':' :: rest))).authority = none →
      rootFor roots (String.ofList (scheme ++ ':' :: rest)) = .ok none := by
  have rooted : p.isAbsolute = true := by simp [FilePath.isAbsolute, single]
  have holds : ∀ root ∈ roots, (p.isUnder root = true ↔ root.steps <+: p.steps) :=
    fun root mem => FilePath.isUnder_iff rooted (absolute root mem)
  refine ⟨⟨_, rootFor_ofPath roots normal single noDrive, fun root => ?_, ?_⟩,
    fun root normal' single' => FilePath.steps_prefix_iff normal normal' single single', ?_⟩
  · rw [List.find?_eq_some_iff_append]
    constructor
    · rintro ⟨own, before, after, rfl, first⟩
      refine ⟨before, after, rfl, (holds root (by simp)).mp own, fun other mem inside => ?_⟩
      have out := first other mem
      rw [(holds other (by simp [mem])).mpr inside] at out
      cases out
    · rintro ⟨before, after, rfl, inside, first⟩
      refine ⟨(holds root (by simp)).mpr inside, before, after, rfl, fun other mem => ?_⟩
      rw [Bool.not_eq_true', Bool.eq_false_iff]
      exact fun own => first other mem ((holds other (by simp [mem])).mp own)
  · rw [List.find?_eq_none]
    exact forall₂_congr fun root mem => not_congr (holds root mem)
  · intro scheme rest h other readable
    rw [rootFor_of_scheme roots h other, readable]

/-- A folder whose text begins the path's is passed over, and characters that are escaped in the
address do not matter. -/
theorem folder_of_awkward_path :
    let roots := ["/ws", "/ws 2", "/ws 2/50%"].map FilePath.ofText
    let p := FilePath.ofText "/ws 2/50%/#é?.luau"
    (∀ root ∈ roots, root.isAbsolute = true) ∧ p.Normal ∧ p.slashes = 1 ∧
      rootFor roots (Uri.ofPath p.text) = .ok (some (FilePath.ofText "/ws 2")) ∧
      rootFor roots "untitled:Untitled-1" = .ok none := by
  intro roots p
  have absolute : ∀ root ∈ roots, root.isAbsolute = true := by decide +kernel
  have normal : p.Normal := FilePath.normal_ofText _
  have single : p.slashes = 1 := by decide +kernel
  have parts : p.parts = ["ws 2".toList, "50%".toList, "#é?.luau".toList] := by decide +kernel
  obtain ⟨⟨folder, told, chosen, -⟩, -, others⟩ :=
    first_enclosing_folder absolute normal single (by rw [parts]; simp)
  have first : folder = some (FilePath.ofText "/ws 2") := by
    refine (chosen _).mpr ⟨[FilePath.ofText "/ws"], [FilePath.ofText "/ws 2/50%"], rfl, ?_, ?_⟩
    · decide +kernel
    · decide +kernel
  refine ⟨absolute, normal, single, by rw [told, first], ?_⟩
  have scheme : Uri.IsScheme "untitled".toList :=
    ⟨⟨_, _, rfl, by decide⟩, List.all_eq_true.mp (by decide +kernel)⟩
  exact others "untitled".toList "Untitled-1".toList scheme (by decide +kernel) (by decide +kernel)

/-- An address of another scheme whose host cannot be read: the brackets around a host of a form to
come, which may begin with either letter `v` where addresses are defined, hold one that is taken for
an address of eight groups. -/
theorem unreadable_host_of_other_scheme :
    Uri.IsScheme "http".toList ∧ "http".toList.map Char.toLower ≠ "file".toList ∧
      rootFor [FilePath.ofText "/ws"]
          (String.ofList ("http".toList ++ ':' :: "//[V1.a]/ws/a.luau".toList)) =
        .error (.host (.noAddress "V1.a")) := by
  have scheme : Uri.IsScheme "http".toList :=
    ⟨⟨_, _, rfl, by decide⟩, List.all_eq_true.mp (by decide +kernel)⟩
  have other : "http".toList.map Char.toLower ≠ "file".toList := by decide +kernel
  have fault : Uri.hostFault? (Uri.parts
      (String.ofList ("http".toList ++ ':' :: "//[V1.a]/ws/a.luau".toList))).authority =
        some (.noAddress "V1.a") := by decide +kernel
  exact ⟨scheme, other, by rw [rootFor_of_scheme _ scheme other, fault]⟩

end Session
end LintBridge
