import LintBridge.RulePath
import LintBridge.Proofs.Folders
import LintBridge.Proofs.Turns
/-!
Rule paths seen from a workspace folder. A placeholder has no slash and a folder has no dollar
sign, so that neither the folders that are put in nor the evaluation of points can make a new
placeholder: a path that was resolved is absolute, and resolving it again changes nothing
(`RulePath.resolves_lexically`).
-/
namespace LintBridge

namespace Text

variable {s a b : List Char} {c sep : Char}

theorem prefix_append_cons_iff (apart : c ∉ s) : s <+: a ++ c :: b ↔ s <+: a := by
  induction a generalizing s with
  | nil => cases s <;> simp_all [List.cons_prefix_cons, eq_comm]
  | cons d a ih =>
    cases s with
    | nil => simp
    | cons e s => simp [List.cons_prefix_cons, ih (List.not_mem_of_not_mem_cons apart)]

/-- A text does not occur across a character that it does not have. -/
theorem infix_append_cons_iff (apart : c ∉ s) : s <:+: a ++ c :: b ↔ s <:+: a ∨ s <:+: b := by
  induction a with
  | nil =>
    have first := prefix_append_cons_iff (a := []) (b := b) apart
    rw [List.nil_append] at first
    rw [List.nil_append, List.infix_cons_iff, first]
    simp
  | cons d a ih =>
    have first := prefix_append_cons_iff (a := d :: a) (b := b) apart
    rw [List.cons_append] at first
    rw [List.cons_append, List.infix_cons_iff, List.infix_cons_iff, first, ih, or_assoc]

/-- A text does not begin within one that does not have its first character. -/
theorem infix_append_right_iff (apart : c ∉ a) : c :: s <:+: a ++ b ↔ c :: s <:+: b := by
  induction a with
  | nil => rfl
  | cons d a ih =>
    have other : c ≠ d := List.ne_of_not_mem_cons apart
    rw [List.cons_append, List.infix_cons_iff, ih (List.not_mem_of_not_mem_cons apart)]
    simp [List.cons_prefix_cons, other]

theorem joinWith_cons_char (sep : List Char) (c : Char) (piece : List Char)
    (more : List (List Char)) :
    joinWith sep ((c :: piece) :: more) = c :: joinWith sep (piece :: more) := by
  cases more <;> rfl

theorem prefix_joinWith (sep piece : List Char) (more : List (List Char)) :
    piece <+: joinWith sep (piece :: more) := by
  cases more with
  | nil => exact List.prefix_refl _
  | cons next more =>
    rw [joinWith_cons_cons, List.append_assoc]
    exact List.prefix_append _ _

/-- A text without the separator occurs within one of the pieces. -/
theorem exists_infix_of_joinWith (filled : s ≠ []) (apart : sep ∉ s) {pieces : List (List Char)}
    (h : s <:+: joinWith [sep] pieces) : ∃ piece ∈ pieces, s <:+: piece := by
  induction pieces with
  | nil => exact absurd (List.infix_nil.mp h) filled
  | cons piece more ih =>
    cases more with
    | nil => exact ⟨piece, List.mem_cons_self, h⟩
    | cons next more =>
      rw [joinWith_cons_cons, List.append_assoc, List.singleton_append,
        infix_append_cons_iff apart] at h
      obtain here | later := h
      · exact ⟨piece, List.mem_cons_self, here⟩
      · obtain ⟨found, mem, occurs⟩ := ih later
        exact ⟨found, List.mem_cons_of_mem _ mem, occurs⟩

/-- The pieces of a text occur in it. -/
theorem infix_of_mem_split {piece : List Char} (h : piece ∈ split sep s) : piece <:+: s := by
  induction s generalizing piece with
  | nil =>
    obtain rfl := List.mem_singleton.mp h
    exact List.infix_refl _
  | cons c s ih =>
    have later {piece : List Char} (h : piece ∈ split sep s) : piece <:+: c :: s :=
      (ih h).trans (List.suffix_cons c s).isInfix
    rw [split] at h
    split at h
    · rcases List.mem_cons.mp h with rfl | h
      · exact List.nil_infix
      · exact later h
    · split at h
      next first more hs =>
        rcases List.mem_cons.mp h with rfl | h
        · have joined := joinWith_split sep s
          rw [hs] at joined
          have begins := prefix_joinWith [sep] first more
          rw [joined] at begins
          exact (List.cons_prefix_cons.mpr ⟨rfl, begins⟩).isInfix
        · exact later (hs ▸ List.mem_cons_of_mem _ h)
      next hs => exact absurd hs (split_ne_nil _ _)

theorem split_append_sep : split sep (a ++ sep :: b) = split sep a ++ split sep b := by
  induction a with
  | nil => simp [split]
  | cons c a ih =>
    rw [List.cons_append, split, split, ih]
    split
    · rfl
    · cases hs : split sep a with
      | nil => exact absurd hs (split_ne_nil _ _)
      | cons piece more => rfl

/-- Replacing puts one text in place of another one between pieces that are without it. -/
theorem pieces_of_replaceFuel {old : List Char} (filled : old ≠ []) (new : List Char) {fuel : Nat}
    {text : List Char} (enough : text.length ≤ fuel) :
    ∃ first more, joinWith old (first :: more) = text ∧
      joinWith new (first :: more) = replaceFuel old new fuel text ∧
      ∀ piece ∈ first :: more, ¬ old <:+: piece := by
  induction fuel generalizing text with
  | zero =>
    obtain rfl := List.eq_nil_of_length_eq_zero (Nat.le_zero.mp enough)
    exact ⟨[], [], rfl, rfl, by simpa using filled⟩
  | succ fuel ih =>
    cases text with
    | nil => exact ⟨[], [], rfl, rfl, by simpa using filled⟩
    | cons c text =>
      rw [replaceFuel]
      cases hd : dropLead? old (c :: text) with
      | some rest =>
        have led := dropLead?_eq_some_iff.mp hd
        have shorter : rest.length ≤ fuel := by
          have lengths := congrArg List.length led
          have positive := List.length_pos_iff.mpr filled
          simp only [List.length_cons, List.length_append] at lengths enough
          omega
        obtain ⟨first, more, joined, replaced, clean⟩ := ih shorter
        refine ⟨[], first :: more, ?_, ?_, ?_⟩
        · rw [joinWith_cons_cons, joined, List.nil_append, led]
        · rw [joinWith_cons_cons, replaced, List.nil_append]
        · exact List.forall_mem_cons.mpr ⟨by simpa using filled, clean⟩
      | none =>
        obtain ⟨first, more, joined, replaced, clean⟩ := ih (Nat.le_of_succ_le_succ enough)
        refine ⟨c :: first, more, by rw [joinWith_cons_char, joined],
          by rw [joinWith_cons_char, replaced], ?_⟩
        obtain ⟨cleanFirst, cleanMore⟩ := List.forall_mem_cons.mp clean
        refine List.forall_mem_cons.mpr ⟨fun occurs => ?_, cleanMore⟩
        obtain leads | later := List.infix_cons_iff.mp occurs
        · -- The text would have begun with the replaced one.
          have begins := prefix_joinWith old (c :: first) more
          rw [joinWith_cons_char, joined] at begins
          obtain ⟨rest, hr⟩ := leads.trans begins
          rw [dropLead?_eq_some_iff.mpr hr.symm] at hd
          cases hd
        · exact cleanFirst later

theorem pieces_of_replaceAll {old : List Char} (filled : old ≠ []) (new text : List Char) :
    ∃ pieces, pieces ≠ [] ∧ joinWith old pieces = text ∧
      joinWith new pieces = replaceAll old new text ∧ ∀ piece ∈ pieces, ¬ old <:+: piece := by
  obtain ⟨first, more, joined, replaced, clean⟩ :=
    pieces_of_replaceFuel filled new (Nat.le_refl text.length)
  refine ⟨first :: more, by simp, joined, ?_, clean⟩
  rw [replaced, replaceAll, if_neg (by simpa using filled)]

/-- A text stays as it is where nothing is to be replaced. -/
theorem replaceAll_of_not_infix {old text : List Char} (filled : old ≠ []) (new : List Char)
    (absent : ¬ old <:+: text) : replaceAll old new text = text := by
  obtain ⟨pieces, some_, joined, replaced, -⟩ := pieces_of_replaceAll filled new text
  rw [← replaced]
  obtain ⟨piece, more, rfl⟩ := List.exists_cons_of_ne_nil some_
  cases more with
  | nil => exact joined
  | cons next more =>
    refine absurd ?_ absent
    rw [← joined, joinWith_cons_cons]
    exact ⟨piece, joinWith old (next :: more), rfl⟩

/-- Nothing vanishes where something is put in. -/
theorem replaceAll_ne_nil {old new text : List Char} (filled : old ≠ []) (some_ : new ≠ [])
    (h : text ≠ []) : replaceAll old new text ≠ [] := by
  obtain ⟨pieces, -, joined, replaced, -⟩ := pieces_of_replaceAll filled new text
  rw [← replaced]
  rw [← joined] at h
  rcases pieces with - | ⟨piece, - | ⟨next, more⟩⟩
  · exact h
  · exact h
  · simp [joinWith_cons_cons, some_]

/-- No new occurrence comes about where the other text begins with a character that the replaced
one does not have, and has no character with which the replaced one begins. -/
theorem not_infix_replaceAll {old new : List Char} (inner : sep ∉ c :: old) (outer : c ∉ new)
    (text : List Char) : ¬ c :: old <:+: replaceAll (c :: old) (sep :: new) text := by
  obtain ⟨pieces, -, -, replaced, clean⟩ :=
    pieces_of_replaceAll (List.cons_ne_nil c old) (sep :: new) text
  rw [← replaced]
  clear replaced
  induction pieces with
  | nil => simp [joinWith]
  | cons piece more ih =>
    obtain ⟨cleanPiece, cleanMore⟩ := List.forall_mem_cons.mp clean
    cases more with
    | nil => exact cleanPiece
    | cons next more =>
      rw [joinWith_cons_cons, List.append_assoc, List.cons_append, infix_append_cons_iff inner,
        infix_append_right_iff outer]
      rintro (here | later)
      · exact cleanPiece here
      · exact ih cleanMore later

end Text

namespace Path

/-- One component from a place. A pair of points takes back the component before it, if there is
one. -/
def proceed (place : List (List Char)) (c : List Char) : List (List Char) :=
  if c = ['.', '.'] then place.dropLast else place ++ [c]

/-- The place to which components lead from the root. -/
def evaluate (parts : List (List Char)) : List (List Char) := parts.foldl proceed []

/-- No pair of points comes to lie on the stack of a path from the root. -/
theorem reverse_climb {stack : List (List Char)} (clean : ['.', '.'] ∉ stack) (c : List Char) :
    (climb true stack c).reverse = proceed stack.reverse c ∧ ['.', '.'] ∉ climb true stack c := by
  unfold climb proceed
  by_cases back : c = ['.', '.']
  · subst back
    cases stack with
    | nil => simp
    | cons top below =>
      have apart : top ≠ ['.', '.'] := fun same => clean (same ▸ List.mem_cons_self)
      simpa [apart] using List.not_mem_of_not_mem_cons clean
  · simpa [back, eq_comm] using clean

theorem reverse_foldl_climb {stack : List (List Char)} (clean : ['.', '.'] ∉ stack)
    (parts : List (List Char)) :
    (parts.foldl (climb true) stack).reverse = parts.foldl proceed stack.reverse := by
  induction parts generalizing stack with
  | nil => rfl
  | cons c parts ih =>
    obtain ⟨place, clean'⟩ := reverse_climb clean c
    rw [List.foldl_cons, List.foldl_cons, ih clean', place]

theorem mem_foldl_proceed {place parts : List (List Char)} {c : List Char}
    (h : c ∈ parts.foldl proceed place) : c ∈ place ∨ c ∈ parts ∧ c ≠ ['.', '.'] := by
  induction parts generalizing place with
  | nil => exact .inl h
  | cons d parts ih =>
    obtain here | ⟨mem, other⟩ := ih h
    · unfold proceed at here
      split at here
      next => exact .inl (List.dropLast_subset place here)
      next other =>
        rcases List.mem_append.mp here with here | here
        · exact .inl here
        · obtain rfl := List.mem_singleton.mp here
          exact .inr ⟨List.mem_cons_self, other⟩
    · exact .inr ⟨List.mem_cons_of_mem _ mem, other⟩

/-- A place has components of the path other than pairs of points. -/
theorem mem_evaluate {parts : List (List Char)} {c : List Char} (h : c ∈ evaluate parts) :
    c ∈ parts ∧ c ≠ ['.', '.'] := by
  simpa using mem_foldl_proceed h

theorem components_append_slash (a b : List Char) :
    components (a ++ '/' :: b) = components a ++ components b := by
  rw [components, Text.split_append_sep, List.filter_append]
  rfl

theorem mem_components {s c : List Char} (h : c ∈ components s) :
    c ≠ [] ∧ c ≠ ['.'] ∧ '/' ∉ c ∧ c <:+: s := by
  have own : c ∈ (FilePath.ofText (String.ofList s)).parts := by simpa [FilePath.ofText] using h
  obtain ⟨filled, meaning, whole⟩ := (FilePath.normal_ofText _).parts c own
  exact ⟨filled, meaning, whole, Text.infix_of_mem_split (List.mem_filter.mp h).1⟩

/-- What a relative path is seen from comes first. -/
theorem components_join (base : List Char) {path : List Char} (relative : isAbsolute path = false) :
    components (join base path) = components base ++ components path := by
  unfold join
  rw [relative]
  simp only [Bool.false_eq_true, ↓reduceIte]
  split
  next ends =>
    obtain rfl | ⟨front, rfl⟩ : base = [] ∨ ∃ front, base = front ++ ['/'] := by
      simpa [List.getLast?_eq_some_iff] using ends
    · rfl
    · rw [List.append_assoc, List.singleton_append, components_append_slash,
        components_append_slash]
      simp [components, Text.split]
  next => exact components_append_slash base path

/-- One and two leading slashes are kept. -/
theorem rootSlashes_kept {s : List Char} (h : s.head? ≠ some '/') :
    rootSlashes ('/' :: s) = 1 ∧ rootSlashes ('/' :: '/' :: s) = 2 := by
  cases s with
  | nil => exact ⟨rfl, rfl⟩
  | cons c s =>
    have other : c ≠ '/' := by simpa using h
    simp [rootSlashes, other]

/-- Slashes lead a path only up to its first other character. -/
theorem rootSlashes_append {a b : List Char} (absolute : a.head? = some '/')
    (ended : b.head? = some '/' → ∃ c ∈ a, c ≠ '/') : rootSlashes (a ++ b) = rootSlashes a := by
  have slashes (only : ∀ c ∈ a, c = '/') : b.head? ≠ some '/' := by
    intro next
    obtain ⟨c, mem, other⟩ := ended next
    exact other (only c mem)
  rcases a with - | ⟨c, - | ⟨d, - | ⟨e, a⟩⟩⟩
  · cases absolute
  · obtain rfl : c = '/' := by simpa using absolute
    exact (rootSlashes_kept (slashes (by simp))).1
  · obtain rfl : c = '/' := by simpa using absolute
    by_cases hd : d = '/'
    · subst hd
      exact (rootSlashes_kept (slashes (by simp))).2
    · simp [rootSlashes, hd]
  · obtain rfl : c = '/' := by simpa using absolute
    by_cases hd : d = '/' <;> by_cases he : e = '/' <;> simp [rootSlashes, hd, he]

/-- A relative path adds no leading slash to an absolute one. -/
theorem rootSlashes_join {base path : List Char} (absolute : isAbsolute base = true)
    (relative : isAbsolute path = false) : rootSlashes (join base path) = rootSlashes base := by
  have rooted : base.head? = some '/' := by simpa [isAbsolute] using absolute
  have first : path.head? ≠ some '/' := by simpa [isAbsolute] using relative
  unfold join
  rw [relative]
  simp only [Bool.false_eq_true, ↓reduceIte]
  split
  next => exact rootSlashes_append rooted fun next => absurd next first
  next ends =>
    refine rootSlashes_append rooted fun _ => ?_
    obtain ⟨filled, last⟩ : base ≠ [] ∧ base.getLast? ≠ some '/' := by simpa using ends
    refine ⟨base.getLast filled, List.getLast_mem filled, fun same => last ?_⟩
    rw [List.getLast?_eq_some_getLast filled, same]

theorem rootSlashes_pos {path : List Char} (absolute : isAbsolute path = true) :
    0 < rootSlashes path := by
  obtain ⟨tail, rfl⟩ : ∃ tail, path = '/' :: tail := by
    simpa [isAbsolute, List.head?_eq_some_iff] using absolute
  unfold rootSlashes
  split
  next => decide
  next => decide
  next => decide
  next other => exact absurd rfl (other tail)

/-- A relative path seen from an absolute one leads where their components do together. -/
theorem normalize_join {base path : List Char} (absolute : isAbsolute base = true)
    (relative : isAbsolute path = false) :
    normalize (join base path) = List.replicate (rootSlashes base) '/' ++
      Text.joinWith ['/'] (evaluate (components base ++ components path)) := by
  have rooted : rootSlashes base ≠ 0 := Nat.ne_of_gt (rootSlashes_pos absolute)
  have clean : ['.', '.'] ∉ ([] : List (List Char)) := List.not_mem_nil
  have place := reverse_foldl_climb clean (components base ++ components path)
  unfold normalize
  rw [rootSlashes_join absolute relative, components_join base relative]
  simp only [rooted, ne_eq, not_false_eq_true, decide_true, place]
  simp [assemble, rooted, evaluate]

/-- The components of an evaluated path. -/
theorem forall_mem_evaluate {a b : List Char} :
    ∀ c ∈ evaluate (components a ++ components b),
      (c ≠ [] ∧ c ≠ ['.'] ∧ c ≠ ['.', '.'] ∧ '/' ∉ c) ∧ (c <:+: a ∨ c <:+: b) := by
  intro c h
  obtain ⟨mem, other⟩ := mem_evaluate h
  rcases List.mem_append.mp mem with own | own
  · obtain ⟨filled, meaning, whole, occurs⟩ := mem_components own
    exact ⟨⟨filled, meaning, other, whole⟩, .inl occurs⟩
  · obtain ⟨filled, meaning, whole, occurs⟩ := mem_components own
    exact ⟨⟨filled, meaning, other, whole⟩, .inr occurs⟩

end Path

namespace RulePath

open LintBridge.Path

theorem placeholder_eq : placeholder.toList = '$' :: "\x7bworkspaceFolder\x7d".toList := by decide

theorem placeholder_noSlash : '/' ∉ placeholder.toList := by decide

theorem placeholder_ne_nil : placeholder.toList ≠ [] := by simp [placeholder_eq]

/-- A folder without a dollar sign brings no placeholder with it. -/
theorem not_infix_substitute {root : List Char} (absolute : isAbsolute root = true)
    (plain : '$' ∉ root) (raw : List Char) : ¬ placeholder.toList <:+: substitute root raw := by
  obtain ⟨tail, rfl⟩ : ∃ tail, root = '/' :: tail := by
    simpa [isAbsolute, List.head?_eq_some_iff] using absolute
  unfold substitute
  rw [placeholder_eq]
  exact Text.not_infix_replaceAll (by decide) (List.not_mem_of_not_mem_cons plain) raw

/-- The evaluation of points does not make one either. -/
theorem not_infix_evaluated {slashes : Nat} {a b : List Char} (plain : '$' ∉ a)
    (resolved : ¬ placeholder.toList <:+: b) :
    ¬ placeholder.toList <:+: List.replicate slashes '/' ++
      Text.joinWith ['/'] (evaluate (components a ++ components b)) := by
  intro occurs
  have behind : placeholder.toList <:+:
      Text.joinWith ['/'] (evaluate (components a ++ components b)) := by
    rw [placeholder_eq] at occurs ⊢
    exact (Text.infix_append_right_iff (by simp)).mp occurs
  obtain ⟨c, mem, within⟩ :=
    Text.exists_infix_of_joinWith placeholder_ne_nil placeholder_noSlash behind
  obtain ⟨-, own | own⟩ := forall_mem_evaluate c mem
  · have dollar : '$' ∈ placeholder.toList := by decide
    exact plain ((within.trans own).subset dollar)
  · exact resolved (within.trans own)

/-- An absolute path without a placeholder is the same from everywhere. -/
theorem resolve_of_absolute {raw : String} (absolute : isAbsolute raw.toList = true)
    (resolved : ¬ placeholder.toList <:+: raw.toList) (root : Option String) :
    resolve raw root = raw := by
  cases root with
  | none => rfl
  | some root =>
    have same : substitute root.toList raw.toList = raw.toList :=
      Text.replaceAll_of_not_infix placeholder_ne_nil root.toList resolved
    simp [resolve, same, absolute]

/-- A path does not vanish when it is resolved. -/
theorem resolve_ne_empty {raw : String} (filled : raw ≠ "") (root : Option FilePath) :
    resolve raw (root.map FilePath.text) ≠ "" := by
  cases root with
  | none => exact filled
  | some root =>
    have folder : root.text.toList ≠ [] := by simpa using root.text_ne_empty
    have path : raw.toList ≠ [] := by simpa using filled
    have substituted : substitute root.text.toList raw.toList ≠ [] :=
      Text.replaceAll_ne_nil placeholder_ne_nil folder path
    simp only [Option.map_some, resolve]
    split
    next => simpa using substituted
    next => simpa [Path.normalize] using assemble_ne_nil _ _

/-- A path as it is resolved from a workspace folder. -/
structure Resolution (raw root result : String) : Prop where
  /-- The folder stands in place of every placeholder, and all else is as it was. -/
  substituted : ∃ pieces, Text.joinWith placeholder.toList pieces = raw.toList ∧
    Text.joinWith root.toList pieces = substitute root.toList raw.toList ∧
    ∀ piece ∈ pieces, ¬ placeholder.toList <:+: piece
  absolute : isAbsolute result.toList = true
  resolved : ¬ placeholder.toList <:+: result.toList
  /-- A path that is absolute by then stays as it is. -/
  verbatim : isAbsolute (substitute root.toList raw.toList) = true →
    result.toList = substitute root.toList raw.toList
  /-- A path that is still relative leads on from the folder. -/
  evaluated : isAbsolute (substitute root.toList raw.toList) = false → ∃ parts,
    parts = evaluate (components root.toList ++ components (substitute root.toList raw.toList)) ∧
    result.toList =
      List.replicate (rootSlashes root.toList) '/' ++ Text.joinWith ['/'] parts ∧
    ∀ c ∈ parts, c ≠ [] ∧ c ≠ ['.'] ∧ c ≠ ['.', '.'] ∧ '/' ∉ c
  again : resolve result (some root) = result

/-- The text of a path that is resolved, by whether the folder has made it absolute. -/
theorem toList_resolve (raw : String) {root : String} (absolute : isAbsolute root.toList = true) :
    (resolve raw (some root)).toList =
      if isAbsolute (substitute root.toList raw.toList) then substitute root.toList raw.toList
      else List.replicate (rootSlashes root.toList) '/' ++ Text.joinWith ['/']
        (evaluate (components root.toList ++ components (substitute root.toList raw.toList))) := by
  unfold resolve
  dsimp only
  split
  next => rw [String.toList_ofList]
  next relative =>
    rw [String.toList_ofList, normalize_join absolute (by simpa using relative)]

/-- A rule path is resolved from an absolute folder that has no dollar sign by putting the folder
in place of the placeholders and by evaluating what is relative then, once and for all. An
absolute path without a placeholder, and any path without a folder, stays as it is. -/
theorem resolves_lexically (raw root : String) :
    (isAbsolute root.toList = true → '$' ∉ root.toList →
      Resolution raw root (resolve raw (some root))) ∧
    (isAbsolute raw.toList = true → ¬ placeholder.toList <:+: raw.toList →
      ∀ root, resolve raw root = raw) ∧
    resolve raw none = raw := by
  refine ⟨fun absolute plain => ?_, resolve_of_absolute, rfl⟩
  obtain ⟨pieces, -, joined, replaced, clean⟩ :=
    Text.pieces_of_replaceAll placeholder_ne_nil root.toList raw.toList
  have cleared := not_infix_substitute absolute plain raw.toList
  have text := toList_resolve raw absolute
  have rooted : isAbsolute (resolve raw (some root)).toList = true := by
    rw [text]
    split
    next already => exact already
    next =>
      obtain ⟨n, hn⟩ := Nat.exists_eq_succ_of_ne_zero (Nat.ne_of_gt (rootSlashes_pos absolute))
      simp [hn, isAbsolute, List.replicate_succ]
  have resolved : ¬ placeholder.toList <:+: (resolve raw (some root)).toList := by
    rw [text]
    split
    next => exact cleared
    next => exact not_infix_evaluated plain cleared
  refine ⟨⟨pieces, joined, replaced, clean⟩, rooted, resolved, ?_, ?_,
    resolve_of_absolute rooted resolved _⟩
  · intro already
    rw [text, if_pos already]
  · intro relative
    refine ⟨_, rfl, ?_, fun c mem => (forall_mem_evaluate c mem).1⟩
    rw [text, if_neg (by simp [relative])]

/-- The halves of a placeholder do not join around the folder that is put in between them. -/
theorem resolves_split_placeholder :
    let root := "//w/a/../b"
    let raw := "../$\x7b$\x7bworkspaceFolder\x7dworkspaceFolder\x7d/.//r"
    isAbsolute root.toList = true ∧ '$' ∉ root.toList ∧
      resolve raw (some root) = "//w/$\x7b/w/bworkspaceFolder\x7d/r" ∧
      Resolution raw root (resolve raw (some root)) ∧
      isAbsolute "/r/../$".toList = true ∧ ¬ placeholder.toList <:+: "/r/../$".toList ∧
      resolve "/r/../$" (some "$/x") = "/r/../$" := by
  intro root raw
  have absolute : isAbsolute root.toList = true := by decide
  have plain : '$' ∉ root.toList := by decide
  have resolved : resolve raw (some root) = "//w/$\x7b/w/bworkspaceFolder\x7d/r" := by
    decide +kernel
  have rooted : isAbsolute "/r/../$".toList = true := by decide
  have without : ¬ placeholder.toList <:+: "/r/../$".toList := by
    intro occurs
    have letter : 'w' ∈ placeholder.toList := by decide
    exact absurd (occurs.subset letter) (by decide)
  exact ⟨absolute, plain, resolved, (resolves_lexically raw root).1 absolute plain, rooted, without,
    (resolves_lexically "/r/../$" root).2.1 rooted without _⟩

end RulePath
end LintBridge
