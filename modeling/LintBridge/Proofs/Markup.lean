import LintBridge.Console.Table
import LintBridge.Proofs.Checked
import Mathlib.Data.List.TakeWhile
/-!
Which texts with tags have all their closing tags matched. Only the tags of a text matter, one after
the other, and their names in a normal form that consoles are free to choose: a closing tag needs
an open one of its name, or any if it has no name (`Console.Closed`). A console is taken to refuse
every other text (`Console.Writer.Reads`), as a terminal does (`Console.reads_terminal`).
-/
namespace LintBridge.Console

/-- The tags of a text that are not taken away by a backslash, in so many steps. -/
def tagsFuel : Nat → List Char → List (List Char)
  | 0, _ => []
  | _ + 1, [] => []
  | fuel + 1, c :: s =>
    match tagAtFront? (c :: s) with
    | none => tagsFuel fuel s
    | some (escapes, content, rest) =>
      if escapes % 2 = 1 then tagsFuel fuel rest else content :: tagsFuel fuel rest

/-- The tags of a text. -/
def tags (s : List Char) : List (List Char) := tagsFuel (s.length + 1) s

section
variable (normal : String → String)

/-- The names of the open tags after a tag, the innermost first, unless it is a closing tag that
matches none. -/
def afterTag? (opened : List String) (content : List Char) : Option (List String) :=
  match tagName content with
  | '/' :: name =>
    let name := Text.stripped (String.ofList name)
    if name.isEmpty then if opened.isEmpty then none else some opened.tail
    else if normal name ∈ opened then some (opened.erase (normal name)) else none
  | name => some (normal (String.ofList name) :: opened)

/-- The names of the open tags after tags, one after the other. -/
def afterTags? (opened : List String) (contents : List (List Char)) : Option (List String) :=
  contents.foldlM (afterTag? normal) opened

theorem afterTags?_cons (opened : List String) (content : List Char) (contents : List (List Char)) :
    afterTags? normal opened (content :: contents) =
      (afterTag? normal opened content).bind fun opened => afterTags? normal opened contents := rfl

/-- Does every closing tag of a text match an open one? -/
def Closed (s : String) : Prop := (afterTags? normal [] (tags s.toList)).isSome = true

instance (s : String) : Decidable (Closed normal s) :=
  inferInstanceAs (Decidable (_ = true))

end

/-- A tag at the front of a text stands there between brackets, behind backslashes. -/
theorem tagAtFront?_stands {s rest content : List Char} {escapes : Nat}
    (h : tagAtFront? s = some (escapes, content, rest)) :
    ∃ before, s = before ++ '[' :: (content ++ ']' :: rest) := by
  unfold tagAtFront? at h
  split at h
  next s' bracket =>
    obtain ⟨⟨content', rest'⟩, tag, same⟩ := Option.map_eq_some_iff.mp h
    obtain ⟨-, rfl, rfl⟩ : _ ∧ content' = content ∧ rest' = rest := by simpa using same
    unfold tagAfterBracket? at tag
    dsimp only at tag
    split at tag
    next c rest'' _ closing =>
      split at tag
      · obtain ⟨rfl, rfl⟩ := Prod.mk.inj (Option.some.inj tag)
        refine ⟨s.takeWhile (· = '\\'), ?_⟩
        rw [← closing, List.takeWhile_append_dropWhile, ← bracket,
          List.takeWhile_append_dropWhile]
      · cases tag
    next => cases tag
  next => cases h

theorem tagAtFront?_shorter {s rest content : List Char} {escapes : Nat}
    (h : tagAtFront? s = some (escapes, content, rest)) : rest.length < s.length := by
  obtain ⟨before, rfl⟩ := tagAtFront?_stands h
  simp only [List.length_append, List.length_cons]
  omega

theorem tagsFuel_enough {fuel : Nat} {s : List Char} (enough : s.length < fuel) :
    tagsFuel fuel s = tags s := by
  unfold tags
  generalize hn : s.length + 1 = n
  have enough' : s.length < n := by omega
  clear hn
  induction fuel generalizing s n with
  | zero => omega
  | succ fuel ih =>
    obtain ⟨n, rfl⟩ := Nat.exists_eq_add_one_of_ne_zero (Nat.ne_zero_of_lt enough')
    cases s with
    | nil => rfl
    | cons c s =>
      rw [List.length_cons] at enough enough'
      rw [tagsFuel, tagsFuel]
      cases h : tagAtFront? (c :: s) with
      | none => exact ih (by omega) n (by omega)
      | some tag =>
        obtain ⟨escapes, content, rest⟩ := tag
        have shorter := tagAtFront?_shorter h
        rw [List.length_cons] at shorter
        dsimp only
        rw [ih (s := rest) (by omega) n (by omega)]

theorem tags_cons (c : Char) (s : List Char) : tags (c :: s) =
    match tagAtFront? (c :: s) with
    | none => tags s
    | some (escapes, content, rest) =>
      if escapes % 2 = 1 then tags rest else content :: tags rest := by
  rw [tags, tagsFuel]
  cases h : tagAtFront? (c :: s) with
  | none => exact tagsFuel_enough (by simp)
  | some tag =>
    obtain ⟨escapes, content, rest⟩ := tag
    dsimp only
    rw [tagsFuel_enough (tagAtFront?_shorter h)]

/-- The tags among pieces. -/
def tagsOf (ps : List Piece) : List (List Char) :=
  ps.filterMap fun p => match p with
    | .plain _ => none
    | .tag content _ => some content

theorem tagsOf_piecesFuel (fuel : Nat) (s : List Char) (position : Nat) (run : List Char) :
    tagsOf (piecesFuel fuel s position run) = tagsFuel fuel s := by
  induction fuel generalizing s position run with
  | zero => rfl
  | succ fuel ih =>
    cases s with
    | nil => rfl
    | cons c s =>
      rw [piecesFuel, tagsFuel]
      cases tagAtFront? (c :: s) with
      | none => exact ih s _ _
      | some tag =>
        obtain ⟨escapes, content, rest⟩ := tag
        dsimp only
        split
        · exact ih rest _ _
        · exact congrArg (content :: ·) (ih rest _ _)

theorem tagsOf_pieces (s : List Char) : tagsOf (pieces s) = tags s := by
  unfold pieces tags
  rw [← tagsOf_piecesFuel _ s 0 []]
  generalize piecesFuel (s.length + 1) s 0 [] = ps
  induction ps with
  | nil => rfl
  | cons p ps ih =>
    rw [List.filter_cons]
    split
    · cases p with
      | plain s => exact ih
      | tag content position => exact congrArg (content :: ·) ih
    next empty =>
      obtain rfl : p = .plain [] := by simpa using empty
      exact ih

theorem tags_eq_nil {s : List Char} (plain : '[' ∉ s) : tags s = [] := by
  induction s with
  | nil => rfl
  | cons c s ih =>
    rw [tags_cons]
    cases h : tagAtFront? (c :: s) with
    | none => exact ih fun mem => plain (List.mem_cons_of_mem _ mem)
    | some tag =>
      obtain ⟨before, whole⟩ := tagAtFront?_stands h
      exact absurd (whole ▸ by simp) plain

section
variable {normal : String → String} {opened : List String} {content : List Char}

theorem afterTag?_closing {name : List Char} (named : tagName content = '/' :: name) :
    afterTag? normal opened content =
      if (Text.stripped (String.ofList name)).isEmpty then
        if opened.isEmpty then none else some opened.tail
      else if normal (Text.stripped (String.ofList name)) ∈ opened then
        some (opened.erase (normal (Text.stripped (String.ofList name))))
      else none := by
  unfold afterTag?
  rw [named]
  rfl

theorem afterTag?_opening (opening : ∀ name, tagName content ≠ '/' :: name) :
    afterTag? normal opened content =
      some (normal (String.ofList (tagName content)) :: opened) := by
  unfold afterTag?
  split
  next name named => exact absurd named (opening name)
  next => rfl

theorem tagName_of_noValue {name : List Char} (noValue : '=' ∉ name) : tagName name = name := by
  refine List.takeWhile_eq_self_iff.mpr fun c mem => ?_
  rw [decide_eq_true_eq]
  rintro rfl
  exact noValue mem

/-- A tag that is opened is closed by its name. -/
theorem afterTags?_pair {name : List Char} (opening : name.head? ≠ some '/') (noValue : '=' ∉ name)
    (tight : Text.stripped (String.ofList name) = String.ofList name) (filled : name ≠ [])
    (opened : List String) (contents : List (List Char)) :
    afterTags? normal opened (name :: ('/' :: name) :: contents) =
      afterTags? normal opened contents := by
  have opens : afterTag? normal opened name = some (normal (String.ofList name) :: opened) := by
    have whole := tagName_of_noValue noValue
    rw [afterTag?_opening ?_, whole]
    rintro rest closing
    rw [whole] at closing
    exact opening (closing ▸ rfl)
  have closes : afterTag? normal (normal (String.ofList name) :: opened) ('/' :: name) =
      some opened := by
    rw [afterTag?_closing (tagName_of_noValue (by simpa using noValue))]
    simp [tight, filled]
  rw [afterTags?_cons, opens, Option.bind_some, afterTags?_cons, closes, Option.bind_some]

end

theorem tags_plain {c : Char} (bracket : c ≠ '[') (backslash : c ≠ '\\') (s : List Char) :
    tags (c :: s) = tags s := by
  have noTag : tagAtFront? (c :: s) = none := by
    unfold tagAtFront?
    rw [List.dropWhile_cons_of_neg (by simpa using backslash)]
    split
    next rest same => exact absurd (List.cons.inj same).1 bracket
    next => rfl
  rw [tags_cons, noTag]

theorem tags_tag {c : Char} {content : List Char} (start : isTagStart c = true)
    (clean : ∀ d ∈ c :: content, d ≠ '[' ∧ d ≠ ']') (rest : List Char) :
    tags ('[' :: (c :: content ++ ']' :: rest)) = (c :: content) :: tags rest := by
  have inside : ∀ d ∈ c :: content, (decide (d ≠ '[') && decide (d ≠ ']')) = true := by
    simpa using clean
  have after : tagAfterBracket? (c :: content ++ ']' :: rest) = some (c :: content, rest) := by
    unfold tagAfterBracket?
    dsimp only
    rw [List.takeWhile_append_of_pos inside, List.dropWhile_append_of_pos inside,
      List.takeWhile_cons_of_neg (by decide), List.dropWhile_cons_of_neg (by decide),
      List.append_nil]
    simp [start]
  have here : tagAtFront? ('[' :: (c :: content ++ ']' :: rest)) =
      some (0, c :: content, rest) := by
    change (tagAfterBracket? (c :: content ++ ']' :: rest)).map (fun t => (0, t)) = _
    rw [after]
    rfl
  rw [tags_cons, here]
  rfl

/-- A word between a tag and its end leaves no tag open. -/
theorem afterTags?_styled {name word : List Char} (lower : ∀ c ∈ name, 'a' ≤ c ∧ c ≤ 'z')
    (filled : name ≠ []) (tight : Text.stripped (String.ofList name) = String.ofList name)
    (plain : ∀ c ∈ word, c ≠ '[' ∧ c ≠ '\\') (normal : String → String) (opened : List String)
    (rest : List Char) :
    afterTags? normal opened
        (tags ('[' :: (name ++ ']' :: (word ++ '[' :: ('/' :: name ++ ']' :: rest))))) =
      afterTags? normal opened (tags rest) := by
  have skip (s : List Char) : tags (word ++ s) = tags s := by
    induction word with
    | nil => rfl
    | cons c word ih =>
      obtain ⟨⟨bracket, backslash⟩, others⟩ := List.forall_mem_cons.mp plain
      rw [List.cons_append, tags_plain bracket backslash, ih others]
  have clean : ∀ c ∈ name, c ≠ '[' ∧ c ≠ ']' ∧ c ≠ '=' ∧ c ≠ '/' := by
    intro c mem
    obtain ⟨low, high⟩ := lower c mem
    refine ⟨?_, ?_, ?_, ?_⟩ <;>
    · rintro rfl
      revert low
      decide
  obtain ⟨c, name, rfl⟩ := List.exists_cons_of_ne_nil filled
  have start : isTagStart c = true := by
    simp [isTagStart, lower c List.mem_cons_self]
  rw [tags_tag start fun d mem => ⟨(clean d mem).1, (clean d mem).2.1⟩, skip, tags_tag rfl]
  · refine afterTags?_pair ?_ (fun mem => (clean _ mem).2.2.1 rfl) tight filled opened _
    rw [List.head?_cons]
    exact fun same => (clean c List.mem_cons_self).2.2.2 (Option.some.inj same)
  · refine List.forall_mem_cons.mpr ⟨by decide, fun d mem => ⟨(clean d mem).1, (clean d mem).2.1⟩⟩

theorem closed_styled_iff {s : String} {name word rest : List Char}
    (spelled : s.toList = '[' :: (name ++ ']' :: (word ++ '[' :: ('/' :: name ++ ']' :: rest))))
    (lower : ∀ c ∈ name, 'a' ≤ c ∧ c ≤ 'z') (filled : name ≠ [])
    (tight : Text.stripped (String.ofList name) = String.ofList name)
    (plain : ∀ c ∈ word, c ≠ '[' ∧ c ≠ '\\') {normal : String → String} :
    Closed normal s ↔ Closed normal (String.ofList rest) := by
  unfold Closed
  rw [spelled, afterTags?_styled lower filled tight plain, String.toList_ofList]

/-- What is assumed of a console: it reads every line, and every title and cell of a table, as a
text with tags, and refuses it if a closing tag matches no open one. The names of tags are compared
in a normal form. -/
structure Writer.Reads (console : Writer) (normal : String → String) : Prop where
  line : ∀ {s report}, console.line s = .ok report → Closed normal s
  title : ∀ {t report}, console.table t = .ok report → Closed normal t.title
  cell : ∀ {t report}, console.table t = .ok report → ∀ row ∈ t.rows, ∀ cell ∈ row,
    Closed normal cell

/-- The normal form of a name on a terminal; a name without one is taken as it is. -/
def terminalName (name : String) : String := (normalStyle? name).getD name

variable {literal : List Char → Bool}

theorem takeOpen?_names {name : String} {opened rest : List OpenTag} {tag : OpenTag}
    (h : takeOpen? name opened = some (tag, rest)) :
    name ∈ opened.map OpenTag.name ∧
      rest.map OpenTag.name = (opened.map OpenTag.name).erase name := by
  induction opened generalizing rest with
  | nil => cases h
  | cons first opened ih =>
    rw [takeOpen?] at h
    split at h
    next same =>
      cases h
      simp [same]
    next other =>
      obtain ⟨⟨tag', rest'⟩, found, same⟩ := Option.map_eq_some_iff.mp h
      cases same
      obtain ⟨mem, erased⟩ := ih found
      have apart : ¬ (first.name == name) = true := by simpa using other
      exact ⟨List.mem_cons_of_mem _ mem, by rw [List.map_cons, List.map_cons, erased,
        List.erase_cons_tail apart]⟩

/-- A tag that a terminal takes opens a name or matches an open one. -/
theorem afterTag?_of_applyTag {opened opened' : List OpenTag} {content : List Char}
    {position : Nat} (h : applyTag literal opened content position = .ok opened') :
    afterTag? terminalName (opened.map OpenTag.name) content =
      some (opened'.map OpenTag.name) := by
  unfold applyTag at h
  split at h
  next name named =>
    rw [afterTag?_closing named]
    dsimp only at h
    split at h
    next empty =>
      rw [if_pos empty]
      cases opened with
      | nil => cases h
      | cons tag rest =>
        obtain ⟨-, -, rfl⟩ := map_eq_ok_iff.mp h
        rfl
    next filled =>
      rw [if_neg filled]
      split at h
      next => cases h
      next spelled normal =>
        have same : terminalName (Text.stripped (String.ofList name)) = spelled := by
          rw [terminalName, normal, Option.getD_some]
        rw [same]
        split at h
        next tag rest found =>
          obtain ⟨-, -, rfl⟩ := map_eq_ok_iff.mp h
          obtain ⟨mem, erased⟩ := takeOpen?_names found
          rw [if_pos mem, erased]
        next => cases h
  next opening =>
    rw [afterTag?_opening fun name named => opening name named]
    split at h
    next => cases h
    next spelled normal =>
      obtain ⟨-, -, rfl⟩ := map_eq_ok_iff.mp h
      rw [terminalName, normal, Option.getD_some, List.map_cons]

theorem afterTags?_of_showPieces {opened : List OpenTag} {ps : List Piece} {t : List Char}
    (h : showPieces literal opened ps = .ok t) :
    (afterTags? terminalName (opened.map OpenTag.name) (tagsOf ps)).isSome = true := by
  induction ps generalizing opened t with
  | nil => rfl
  | cons p ps ih =>
    cases p with
    | plain s =>
      obtain ⟨rest, shown, -⟩ := map_eq_ok_iff.mp h
      exact ih shown
    | tag content position =>
      have first : tagsOf (.tag content position :: ps) = content :: tagsOf ps := rfl
      rw [showPieces] at h
      split at h
      next => cases h
      next opened' taken =>
        rw [first, afterTags?_cons, afterTag?_of_applyTag taken]
        exact ih h

/-- What a terminal shows has all its closing tags matched. -/
theorem closed_of_shown {s : String} {t : List Char} (h : shown literal s = .ok t) :
    Closed terminalName s := by
  unfold shown at h
  obtain ⟨t', whole, -⟩ := map_eq_ok_iff.mp h
  split at whole
  next =>
    rw [Closed, ← tagsOf_pieces]
    exact afterTags?_of_showPieces whole
  next plain =>
    have absent : '[' ∉ s.toList := by simpa using plain
    rw [Closed, tags_eq_nil absent]
    rfl

/-- A text without a bracket is shown as it is but for its pictographs. -/
theorem exists_shown_of_plain {s : String} (plain : '[' ∉ s.toList) :
    ∃ t, shown literal s = .ok t := by
  unfold shown
  dsimp only
  rw [if_neg (by simpa using plain)]
  exact ⟨_, rfl⟩

/-- A terminal writes a table exactly if it shows every text of it. -/
theorem exists_tableText_iff {columns : Nat} {table : Table} :
    (∃ report, table.text literal columns = .ok report) ↔
      (∃ title, shown literal table.title = .ok title) ∧
      (∀ heading ∈ table.headings, ∃ t, shown literal heading.text = .ok t) ∧
      ∀ row ∈ table.rows, ∀ cell ∈ row, ∃ t, shown literal cell = .ok t := by
  have parts : (∃ report, table.text literal columns = .ok report) ↔
      ∃ head rows title,
        List.Forall₂ (fun heading t => shown literal heading.text = .ok t) table.headings head ∧
        List.Forall₂ (List.Forall₂ fun cell t => shown literal cell = .ok t) table.rows rows ∧
        shown literal table.title = .ok title := by
    unfold Table.text Table.lines
    simp only [map_eq_ok_iff, bind_eq_ok, mapM_eq_ok_iff, pure, Except.pure, Except.ok.injEq]
    constructor
    · rintro ⟨_, _, ⟨head, headed, rows, shows, title, titled, -⟩, -⟩
      exact ⟨head, rows, title, headed, shows, titled⟩
    · rintro ⟨head, rows, title, headed, shows, titled⟩
      exact ⟨_, _, ⟨head, headed, rows, shows, title, titled, rfl⟩, rfl⟩
  rw [parts]
  constructor
  · rintro ⟨head, rows, title, headed, shows, titled⟩
    exact ⟨⟨title, titled⟩, exists_forall₂_iff.mp ⟨head, headed⟩, fun row mem =>
      exists_forall₂_iff.mp (exists_forall₂_iff.mp ⟨rows, shows⟩ row mem)⟩
  · rintro ⟨⟨title, titled⟩, headed, shows⟩
    obtain ⟨head, headed⟩ := exists_forall₂_iff.mpr headed
    obtain ⟨rows, shows⟩ := exists_forall₂_iff.mpr
      fun row mem => exists_forall₂_iff.mpr (shows row mem)
    exact ⟨head, rows, title, headed, shows, titled⟩

/-- A terminal reads texts as it is assumed of consoles. -/
theorem reads_terminal (literal : List Char → Bool) (columns : Nat) :
    (terminal literal columns).Reads terminalName where
  line written := by
    obtain ⟨_, shows, -⟩ := map_eq_ok_iff.mp written
    exact closed_of_shown shows
  title written := by
    obtain ⟨⟨_, shows⟩, -, -⟩ := exists_tableText_iff.mp ⟨_, written⟩
    exact closed_of_shown shows
  cell written row hr cell hc := by
    obtain ⟨-, -, shows⟩ := exists_tableText_iff.mp ⟨_, written⟩
    exact closed_of_shown (shows row hr cell hc).choose_spec

end LintBridge.Console
