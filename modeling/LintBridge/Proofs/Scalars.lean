import LintBridge.Proofs.DoubleQuotes
/-!
A text that is written as a scalar stands there in one of two ways: between quotes, or plain in
such a form that a plain scalar begins with it and that it has no other kind than text. In either
way it is read back, and what is written has no character that a document may not hold.
-/
namespace LintBridge.Yaml

/-- The margin of a line: the end of the text, or a visible character that begins no comment and
no mark between documents. -/
def Margin (s : List Char) : Prop := ∀ ch ∈ s.head?, Visible ch ∧ ch ≠ '#' ∧ ch ≠ '-' ∧ ch ≠ '.'

theorem Margin.stops {s : List Char} (h : Margin s) : Stops s := by
  cases s with
  | nil => simp [Stops]
  | cons ch s => exact (h ch rfl).1.stops s

theorem Margin.here {s : List Char} (h : Margin s) :
    ∀ ch ∈ s.head?, ch ≠ ' ' ∧ ch ≠ '#' ∧ isBreak ch = false := fun ch hc =>
  have stops := h.stops ch hc
  ⟨stops.1, (h ch hc).2.1, stops.2.2⟩

theorem Margin.apart {s : List Char} (h : Margin s) : ∀ ch ∈ s.head?, ch ≠ '-' ∧ ch ≠ '.' :=
  fun ch hc => (h ch hc).2.2

/-- A plain scalar begins here: with no indicator, and with one of the three marks that may stand
alone only in front of another visible character. -/
def OpensPlain (w : List Char) : Prop :=
  ∃ ch s, w = ch :: s ∧ Visible ch ∧ "#,[]\x7b\x7d&*!|>'\"%@\x60".toList.contains ch = false ∧
    (ch = '?' ∨ ch = ':' ∨ ch = '-' → ∃ d t, s = d :: t ∧ Visible d)

/-- How a text stands as a scalar in what is written. -/
inductive Stands (text : String) (w : List Char) : Prop
  | quoted (quote : Char) (mark : quote = '\'' ∨ quote = '"') (opens : ∃ s, w = quote :: s)
      (read : ∀ (c : Cursor) (tail : List Char), c.rest = w ++ '\n' :: tail →
        ∃ c', c'.rest = '\n' :: tail ∧ quotedScalar quote c = .ok (text, c'))
  | plain (kind : Tag.ofPlain text = .str) (opens : OpensPlain w)
      (read : ∀ (c : Cursor) (tail : List Char), c.rest = w ++ '\n' :: tail → Margin tail →
        ∃ c', c'.rest = tail ∧ c'.column = 0 ∧ plainScalar false 1 c = ⟨text.toList, c', true⟩)

theorem Visible.plainly {c : Char} (h : Visible c) : isSpecial c = false := by
  have low : ' ' ≤ c := Std.le_of_lt h.1
  simp [isSpecial, low, h.2]

theorem Layout.plainly {spell : Char → List Char} {rs : List (RunKind × List Char)} {w : List Char}
    (spelled : ∀ c, isSpecial c = false → ∀ d ∈ spell c, isSpecial d = false)
    (layout : Layout spell rs w) (plainly : ∀ c ∈ flat rs, isSpecial c = false) :
    ∀ c ∈ w, isSpecial c = false := by
  have feed : isSpecial '\n' = false := by decide
  have blank : isSpecial ' ' = false := by decide
  induction layout with
  | nil => simp
  | other rest ih =>
    simp only [flat_cons, List.forall_mem_append] at plainly
    refine List.forall_mem_append.mpr ⟨fun d hd => ?_, ih plainly.2⟩
    obtain ⟨c, hc, hd⟩ := List.mem_flatMap.mp hd
    exact spelled c (plainly.1 c hc) d hd
  | blanks rest ih =>
    simp only [flat_cons, List.forall_mem_append] at plainly
    exact List.forall_mem_append.mpr ⟨plainly.1, ih plainly.2⟩
  | fold inside rest ih =>
    simp only [flat_cons, List.forall_mem_append] at plainly
    simpa [feed, blank] using ih plainly.2
  | breaks rest ih =>
    simp only [flat_cons, List.forall_mem_append] at plainly
    refine List.forall_mem_append.mpr ⟨fun c hc => ?_, by simpa [blank] using ih plainly.2⟩
    rw [List.eq_of_mem_replicate hc]
    exact feed

theorem DoubleLayout.plainly {s w : List Char} (layout : DoubleLayout s w) :
    ∀ c ∈ w, isSpecial c = false := by
  have feed : isSpecial '\n' = false := by decide
  have blank : isSpecial ' ' = false := by decide
  have backslash : isSpecial '\\' = false := by decide
  induction layout with
  | nil => simp
  | plain direct rest ih =>
    refine List.forall_mem_cons.mpr ⟨?_, ih⟩
    obtain rfl | ⟨visible, -, -⟩ := direct_eq direct
    · exact blank
    · exact visible.plainly
  | @escape ch _ _ special rest ih =>
    exact List.forall_mem_append.mpr ⟨fun c hc => (visible_escaped ch c hc).plainly, ih⟩
  | fold next rest ih => simpa [feed, blank, backslash] using ih
  | foldBlank rest ih => simpa [feed, blank, backslash] using ih

theorem Running.alike {rs : List (RunKind × List Char)} (running : Running rs) :
    ∀ r ∈ rs, r.2 ≠ [] ∧ ∀ c ∈ r.2, runKind c = r.1 := by
  induction running with
  | nil => simp
  | cons filled alike _ _ ih => exact List.forall_mem_cons.mpr ⟨⟨filled, alike⟩, ih⟩

theorem mem_flat {rs : List (RunKind × List Char)} {r : RunKind × List Char} {c : Char}
    (hr : r ∈ rs) (hc : c ∈ r.2) : c ∈ flat rs := List.mem_flatMap.mpr ⟨r, hr, hc⟩

/-- A text that may stand between single quotes does. -/
theorem stands_single {text : String} (allowed : allowsSingle text.toList = true) (p : Pen) :
    ∃ w, p.Puts (writeSingle p text.toList) w ∧ (∀ c ∈ w, isSpecial c = false) ∧
      Stands text w := by
  have quote : isSpecial '\'' = false := by decide
  have running := running_runs text.toList
  have letters := flat_runs text.toList
  simp only [allowsSingle, Bool.and_eq_true, Bool.not_eq_true', List.any_eq_false] at allowed
  obtain ⟨plainly, pairs⟩ := allowed
  have plainly : ∀ c ∈ flat (runs text.toList), isSpecial c = false := by
    rw [letters]
    simpa using plainly
  have pairs : anyPlace besideBreak none (flat (runs text.toList)) = false := by
    rw [letters]
    exact pairs
  have legible := running.legible plainly pairs
  have feeds : ∀ r ∈ runs text.toList, r.1 = .breaks → r.2.head? = some '\n' := by
    rintro ⟨kind, run⟩ hr rfl
    obtain ⟨filled, alike⟩ := running.alike _ hr
    obtain ⟨c, run, rfl⟩ := List.exists_cons_of_ne_nil filled
    have hc := List.mem_cons_self (a := c) (l := run)
    exact congrArg some
      (eq_feed_of_isBreakMark (plainly c (mem_flat hr hc)) (runKind_eq_breaks (alike c hc)))
  obtain ⟨w, laid, puts⟩ := puts_single running feeds true (p.write ['\''])
  refine ⟨'\'' :: (w ++ ['\'']), ?_, ?_, ?_⟩
  · exact (Pen.Puts.write p ['\'']).trans (puts.trans (Pen.Puts.write _ ['\'']))
  · have inside := laid.plainly (fun c hc d hd => by
      unfold doubled at hd
      split at hd <;> simp_all) plainly
    simpa [quote, or_imp, forall_and] using inside
  · refine .quoted '\'' (.inl rfl) ⟨_, rfl⟩ fun c tail hr => ?_
    have next : c.next.rest = w ++ '\'' :: '\n' :: tail := by simp [hr]
    have enough : c.next.rest.length < c.rest.length + 1 := by
      rw [Cursor.next_rest, List.length_tail]
      omega
    obtain ⟨c', behind, read⟩ := quotedTail_layout laid legible (by simp) [] next enough
    refine ⟨c', behind, ?_⟩
    rw [quotedScalar, read, letters]
    simp

/-- Every text may stand between double quotes. -/
theorem stands_double (text : String) (p : Pen) :
    ∃ w, p.Puts (writeDouble p text.toList) w ∧ (∀ c ∈ w, isSpecial c = false) ∧
      Stands text w := by
  have quote : isSpecial '"' = false := by decide
  obtain ⟨w, laid, puts⟩ := puts_double false true (p.write ['"']) text.toList
  refine ⟨'"' :: (w ++ ['"']), ?_, ?_, ?_⟩
  · exact (Pen.Puts.write p ['"']).trans (puts.trans (Pen.Puts.write _ ['"']))
  · simpa [quote, or_imp, forall_and] using laid.plainly
  · refine .quoted '"' (.inr rfl) ⟨_, rfl⟩ fun c tail hr => ?_
    have next : c.next.rest = List.replicate 0 ' ' ++ (w ++ '"' :: '\n' :: tail) := by simp [hr]
    have enough : c.next.rest.length < c.rest.length + 1 := by
      rw [Cursor.next_rest, List.length_tail]
      omega
    obtain ⟨c', behind, read⟩ := quotedTail_doubleLayout laid [] next enough
    refine ⟨c', behind, ?_⟩
    rw [quotedScalar, read]
    simp

/-- The first and the last run of a text whose edges are no blanks are none either. -/
theorem Running.edges {rs : List (RunKind × List Char)} (running : Running rs)
    (filled : flat rs ≠ [])
    (plainly : ∀ c ∈ flat rs, isBreakMark c = false)
    (first : (flat rs).head? ≠ some ' ') (last : (flat rs).getLast? ≠ some ' ') :
    (∃ r ∈ rs.head?, r.1 = .other) ∧ ∀ r ∈ rs.getLast?, r.1 ≠ .blanks := by
  constructor
  · cases running with
    | nil => exact absurd rfl filled
    | @cons kind run more nonempty alike _ _ =>
      obtain ⟨c, run, rfl⟩ := List.exists_cons_of_ne_nil nonempty
      have hc := List.mem_cons_self (a := c) (l := run)
      refine ⟨_, rfl, ?_⟩
      cases kind with
      | other => rfl
      | blanks =>
        obtain rfl := runKind_eq_blanks (alike c hc)
        exact absurd rfl first
      | breaks =>
        have := plainly c (by simp)
        simp [runKind_eq_breaks (alike c hc)] at this
  · rintro ⟨kind, run⟩ hr rfl
    obtain ⟨front, rfl⟩ := List.getLast?_eq_some_iff.mp hr
    obtain ⟨filled, alike⟩ := running.alike _ (List.mem_append_right _ List.mem_cons_self)
    have blank := runKind_eq_blanks (alike _ (List.getLast_mem filled))
    refine last ?_
    simp only [flat_append, flat_cons, flat_nil, List.append_nil]
    rw [List.getLast?_append, List.getLast?_eq_some_getLast filled, blank]
    rfl

/-- A layout of words opens a plain scalar if its text does. -/
theorem Words.opens {rs : List (RunKind × List Char)} {w : List Char} (words : Words rs)
    (layout : Layout (fun c => [c]) rs w) (marks : anyPlace isIndicator none (flat rs) = false) :
    OpensPlain w := by
  have opens {run more v : List Char} (word : Word run)
      (marks : anyPlace isIndicator none (run ++ more) = false)
      (alone : more.head?.all endsWordChar = true) :
      OpensPlain (run.flatMap (fun c => [c]) ++ v) := by
    obtain ⟨ch, run, rfl⟩ := List.exists_cons_of_ne_nil word.filled
    rw [List.cons_append, anyPlace, Bool.or_eq_false_iff] at marks
    have first := marks.1
    simp only [isIndicator, Bool.or_eq_false_iff] at first
    refine ⟨ch, run.flatMap (fun c => [c]) ++ v, by simp, word.visible ch List.mem_cons_self,
      first.1, fun three => ?_⟩
    cases run with
    | nil =>
      obtain rfl | rfl | rfl := three <;> simp [alone] at first
    | cons d run => exact ⟨d, _, rfl, word.visible d (by simp)⟩
  cases layout with
  | nil => cases words
  | other rest =>
    cases words with
    | one word =>
      rw [flat_cons, flat_nil] at marks
      exact opens word marks rfl
    | cons word _ => exact opens word marks (by simp [List.replicate_succ, endsWordChar])
  | blanks rest => cases words
  | fold inside rest => cases words
  | breaks rest => cases words

/-- A text that may stand plain does, if it then is a text. -/
theorem stands_plain {text : String} (kind : Tag.ofPlain text = .str)
    (allowed : allowsPlain text.toList = true) (p : Pen) :
    ∃ w, p.Puts (writePlain p text.toList) w ∧ (∀ c ∈ w, isSpecial c = false) ∧
      Stands text w := by
  have running := running_runs text.toList
  have letters := flat_runs text.toList
  simp only [allowsPlain, Bool.and_eq_true, Bool.not_eq_true', List.any_eq_false] at allowed
  obtain ⟨⟨⟨⟨first, last⟩, -⟩, marks⟩, plainly⟩ := allowed
  have filled : text.toList ≠ [] := by
    intro empty
    rw [String.toList_eq_nil_iff.mp empty] at kind
    exact absurd kind (by decide +kernel)
  have plainly : ∀ c ∈ flat (runs text.toList), isSpecial c = false ∧ isBreakMark c = false := by
    rw [letters]
    simpa using plainly
  have edge {c : Option Char} (h : (c.any fun c => decide (c = ' ') || isBreakMark c) = false) :
      c ≠ some ' ' := by
    rintro rfl
    simp at h
  obtain ⟨front, back⟩ := running.edges (by rwa [letters]) (fun c hc => (plainly c hc).2)
    (by rw [letters]; exact edge first) (by rw [letters]; exact edge last)
  have marks : anyPlace isIndicator none (flat (runs text.toList)) = false := by rwa [letters]
  have words := running.words plainly rfl marks front back
  have unbroken : ∀ r ∈ runs text.toList, r.1 ≠ .breaks := by
    rintro ⟨kind, run⟩ hr rfl
    obtain ⟨nonempty, alike⟩ := running.alike _ hr
    obtain ⟨c, run, rfl⟩ := List.exists_cons_of_ne_nil nonempty
    have hc := List.mem_cons_self (a := c) (l := run)
    have := (plainly c (mem_flat hr hc)).2
    simp [runKind_eq_breaks (alike c hc)] at this
  obtain ⟨w, laid, puts⟩ := puts_plain running unbroken back p
  refine ⟨w, puts, laid.plainly (by simp) fun c hc => (plainly c hc).1, ?_⟩
  refine .plain kind (words.opens laid marks) fun c tail hr margin => ?_
  have enough : c.rest.length < c.rest.length + 1 := by omega
  obtain ⟨c', behind, column, read⟩ := plainTail_layout words laid margin.stops margin.apart
    [] [] false hr enough
  exact ⟨c', behind, column, by rw [plainScalar, read, letters]; rfl⟩

/-- Every text that is written as a scalar stands there. -/
theorem stands_scalar (p : Pen) (text : String) :
    ∃ w, p.Puts (writeScalar p text) w ∧ (∀ c ∈ w, isSpecial c = false) ∧ Stands text w := by
  unfold writeScalar styleOf
  by_cases plain : Tag.ofPlain text = .str ∧ allowsPlain text.toList = true
  · simp only [plain, decide_true, Bool.and_self, if_true]
    exact stands_plain plain.1 plain.2 p
  · rw [if_neg (by simpa using plain)]
    by_cases single : allowsSingle text.toList = true
    · rw [if_pos single]
      exact stands_single single p
    · rw [if_neg single]
      exact stands_double text p

end LintBridge.Yaml
