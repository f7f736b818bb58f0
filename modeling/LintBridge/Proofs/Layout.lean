import LintBridge.Yaml.Write
/-!
What the writers of scalars put down. The width of a line decides only whether a line is folded
at a place; the relations `Layout` and `DoubleLayout` say where it may be, and every text that is
written is laid out so.
-/
namespace LintBridge.Yaml

/-- The characters of runs. -/
def flat (rs : List (RunKind × List Char)) : List Char := rs.flatMap Prod.snd

@[simp] theorem flat_nil : flat [] = [] := rfl

@[simp] theorem flat_cons (r : RunKind × List Char) (rs : List (RunKind × List Char)) :
    flat (r :: rs) = r.2 ++ flat rs := rfl

@[simp] theorem flat_append (rs rs' : List (RunKind × List Char)) :
    flat (rs ++ rs') = flat rs ++ flat rs' := List.flatMap_append

/-- Runs of characters of one kind each, of which two neighbours differ. -/
inductive Running : List (RunKind × List Char) → Prop
  | nil : Running []
  | cons {kind : RunKind} {run : List Char} {more : List (RunKind × List Char)} (filled : run ≠ [])
      (alike : ∀ c ∈ run, runKind c = kind) (apart : ∀ r ∈ more.head?, r.1 ≠ kind)
      (rest : Running more) : Running ((kind, run) :: more)

/-- A text is cut into runs. -/
theorem running_runs (s : List Char) : Running (runs s) := by
  induction s with
  | nil => exact .nil
  | cons c s ih =>
    rw [runs]
    split
    next kind run more h =>
      rw [h] at ih
      cases ih with
      | cons filled alike apart rest =>
        split
        next same =>
          subst same
          refine .cons (by simp) (fun d hd => ?_) apart rest
          rcases List.mem_cons.mp hd with rfl | hd
          · rfl
          · exact alike d hd
        next other =>
          refine .cons (by simp) (by simp) ?_ (.cons filled alike apart rest)
          simpa using other
    next h => exact .cons (by simp) (by simp) (by simp) .nil

theorem flat_runs (s : List Char) : flat (runs s) = s := by
  induction s with
  | nil => rfl
  | cons c s ih =>
    rw [runs]
    split
    next kind run more h =>
      rw [h, flat_cons] at ih
      split <;> simp [ih]
    next h =>
      rw [h] at ih
      simp [← ih]

/-- A layout of runs: characters are spelled one by one, a single blank between other characters
may be folded, and a line end is written twice before an indented line. -/
inductive Layout (spell : Char → List Char) : List (RunKind × List Char) → List Char → Prop
  | nil : Layout spell [] []
  | other {run : List Char} {more : List (RunKind × List Char)} {w : List Char}
      (rest : Layout spell more w) : Layout spell ((.other, run) :: more) (run.flatMap spell ++ w)
  | blanks {run : List Char} {more : List (RunKind × List Char)} {w : List Char}
      (rest : Layout spell more w) : Layout spell ((.blanks, run) :: more) (run ++ w)
  | fold {more : List (RunKind × List Char)} {w : List Char} (inside : more ≠ [])
      (rest : Layout spell more w) :
      Layout spell ((.blanks, [' ']) :: more) ('\n' :: ' ' :: ' ' :: w)
  | breaks {run : List Char} {more : List (RunKind × List Char)} {w : List Char}
      (rest : Layout spell more w) :
      Layout spell ((.breaks, run) :: more)
        (List.replicate (run.length + 1) '\n' ++ ' ' :: ' ' :: w)

/-- Blanks are laid out as they are, or a single one as a folded line. -/
theorem Layout.of_blanks {spell : Char → List Char} {run : List Char}
    {more : List (RunKind × List Char)} {w : List Char}
    (h : Layout spell ((.blanks, run) :: more) w) :
    (∃ v, w = run ++ v ∧ Layout spell more v) ∨
      run = [' '] ∧ ∃ v, w = '\n' :: ' ' :: ' ' :: v ∧ Layout spell more v := by
  cases h with
  | blanks rest => exact .inl ⟨_, rfl, rest⟩
  | fold _ rest => exact .inr ⟨rfl, _, rfl, rest⟩

/-- A pen has put something down behind what was there. -/
def Pen.Puts (p q : Pen) (w : List Char) : Prop := q.written = w.reverse ++ p.written

namespace Pen.Puts

theorem refl (p : Pen) : p.Puts p [] := rfl

theorem trans {p q r : Pen} {v w : List Char} (h : p.Puts q v) (h' : q.Puts r w) :
    p.Puts r (v ++ w) := by
  unfold Puts at *
  rw [h', h, List.reverse_append, List.append_assoc]

theorem write (p : Pen) (w : List Char) : p.Puts (p.write w) w := rfl

theorem fold (p : Pen) : p.Puts p.fold ['\n', ' ', ' '] := rfl

end Pen.Puts

theorem runKind_eq_blanks {c : Char} (h : runKind c = .blanks) : c = ' ' := by
  unfold runKind at h
  split at h
  next blank => exact blank
  next => split at h <;> cases h

/-- A plain run is written as it is, or a single blank is folded. -/
theorem puts_plainRun (p : Pen) {kind : RunKind} {run : List Char}
    (alike : ∀ c ∈ run, runKind c = kind) :
    p.Puts (plainRun p (kind, run)) run ∨
      kind = .blanks ∧ run = [' '] ∧ p.Puts (plainRun p (kind, run)) ['\n', ' ', ' '] := by
  unfold plainRun
  split
  next h =>
    simp only [Bool.and_eq_true, decide_eq_true_eq] at h
    obtain ⟨⟨rfl, one⟩, _⟩ := h
    obtain ⟨c, rfl⟩ := List.length_eq_one_iff.mp one
    obtain rfl := runKind_eq_blanks (alike c List.mem_cons_self)
    exact .inr ⟨rfl, rfl, Pen.Puts.fold p⟩
  next => exact .inl (Pen.Puts.write _ _)

/-- A plain text that does not end with blanks, and has no line ends, is laid out. -/
theorem puts_plain {rs : List (RunKind × List Char)} (running : Running rs)
    (unbroken : ∀ r ∈ rs, r.1 ≠ .breaks) (ending : ∀ r ∈ rs.getLast?, r.1 ≠ .blanks) (p : Pen) :
    ∃ w, Layout (fun c => [c]) rs w ∧ p.Puts (rs.foldl plainRun p) w := by
  induction running generalizing p with
  | nil => exact ⟨[], .nil, .refl p⟩
  | @cons kind run more _ alike _ _ ih =>
    have inside (h : kind = .blanks) : more ≠ [] := by
      rintro rfl
      exact ending (kind, run) (by simp) h
    have ending' : ∀ r ∈ more.getLast?, r.1 ≠ .blanks := by
      cases more with
      | nil => simp
      | cons r more => simpa [List.getLast?_cons_cons] using ending
    obtain ⟨w, rest, puts⟩ := ih (fun r hr => unbroken r (List.mem_cons_of_mem _ hr)) ending'
      (plainRun p (kind, run))
    rw [List.foldl_cons]
    obtain written | ⟨rfl, rfl, folded⟩ := puts_plainRun p alike
    · refine ⟨run ++ w, ?_, written.trans puts⟩
      cases kind with
      | blanks => exact .blanks rest
      | breaks => exact absurd rfl (unbroken _ List.mem_cons_self)
      | other => simpa using Layout.other rest
    · exact ⟨_, .fold (inside rfl) rest, folded.trans puts⟩

/-- How a character is spelled between single quotes. -/
def doubled (c : Char) : List Char := if c = '\'' then ['\'', '\''] else [c]

/-- New lines, one for each character. -/
theorem puts_newLines (run : List Char) (p : Pen) :
    p.Puts (run.foldl (fun p _ => p.newLine) p) (List.replicate run.length '\n') ∧
      (p.column = 0 → (run.foldl (fun p _ => p.newLine) p).column = 0) := by
  induction run generalizing p with
  | nil => exact ⟨.refl p, id⟩
  | cons c run ih =>
    have line : p.Puts p.newLine ['\n'] := rfl
    exact ⟨line.trans (ih p.newLine).1, fun _ => (ih p.newLine).2 rfl⟩

/-- A text whose line ends are line feeds is laid out between single quotes. -/
theorem puts_single {rs : List (RunKind × List Char)} (running : Running rs)
    (feeds : ∀ r ∈ rs, r.1 = .breaks → r.2.head? = some '\n') (first : Bool) (p : Pen) :
    ∃ w, Layout doubled rs w ∧ p.Puts (singleRuns first p rs) w := by
  induction running generalizing first p with
  | nil => exact ⟨[], .nil, .refl p⟩
  | @cons kind run more _ alike _ _ ih =>
    have feeds' := fun r hr => feeds r (List.mem_cons_of_mem _ hr)
    cases kind with
    | blanks =>
      rw [singleRuns]
      split
      next h =>
        simp only [Bool.and_eq_true, decide_eq_true_eq, Bool.not_eq_true',
          List.isEmpty_eq_false_iff] at h
        obtain ⟨c, rfl⟩ := List.length_eq_one_iff.mp h.1.1.1
        obtain rfl := runKind_eq_blanks (alike c List.mem_cons_self)
        obtain ⟨w, rest, puts⟩ := ih feeds' false p.fold
        exact ⟨_, .fold h.2 rest, (Pen.Puts.fold p).trans puts⟩
      next =>
        obtain ⟨w, rest, puts⟩ := ih feeds' false (p.write run)
        exact ⟨_, .blanks rest, (Pen.Puts.write p run).trans puts⟩
    | breaks =>
      rw [singleRuns]
      dsimp only
      rw [if_pos (feeds _ List.mem_cons_self rfl)]
      have lines := puts_newLines run p.newLine
      obtain ⟨w, rest, puts⟩ := ih feeds' false (run.foldl (fun p _ => p.newLine) p.newLine).pad
      refine ⟨_, .breaks rest, ?_⟩
      have line : p.Puts p.newLine ['\n'] := rfl
      have padded : (run.foldl (fun p _ => p.newLine) p.newLine).Puts
          (run.foldl (fun p _ => p.newLine) p.newLine).pad [' ', ' '] := by
        unfold Pen.pad
        rw [lines.2 rfl]
        exact Pen.Puts.write _ _
      simpa [List.replicate_succ] using ((line.trans lines.1).trans padded).trans puts
    | other =>
      obtain ⟨w, rest, puts⟩ := ih feeds' false (p.write (run.flatMap doubled))
      exact ⟨_, .other rest, (Pen.Puts.write p _).trans puts⟩

/-- A layout between double quotes: characters are put down one by one or as escapes, and a folded
line may stand in front of any of them; a blank behind it is escaped. -/
inductive DoubleLayout : List Char → List Char → Prop
  | nil : DoubleLayout [] []
  | plain {c : Char} {s w : List Char} (direct : needsEscape c = false)
      (rest : DoubleLayout s w) : DoubleLayout (c :: s) (c :: w)
  | escape {c : Char} {s w : List Char} (special : needsEscape c = true)
      (rest : DoubleLayout s w) : DoubleLayout (c :: s) (escaped c ++ w)
  | fold {s w : List Char} (next : s.head? ≠ some ' ') (rest : DoubleLayout s w) :
      DoubleLayout s ('\\' :: '\n' :: ' ' :: ' ' :: w)
  | foldBlank {s w : List Char} (rest : DoubleLayout s w) :
      DoubleLayout (' ' :: s) ('\\' :: '\n' :: ' ' :: ' ' :: '\\' :: ' ' :: w)

theorem doubleChars_blank {inside fresh : Bool} {p : Pen} {s : List Char}
    (narrow : p.isWide = false) :
    doubleChars inside fresh p (' ' :: s) = doubleChars true false (p.write [' ']) s := by
  rw [doubleChars, if_neg (by decide)]
  simp [narrow]

/-- Every text is laid out between double quotes. -/
theorem puts_double : ∀ (inside fresh : Bool) (p : Pen) (s : List Char),
    ∃ w, DoubleLayout s w ∧ p.Puts (doubleChars inside fresh p s) w
  | _, _, p, [] => ⟨[], .nil, .refl p⟩
  | inside, fresh, p, c :: rest => by
    have wrapped (p : Pen) : p.Puts (p.write ['\\']).fold ['\\', '\n', ' ', ' '] :=
      (Pen.Puts.write p ['\\']).trans (Pen.Puts.fold _)
    rw [doubleChars]
    split
    next special =>
      have first := Pen.Puts.write p (escaped c)
      dsimp only
      split
      next =>
        split
        next blank =>
          obtain ⟨s, rfl⟩ : ∃ s, rest = ' ' :: s := List.head?_eq_some_iff.mp blank
          rw [doubleChars_blank rfl]
          obtain ⟨w, laid, puts⟩ := puts_double true false _ s
          exact ⟨_, .escape special (.foldBlank laid),
            first.trans ((wrapped _).trans
              ((Pen.Puts.write _ ['\\']).trans ((Pen.Puts.write _ [' ']).trans puts)))⟩
        next nonblank =>
          obtain ⟨w, laid, puts⟩ := puts_double true true _ rest
          exact ⟨_, .escape special (.fold nonblank laid), first.trans ((wrapped _).trans puts)⟩
      next =>
        obtain ⟨w, laid, puts⟩ := puts_double true true _ rest
        exact ⟨_, .escape special laid, first.trans puts⟩
    next direct =>
      have direct : needsEscape c = false := by simpa using direct
      dsimp only
      split
      next =>
        split
        next blank =>
          subst blank
          obtain ⟨w, laid, puts⟩ := puts_double true false _ rest
          exact ⟨_, .foldBlank laid, (wrapped p).trans
            ((Pen.Puts.write _ ['\\']).trans ((Pen.Puts.write _ [' ']).trans puts))⟩
        next nonblank =>
          obtain ⟨w, laid, puts⟩ := puts_double true false _ rest
          exact ⟨_, .fold (by simpa using nonblank) (.plain direct laid),
            (wrapped p).trans ((Pen.Puts.write _ [c]).trans puts)⟩
      next =>
        obtain ⟨w, laid, puts⟩ := puts_double true false _ rest
        exact ⟨_, .plain direct laid, (Pen.Puts.write p [c]).trans puts⟩

end LintBridge.Yaml
