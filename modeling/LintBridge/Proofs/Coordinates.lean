import LintBridge.Proofs.Offers
import LintBridge.Proofs.Uninterrupted
/-!
Coordinates beyond the editor protocol. The reader of batches takes every natural number as
a line or a character, the protocol none over 2^31 - 1. A batch that was accepted is
translated exactly up to its first coordinate beyond, and that coordinate ends the cycle
that would have published the batch (`coordinate_surfaces_iff`).
-/
namespace LintBridge

open Effect (publications)

/-- Is a coordinate too large for the editor protocol? -/
def CoordinateFault.isBeyond : CoordinateFault → Bool
  | line n | character n => maxCoordinate < n

/-- The coordinates of a position, the line first. -/
def Position.coordinates (p : Position) : List CoordinateFault :=
  [.line p.line, .character p.character]

/-- The coordinates of an interval, those of its start first. -/
def Interval.coordinates (a : Interval) : List CoordinateFault :=
  a.start.coordinates ++ a.stop.coordinates

/-- A reading fails for the first coordinate of a list that is too large, and for no other
reason. -/
def StopsAt {α : Type} (r : Except CoordinateFault α) (cs : List CoordinateFault) : Prop :=
  ∀ f, r = .error f ↔ cs.find? CoordinateFault.isBeyond = some f

namespace StopsAt

variable {α β : Type} {r : Except CoordinateFault α} {cs ds : List CoordinateFault}

theorem ok (a : α) : StopsAt (.ok a) [] := by
  intro f
  simp

theorem isOk_iff (h : StopsAt r cs) :
    (∃ a, r = .ok a) ↔ cs.find? CoordinateFault.isBeyond = none := by
  rw [Option.eq_none_iff_forall_ne_some]
  cases r with
  | ok a =>
    have passes : ∀ f, cs.find? CoordinateFault.isBeyond ≠ some f := by
      intro f hf
      cases (h f).mpr hf
    simpa using passes
  | error f => simpa using ⟨f, (h f).mp rfl⟩

/-- One reading after another has the coordinates of both. -/
theorem bind (h : StopsAt r cs) {next : α → Except CoordinateFault β}
    (hn : ∀ a, StopsAt (next a) ds) : StopsAt (r >>= next) (cs ++ ds) := by
  intro f
  rw [List.find?_append, Option.or_eq_some_iff]
  cases r with
  | error g =>
    have first := (h g).mp rfl
    simp [Bind.bind, Except.bind, first]
  | ok a =>
    have passes := h.isOk_iff.mp ⟨a, rfl⟩
    simpa [Bind.bind, Except.bind, passes] using hn a f

theorem map (h : StopsAt r cs) (g : α → β) : StopsAt (r.map g) cs := by
  intro f
  rw [← h f]
  cases r <;> simp [Except.map]

end StopsAt

namespace EditorRange

/-- A position is refused for the first of its coordinates that is too large. -/
theorem stopsAt_position (p : Position) :
    StopsAt (position p.line p.character) p.coordinates := by
  intro f
  have hl : (0 : Int) ≤ p.line ∧ (p.line : Int) ≤ maxCoordinate ↔ p.line ≤ maxCoordinate := by
    omega
  have hc : (0 : Int) ≤ p.character ∧ (p.character : Int) ≤ maxCoordinate ↔
      p.character ≤ maxCoordinate := by
    omega
  simp only [position, hl, hc, Position.coordinates, List.find?_cons, List.find?_nil,
    CoordinateFault.isBeyond, ← not_le]
  by_cases line : p.line ≤ maxCoordinate <;> by_cases character : p.character ≤ maxCoordinate <;>
    simp [line, character]

/-- An interval is refused for the first of its coordinates that is too large. -/
theorem stopsAt_ofInterval (a : Interval) : StopsAt (ofInterval a) a.coordinates := by
  have steps : ofInterval a = position a.start.line a.start.character >>= fun start =>
      (position a.stop.line a.stop.character).map fun stop =>
        ⟨⟨start, stop⟩, start.property, stop.property⟩ := by
    unfold ofInterval ofCoordinates
    cases position a.start.line a.start.character with
    | error g => rfl
    | ok start => cases position a.stop.line a.stop.character <;> rfl
  rw [steps]
  exact (stopsAt_position a.start).bind fun start => (stopsAt_position a.stop).map _

end EditorRange

namespace Violation

/-- The coordinates of a violation, those of its suggested fix last. -/
def coordinates (v : Violation) : List CoordinateFault :=
  v.range.toInterval.coordinates ++
    v.suggestedFix.elim [] fun fix => fix.range.toInterval.coordinates

/-- The first coordinate of a batch that is too large for the editor protocol. -/
def firstBeyond? (vs : List Violation) : Option CoordinateFault :=
  (vs.flatMap coordinates).find? CoordinateFault.isBeyond

theorem stopsAt_finding (uri : String) (v : Violation) :
    StopsAt (v.finding uri) v.coordinates := by
  unfold finding diagnostic coordinates
  refine ((EditorRange.stopsAt_ofInterval _).map _).bind fun d => ?_
  cases v.suggestedFix with
  | none => exact .ok _
  | some fix =>
    have fixed := ((EditorRange.stopsAt_ofInterval fix.range.toInterval).map fun range =>
      StoredAction.mk d.range ⟨"Fix: " ++ d.message, [d], [(uri, [⟨range, fix.replacement⟩])]⟩)
    have stored := fixed.bind fun a => .ok (Finding.mk d (some a))
    rwa [List.append_nil] at stored

/-- A batch is refused for the first of its coordinates that is too large. -/
theorem stopsAt_findings (uri : String) (vs : List Violation) :
    StopsAt (findings uri vs) (vs.flatMap coordinates) := by
  induction vs with
  | nil => exact .ok _
  | cons v vs ih =>
    rw [List.flatMap_cons, findings]
    refine (stopsAt_finding uri v).bind fun found => ?_
    have rest := ih.bind fun more => .ok (found :: more)
    rwa [List.append_nil] at rest

end Violation

/-- No run of the linter fails for a coordinate. -/
theorem Invocation.conclude_ne_coordinate (i : Invocation) (e : ProcessEnd)
    (f : CoordinateFault) : (i.conclude e).result ≠ .error (.coordinate f) := by
  cases e with
  | refused err => simp [conclude, failing]
  | refusedArgument => simp [conclude]
  | outlasted gone => simp [conclude, timedOut, failing]
  | exited status stdout stderr =>
    simp only [conclude]
    split
    · simp [timedOut, failing]
    · simp only [exited]
      split
      · simp [failing]
      · obtain ⟨vs, -, hp⟩ | ⟨cause, -, hp⟩ | ⟨digits, -, hp⟩ :=
          Batch.parse_cases (Text.Utf8.decodeLenient stdout)
        all_goals simp [hp, failing]

namespace Session

/-- No rule file is refused for a coordinate. -/
theorem rulesPath_ne_coordinate (s : Session) (uri : String) (f : CoordinateFault) :
    s.rulesPath uri ≠ .error (.coordinate f) := by
  unfold rulesPath rootFor
  split
  · simp
  · split
    · simp [Except.map]
    · simp [Except.map]
    · split <;> simp [Except.map]

theorem enterBase_ne_error (s : Session) (fs : FileSystem) (uri source : String)
    (generation : Nat) (found : Option Toolchain) (f : Failure) :
    (s.enterBase fs uri source generation found).value ≠ .ended (.error f) := by
  cases found <;> simp [enterBase]

/-- A search never ends a cycle for a coordinate. -/
theorem afterSearch_ne_coordinate (s : Session) (fs : FileSystem) (uri source : String)
    (generation : Nat) (known : Bool) (step : Toolchain.SearchStep) (f : CoordinateFault) :
    (s.afterSearch fs uri source generation known step).value ≠
      .ended (.error (.coordinate f)) := by
  unfold afterSearch
  dsimp only
  split
  · split
    · exact enterBase_ne_error s fs uri source generation _ _
    · split
      · simp
      · exact enterBase_ne_error _ _ uri source generation _ _
  · simp
  · simp

theorem finish_coordinate_iff (s : Session) (fs : FileSystem) (canPublish : Bool) (c : Cycle)
    (vs : List Violation) (n : Nat) (f : CoordinateFault) :
    (s.finish fs canPublish c vs n).value = .ended (.error (.coordinate f)) ↔
      s.isCurrent c.uri c.generation = true ∧ Violation.firstBeyond? vs = some f := by
  have stops := Violation.stopsAt_findings c.uri vs f
  rw [Violation.firstBeyond?, ← stops]
  cases current : s.isCurrent c.uri c.generation with
  | false => simp [finish, current]
  | true =>
    cases translated : Violation.findings c.uri vs with
    | error g => simp [finish, current, translated]
    | ok findings => cases canPublish <;> simp [finish, current, translated]

/-- A step ends a cycle for a coordinate exactly when it is the last step of the newest cycle
of its document and the violations of the passes hold that coordinate as the first one
beyond. -/
theorem resume_coordinate_iff (s : Session) (fs : FileSystem) (canPublish : Bool) (c : Cycle)
    (r : Reply) (f : CoordinateFault) :
    (s.resume fs canPublish c r).value = .ended (.error (.coordinate f)) ↔
      s.isCurrent c.uri c.generation = true ∧
        ∃ vs, s.harvest c r = some vs ∧ Violation.firstBeyond? vs = some f := by
  unfold resume
  split
  next search hs =>
    have unharvested : s.harvest c .looked = none := by simp [harvest, hs]
    simp [unharvested, afterSearch_ne_coordinate]
  next plan e hs =>
    have notBase := Invocation.conclude_ne_coordinate (invocation plan none) e f
    dsimp only
    split
    next g hr =>
      have other : g ≠ .coordinate f := by
        rintro rfl
        exact notBase hr
      simp [harvest, hs, hr, other]
    next vs hr =>
      have notRules := s.rulesPath_ne_coordinate c.uri f
      rw [afterBase_eq]
      cases hp : s.rulesPath c.uri with
      | error g =>
        have other : g ≠ .coordinate f := by
          rintro rfl
          exact notRules hp
        simp [harvest, hs, hr, hp, other]
      | ok rules =>
        cases rules with
        | none => simp [harvest, hs, hr, hp, finish_coordinate_iff]
        | some path => simp [harvest, hs, hr, hp]
  next plan rules base e hs =>
    have notRules := Invocation.conclude_ne_coordinate (invocation plan (some rules)) e f
    dsimp only
    split
    next g hr =>
      have other : g ≠ .coordinate f := by
        rintro rfl
        exact notRules hr
      simp [harvest, hs, hr, other]
    next vs hr => simp [harvest, hs, hr, finish_coordinate_iff]
  next r stage reply h₁ h₂ h₃ =>
    have unharvested : s.harvest c r = none := harvest_eq_none h₂ h₃
    simp [unharvested]

/-- An output that is accepted as a batch is translated, whatever the document, exactly if no
coordinate of it is beyond the editor protocol, and otherwise fails for the first one that
is. A step of a cycle, whatever came in between, ends the cycle for a coordinate exactly if
the cycle is the newest of its document and the violations of its passes are such a batch. -/
theorem coordinate_surfaces_iff (text : String) (uri : String) (s : Session) (fs : FileSystem)
    (canPublish : Bool) (c : Cycle) (r : Reply) (f : CoordinateFault) :
    ((∃ vs findings, Batch.parse text = .ok vs ∧ Violation.findings uri vs = .ok findings) ↔
      ∃ vs, Batch.Accepts text vs ∧ Violation.firstBeyond? vs = none) ∧
    ((∃ vs, Batch.parse text = .ok vs ∧ Violation.findings uri vs = .error f) ↔
      ∃ vs, Batch.Accepts text vs ∧ Violation.firstBeyond? vs = some f) ∧
    ((s.resume fs canPublish c r).value = .ended (.error (.coordinate f)) ↔
      s.isCurrent c.uri c.generation = true ∧
        ∃ vs, s.harvest c r = some vs ∧ Violation.firstBeyond? vs = some f) := by
  refine ⟨?_, ?_, resume_coordinate_iff s fs canPublish c r f⟩
  · simp only [Batch.parse_eq_ok_iff, exists_and_left, Violation.firstBeyond?,
      (Violation.stopsAt_findings uri _).isOk_iff]
  · simp only [Batch.parse_eq_ok_iff, Violation.firstBeyond?, Violation.stopsAt_findings uri _ f]

/-- A cycle that nothing interrupts and that has no rule file ends with the first coordinate
beyond of what its process prints, and publishes nothing. -/
theorem lintDocument_beyond {s : Session} (timed : s.Timed) {language : Option String}
    (linted : s.isLintable language = true) {uri : String} (plain : s.rulesPath uri = .ok none)
    {fs : FileSystem} {t : Toolchain} (linter : (s.ensureToolchain fs).value = .ok (some t))
    {stdout : List UInt8} {vs : List Violation}
    (parsed : Batch.parse (Text.Utf8.decodeLenient stdout) = .ok vs) {f : CoordinateFault}
    (beyond : Violation.firstBeyond? vs = some f) (canPublish : Bool) (source : String)
    (ends : List ProcessEnd) :
    let turn := s.lintDocument fs canPublish none uri source language
      (.exited (some 0) stdout [] :: ends)
    publications turn.effects = [] ∧ turn.value = .ended (.error (.coordinate f)) := by
  intro turn
  let ready := (s.ensureToolchain fs).session
  obtain ⟨-, generations, roots, rulePath, timeout⟩ := ensureToolchain_kept s fs
  have plain' : (ready.advance uri).rulesPath uri = .ok none := by
    simpa [rulesPath, ready, roots, rulePath] using plain
  have timed' : ready.Timed := by
    simpa [Timed, ready, timeout] using timed
  have result : ((invocation (ready.plan t) none).conclude (.exited (some 0) stdout [])).result =
      .ok vs := by
    simp [Invocation.conclude, timed'.hasNoTime t none, Invocation.exited, parsed]
  have current : (ready.advance uri).isCurrent uri (s.generation uri + 1) = true := by
    simp [isCurrent, advance, generation, ready, generations]
  have refused := (Violation.stopsAt_findings uri vs f).mpr beyond
  obtain ⟨es, more, quiet, searched⟩ := lintDocument_basePass linted linter canPublish uri source
    (.exited (some 0) stdout [] :: ends)
  rw [playFuel_pass rfl (by simp), resume_basePass rfl result, afterBase_eq, plain',
    finish_fault current refused, after_after] at searched
  have whole := searched.trans (playFuel_ended rfl canPublish (more + 2) ends 1)
  change turn = _ at whole
  rw [whole]
  have before := quiet_endPass ⟨uri, s.generation uri + 1⟩
    ((invocation (ready.plan t) none).conclude (.exited (some 0) stdout []))
  exact ⟨by simp [after, quiet.1, before.1], rfl⟩

/-- A batch of one violation on the line 2147483648. -/
def beyondText : List Char :=
  let position := "\x7b\"line\":2147483648".toList ++ ",\"character\":0\x7d".toList
  "[\x7b\"range\":".toList ++ Activity.printedRange position position ++
    ",\"severity\":2,\"code\":\"c\"".toList ++ ",\"source\":\"l\",\"message\":\"m\"\x7d]".toList

/-- The violation of that batch. -/
def beyondViolation : Violation :=
  ⟨⟨⟨⟨2147483648, 0⟩, ⟨2147483648, 0⟩⟩, by decide⟩, .warning, "c", "l", "m", none, none, none⟩

def beyondBatch : List UInt8 := beyondText.map fun c => UInt8.ofNat c.toNat

/-- A line just beyond the protocol is accepted as part of a batch, and ends a cycle that
should have published the batch or reported it as malformed. -/
theorem accepted_line_surfaces :
    let s := Session.fresh ⟨"/opt/lute", "", none, none, ["luau"], none⟩ [] false ⟨1, []⟩ "lute"
    let files : FileSystem := .empty
    let turn := s.lintDocument files true none "file:///ws/a.luau" "x" (some "luau")
      [.exited (some 0) beyondBatch []]
    (∃ vs, Batch.parse (Text.Utf8.decodeLenient beyondBatch) = .ok vs ∧
      ∀ uri, Violation.findings uri vs = .error (.line 2147483648)) ∧
      publications turn.effects = [] ∧
      turn.value = .ended (.error (.coordinate (.line 2147483648))) := by
  intro s files turn
  have characters : Text.Utf8.lenientFuel (beyondBatch.length + 1) beyondBatch [] =
      beyondText := by
    decide +kernel
  have batch : Activity.batchOf? beyondText = some [beyondViolation] := by
    decide +kernel
  have parsed := Activity.parse_of_batchOf? characters batch
  have timed : s.Timed := by intro limit h; cases h
  have linted : s.isLintable (some "luau") = true := by decide
  have plain : s.rulesPath "file:///ws/a.luau" = .ok none := by cbv
  have linter : (s.ensureToolchain files).value = .ok (some ⟨"/opt/lute", none, .explicit⟩) := by
    cbv
  have beyond : Violation.firstBeyond? [beyondViolation] = some (.line 2147483648) := by decide
  have refused : ∀ uri, Violation.findings uri [beyondViolation] = .error (.line 2147483648) :=
    fun uri => (Violation.stopsAt_findings uri _ _).mpr beyond
  exact ⟨⟨_, parsed, refused⟩, lintDocument_beyond timed linted plain linter parsed beyond
    true "x" []⟩

end Session
end LintBridge
