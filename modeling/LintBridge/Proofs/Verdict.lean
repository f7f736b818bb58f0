import Mathlib
import LintBridge.Script.Start
import LintBridge.Proofs.Acceptance
import LintBridge.Proofs.DigitRuns
/-!
What becomes of a run of the linter. A run that returns gives the violations of an accepted
batch, or none and one report of what went wrong. It does not return in two cases: no
process can be started with a NUL in an argument, and an integer with too many digits stops
the reader (`returns_iff`).
-/
namespace LintBridge

/-- The failures among reports, with the arguments of their passes, in order. -/
def Log.failures (es : List Log.Event) : List (Fault × List String) :=
  es.filterMap fun e => match e with
    | .invocationFailed fault ruleArgs => some (fault, ruleArgs)
    | _ => none

@[simp] theorem Log.failures_nil : failures [] = [] := rfl

@[simp] theorem Log.failures_append (es es' : List Log.Event) :
    failures (es ++ es') = failures es ++ failures es' := by
  simp [failures]

namespace ProcessEnd

/-- A process exits with status zero and has printed a batch. -/
def Accepts (e : ProcessEnd) (vs : List Violation) : Prop :=
  ∃ stdout stderr, e = .exited (some 0) stdout stderr ∧
    Batch.Accepts (Text.Utf8.decodeLenient stdout) vs

/-- A process exits with status zero and has printed an integer with too many digits. -/
def Overlong (e : ProcessEnd) (digits : Nat) : Prop :=
  ∃ stdout stderr, e = .exited (some 0) stdout stderr ∧
    Batch.Overlong (Text.Utf8.decodeLenient stdout) digits

/-- The violations of a run: those of a batch that was printed before the process exited
with status zero, and none otherwise. -/
def violations : ProcessEnd → List Violation
  | .exited (some 0) stdout _ => (Batch.parse (Text.Utf8.decodeLenient stdout)).toOption.getD []
  | _ => []

theorem violations_of_accepts {e : ProcessEnd} {vs : List Violation} (h : e.Accepts vs) :
    e.violations = vs := by
  obtain ⟨stdout, stderr, rfl, accepts⟩ := h
  simp [violations, Batch.parse_eq_ok_iff.mpr accepts, Except.toOption]

/-- A process gives the violations of an accepted batch, and none if there is no such batch. -/
def Gives (e : ProcessEnd) (vs : List Violation) : Prop :=
  e.Accepts vs ∨ vs = [] ∧ ∀ vs', ¬ e.Accepts vs'

theorem violations_eq_iff {e : ProcessEnd} {vs : List Violation} :
    e.violations = vs ↔ e.Gives vs := by
  unfold Gives
  by_cases accepted : ∃ vs', e.Accepts vs'
  · obtain ⟨vs', accepts⟩ := accepted
    rw [violations_of_accepts accepts]
    constructor
    · rintro rfl
      exact .inl accepts
    · rintro (h | ⟨-, none⟩)
      · rw [← violations_of_accepts accepts, violations_of_accepts h]
      · exact absurd accepts (none vs')
  · have none : ∀ vs', ¬ e.Accepts vs' := fun vs' h => accepted ⟨vs', h⟩
    have empty : e.violations = [] := by
      unfold violations
      split
      next stdout stderr =>
        cases hp : Batch.parse (Text.Utf8.decodeLenient stdout) with
        | error f => rfl
        | ok vs' => exact absurd ⟨stdout, stderr, rfl, Batch.parse_eq_ok_iff.mp hp⟩ (none vs')
      next => rfl
    rw [empty]
    constructor
    · rintro rfl
      exact .inr ⟨rfl, none⟩
    · rintro (h | ⟨rfl, -⟩)
      · exact absurd h (none vs)
      · rfl

/-- The digits of the integer stand in the output. -/
theorem run_of_overlong {e : ProcessEnd} {digits : Nat} (h : e.Overlong digits) :
    ∃ stdout stderr, e = .exited (some 0) stdout stderr ∧
      Json.LongRun digits (Text.Utf8.decodeLenient stdout).toList := by
  obtain ⟨stdout, stderr, he, overlong⟩ := h
  exact ⟨stdout, stderr, he, Json.run_of_digitLimit overlong⟩

end ProcessEnd

namespace Invocation

/-- Why a run fails: its process could not be started, took too long, or exited with another
status than zero, or its output is no batch. -/
inductive Fails (i : Invocation) : ProcessEnd → Cause → Prop where
  | unstarted (e : SystemError) : Fails i (.refused e) (.spawnFailed i.executable e.message)
  | late (gone : Bool) :
    Fails i (.outlasted gone)
      (.timedOut i.executable (i.limit.getD (.real (.finite false 0 (-1074)))))
  | status {status : Option Int} {stdout stderr : List UInt8} (other : status ≠ some 0) :
    Fails i (.exited status stdout stderr)
      (.exitStatus (status.getD (-1)) (Text.stripped (Text.Utf8.decodeLenient stderr)))
  | output {stdout stderr : List UInt8} {cause : Cause}
    (refused : Batch.Refuses (Text.Utf8.decodeLenient stdout) cause) :
    Fails i (.exited (some 0) stdout stderr) cause

/-- The numbers of the causes for which runs fail. -/
theorem Fails.code {i : Invocation} {e : ProcessEnd} {cause : Cause} (h : i.Fails e cause) :
    cause.code ∈ [2001, 2002, 2003, 2004, 2101] := by
  cases h with
  | unstarted e => simp [Cause.code]
  | late gone => simp [Cause.code]
  | status other => simp [Cause.code]
  | output refused => cases refused <;> simp [Cause.code]

/-- What a run returns and what it reports. -/
inductive Returns (i : Invocation) (e : ProcessEnd) : List Violation → List Log.Event → Prop where
  | accepted {vs : List Violation} {events : List Log.Event} (accepts : e.Accepts vs)
    (quiet : Log.failures events = []) : Returns i e vs events
  | failed {cause : Cause} {events : List Log.Event} (fails : i.Fails e cause)
    (code : cause.code ∈ [2001, 2002, 2003, 2004, 2101])
    (once : Log.failures events = [(cause.toFault, i.ruleArgs)]) : Returns i e [] events

/-- A limit that leaves time is not zero. -/
theorem limit_of_hasNoTime {i : Invocation} (timed : i.hasNoTime = false) :
    (if (i.limit.getD (.whole 0)).isZero then Seconds.real (.finite false 0 (-1074))
      else i.limit.getD (.whole 0)) = i.limit.getD (.real (.finite false 0 (-1074))) := by
  unfold hasNoTime at timed
  cases hl : i.limit with
  | none => simp [Seconds.isZero]
  | some limit =>
    rw [hl] at timed
    cases limit with
    | whole n =>
      have positive : ¬ n ≤ 0 := by simpa using timed
      have : n ≠ 0 := by omega
      simp [Seconds.isZero, this]
    | real x =>
      cases x with
      | nan => simp [Seconds.isZero]
      | infinite negative => simp [Seconds.isZero]
      | finite negative m e =>
        have : m ≠ 0 := by
          rintro rfl
          simp [Binary64.isNonPositive, Binary64.isPositive] at timed
        simp [Seconds.isZero, this]

/-- A run that is reported as failed for a cause returns no violations. -/
theorem returns_failing {i : Invocation} {e : ProcessEnd} {cause : Cause}
    (fails : i.Fails e cause) {events : List Log.Event} (quiet : Log.failures events = [])
    (fate : Fate) :
    i.Returns e [] (i.failing events cause.toFault fate).events := by
  refine .failed fails fails.code ?_
  rw [failing, Log.failures_append, quiet]
  rfl

/-- The report at the beginning of a run is no failure. -/
theorem Returns.announced {i : Invocation} {e : ProcessEnd} {vs : List Violation}
    {events : List Log.Event} (h : i.Returns e vs events) (cwd : Option String) :
    i.Returns e vs (i.announce cwd :: events) := by
  cases h with
  | accepted accepts quiet => exact .accepted accepts quiet
  | failed fails code once => exact .failed fails code once

/-- A complaint of the process is no failure. -/
theorem failures_complaint (i : Invocation) (complaint : String) :
    Log.failures (if complaint.isEmpty then []
      else [Log.Event.lintStderr i.executable (Text.stripped complaint)]) = [] := by
  split <;> rfl

/-- What a run comes to: it returns, or fails to start for a NUL, or the reader stops. -/
theorem conclude_cases (i : Invocation) (timed : i.hasNoTime = false) (e : ProcessEnd) :
    (e = .refusedArgument ∧ (i.conclude e).result = .error .nulCharacter) ∨
    (∃ digits, e.Overlong digits ∧ (i.conclude e).result = .error (.digitLimit digits)) ∨
    ((i.conclude e).result = .ok e.violations ∧
      i.Returns e e.violations (i.conclude e).events) := by
  cases e with
  | refused err =>
    exact .inr (.inr ⟨rfl, returns_failing (.unstarted err) rfl .left⟩)
  | refusedArgument => exact .inl ⟨rfl, rfl⟩
  | outlasted gone =>
    refine .inr (.inr ⟨rfl, ?_⟩)
    have late : i.Fails (.outlasted gone) _ := .late gone
    rw [← limit_of_hasNoTime timed] at late
    exact returns_failing late rfl _
  | exited status stdout stderr =>
    have quiet := failures_complaint i (Text.Utf8.decodeLenient stderr)
    simp only [conclude, timed, Bool.false_eq_true, ↓reduceIte, exited]
    by_cases hs : status = some 0
    · subst hs
      simp only [ne_eq, not_true_eq_false, ↓reduceIte, ProcessEnd.violations]
      obtain ⟨vs, accepts, hp⟩ | ⟨cause, refused, hp⟩ | ⟨digits, overlong, hp⟩ :=
        Batch.parse_cases (Text.Utf8.decodeLenient stdout)
      · refine .inr (.inr ?_)
        rw [hp]
        refine ⟨rfl, .accepted ⟨stdout, stderr, rfl, accepts⟩ ?_⟩
        rw [Log.failures_append, quiet]
        rfl
      · refine .inr (.inr ?_)
        rw [hp]
        exact ⟨rfl, returns_failing (.output refused) quiet .left⟩
      · refine .inr (.inl ⟨digits, ⟨stdout, stderr, rfl, overlong⟩, ?_⟩)
        rw [hp]
    · refine .inr (.inr ?_)
      have none : (ProcessEnd.exited status stdout stderr).violations = [] := by
        unfold ProcessEnd.violations
        split
        next he =>
          cases he
          exact absurd rfl hs
        next => rfl
      rw [none, if_pos hs]
      exact ⟨rfl, returns_failing (.status hs) quiet .left⟩

theorem result_of_overlong {i : Invocation} (timed : i.hasNoTime = false) {e : ProcessEnd}
    {digits : Nat} (h : e.Overlong digits) :
    (i.conclude e).result = .error (.digitLimit digits) := by
  obtain ⟨stdout, stderr, rfl, overlong⟩ := h
  have stopped : Batch.parse (Text.Utf8.decodeLenient stdout) = .error (.digitLimit digits) := by
    have decoded : Json.decode (Text.Utf8.decodeLenient stdout) = .error (.digitLimit digits) :=
      overlong
    simp [Batch.parse, decoded]
  simp [conclude, timed, exited, stopped]

/-- A run of the linter, on whatever text and whatever becomes of its process, returns
unless an argument or the working directory holds a NUL or an integer in the output has too
many digits. -/
theorem returns_iff (executable : String) (ruleArgs : List String) (text : String)
    (cwd : Option String) (limit : Option Seconds) (e : ProcessEnd)
    (timed : (⟨executable, ruleArgs, limit⟩ : Invocation).hasNoTime = false)
    (host : e = .refusedArgument ↔
      Command.holdsNul (Command.line executable ruleArgs text) cwd = true) :
    let i : Invocation := ⟨executable, ruleArgs, limit⟩
    (∀ vs, (i.conclude e).result = .ok vs →
      i.Returns e vs (i.announce cwd :: (i.conclude e).events)) ∧
    ((∃ vs, (i.conclude e).result = .ok vs) ↔
      Command.holdsNul (Command.line executable ruleArgs text) cwd = false ∧
        ∀ digits, ¬ e.Overlong digits) ∧
    ∀ digits, e.Overlong digits → ∃ stdout stderr, e = .exited (some 0) stdout stderr ∧
      Json.LongRun digits (Text.Utf8.decodeLenient stdout).toList := by
  intro i
  refine ⟨?_, ⟨?_, ?_⟩, fun digits h => ProcessEnd.run_of_overlong h⟩
  · intro vs hvs
    obtain ⟨-, hr⟩ | ⟨digits, -, hr⟩ | ⟨hr, returns⟩ := conclude_cases i timed e
    · rw [hr] at hvs
      cases hvs
    · rw [hr] at hvs
      cases hvs
    · rw [hr, Except.ok.injEq] at hvs
      rw [← hvs]
      exact returns.announced cwd
  · rintro ⟨vs, hvs⟩
    constructor
    · rw [← Bool.not_eq_true, ← host]
      rintro rfl
      cases hvs
    · intro digits overlong
      rw [result_of_overlong timed overlong] at hvs
      cases hvs
  · rintro ⟨nul, short⟩
    obtain ⟨refused, -⟩ | ⟨digits, overlong, -⟩ | ⟨hr, -⟩ := conclude_cases i timed e
    · rw [host.mp refused] at nul
      cases nul
    · exact absurd overlong (short digits)
    · exact ⟨_, hr⟩

/-- A process that prints a batch and exits with status 3 leaves no violations and one
report. -/
theorem returns_nonzero_exit :
    let i : Invocation := ⟨"lute", ["-j"], some (.whole 1)⟩
    let e : ProcessEnd := .exited (some 3) [91, 93] [33]
    let line := Command.line "lute" ["-j"] "é\n"
    i.hasNoTime = false ∧ (e = .refusedArgument ↔ Command.holdsNul line none = true) ∧
      (i.conclude e).result = .ok [] ∧
      i.Returns e [] (i.announce none :: (i.conclude e).events) ∧
      Log.failures (i.conclude e).events =
        [((Cause.exitStatus 3 "!").toFault, ["-j"])] := by
  intro i e line
  have timed : i.hasNoTime = false := by decide
  have clean : Command.holdsNul line none = false := by cbv
  have host : e = .refusedArgument ↔ Command.holdsNul line none = true := by simp [e, clean]
  have result : (i.conclude e).result = .ok [] := rfl
  exact ⟨timed, host, result,
    (returns_iff "lute" ["-j"] "é\n" none (some (.whole 1)) e timed host).1 [] result, by cbv⟩

end Invocation

/-- Starting a process on a file system is refused for what an argument holds exactly if one
holds a NUL. -/
theorem Script.start_eq_refusedArgument_iff (fs : FileSystem) (command : List String)
    (cwd : Option String) (limit : Option Seconds) :
    start fs command cwd limit = .refusedArgument ↔ Command.holdsNul command cwd = true := by
  unfold start
  cases hn : Command.holdsNul command cwd with
  | true => simp
  | false =>
    simp only [Bool.false_eq_true, ↓reduceIte, iff_false]
    -- None of the ways in which a process ends or fails to start is a refused argument.
    repeat' split
    all_goals simp

theorem Text.Utf8.lenientFuel_nines (n fuel : Nat) (h : n < fuel) (acc : List Char) :
    lenientFuel fuel (List.replicate n 57) acc = acc.reverse ++ List.replicate n '9' := by
  induction n generalizing fuel acc with
  | zero =>
    obtain ⟨fuel, rfl⟩ := Nat.exists_eq_succ_of_ne_zero (Nat.ne_of_gt h)
    simp [lenientFuel, step]
  | succ n ih =>
    obtain ⟨fuel, rfl⟩ := Nat.exists_eq_succ_of_ne_zero (Nat.ne_of_gt (Nat.zero_lt_of_lt h))
    have digit : step (List.replicate (n + 1) 57) = .char '9' (List.replicate n 57) := rfl
    rw [lenientFuel, digit]
    simp [ih fuel (by omega), List.replicate_succ]

theorem Batch.overlong_nines {n : Nat} (h : digitLimit < n) :
    Overlong (Text.Utf8.decodeLenient (List.replicate n 57)) n := by
  unfold Overlong Json.decode Text.Utf8.decodeLenient
  rw [Text.Utf8.lenientFuel_nines n _ (by simp), String.toList_ofList]
  simp [Json.document_nines h, Except.mapError, Json.Stop.refusal]

/-- Two runs that do not return: the output is an integer of 4301 digits, and the text to be
linted holds a NUL. -/
theorem Invocation.runs_without_return :
    let i : Invocation := ⟨"lute", ["-j"], none⟩
    let files : FileSystem := .empty
    let line := Command.line "lute" ["-j"] "x\x00"
    (i.conclude (.exited (some 0) (List.replicate 4301 57) [])).result =
        .error (.digitLimit 4301) ∧
      (i.conclude (Script.start files line none none)).result = .error .nulCharacter := by
  intro i files line
  constructor
  · exact result_of_overlong rfl ⟨_, _, rfl, Batch.overlong_nines (by decide)⟩
  · have nul : Command.holdsNul line none = true := by cbv
    rw [(Script.start_eq_refusedArgument_iff files line none none).mpr nul]
    rfl

end LintBridge
