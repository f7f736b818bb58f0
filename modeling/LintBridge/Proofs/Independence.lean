import LintBridge.Proofs.Mirror
import LintBridge.Proofs.Employment
import LintBridge.Session.Run
/-!
Steps on different documents. While the linter is known, a step on a document changes nothing that
a session says of other ones (`Beside`), and it sees of all that steps change only what the session
says of its own document (`AgreeAt`). So two steps on different documents come to the same in either
order (`documents_stand_apart`). Cycles that are begun in another order have other tickets, which is
the only trace that the order leaves.
-/
namespace LintBridge

open Effect (publications)

namespace Session

/-- Sessions that say the same of a document and differ in nothing but counters and quick fixes. -/
inductive AgreeAt (uri : String) (s : Session) : Session → Prop where
  | intro {registry : Registry} {generations : Assoc String Nat}
    (entry : registry.actions.get? uri = s.registry.actions.get? uri)
    (counter : generations.get? uri = s.generations.get? uri) :
    AgreeAt uri s { s with registry, generations }

/-- Sessions that differ in nothing but the counters and quick fixes of one document. -/
structure Beside (uri : String) (s s' : Session) : Prop where
  rest : s' = { s with registry := s'.registry, generations := s'.generations }
  entry : ∀ other, other ≠ uri → s'.registry.actions.get? other = s.registry.actions.get? other
  counter : ∀ other, other ≠ uri → s'.generations.get? other = s.generations.get? other

section
variable {uri : String} {s s' : Session} (h : AgreeAt uri s s')
include h

theorem AgreeAt.entry : s'.registry.actions.get? uri = s.registry.actions.get? uri := by
  cases h with
  | intro entry counter => exact entry

theorem AgreeAt.counter : s'.generations.get? uri = s.generations.get? uri := by
  cases h with
  | intro entry counter => exact counter

theorem AgreeAt.rest : s' = { s with registry := s'.registry, generations := s'.generations } := by
  cases h
  rfl

end

theorem AgreeAt.symm {uri : String} {s s' : Session} (h : AgreeAt uri s s') : AgreeAt uri s' s := by
  cases h with
  | @intro registry generations entry counter =>
    exact @AgreeAt.intro uri { s with registry, generations } s.registry s.generations entry.symm
      counter.symm

theorem AgreeAt.trans {uri : String} {s s' s'' : Session} (h : AgreeAt uri s s')
    (h' : AgreeAt uri s' s'') : AgreeAt uri s s'' := by
  cases h with
  | intro entry counter =>
    cases h' with
    | intro entry' counter' => exact .intro (entry'.trans entry) (counter'.trans counter)

theorem Beside.agreeAt {uri other : String} {s s' : Session} (h : Beside uri s s')
    (apart : other ≠ uri) : AgreeAt other s s' := by
  rw [h.rest]
  exact .intro (h.entry other apart) (h.counter other apart)

/-- Turns that do and give the same, and leave sessions that say the same of a document. -/
structure Alike {α : Type} (uri : String) (turn turn' : Turn α) : Prop where
  agree : AgreeAt uri turn.session turn'.session
  effects : turn'.effects = turn.effects
  value : turn'.value = turn.value

theorem Alike.after {α : Type} {uri : String} {turn turn' : Turn α} (h : Alike uri turn turn')
    (before : List Effect) :
    Alike uri { turn with effects := before ++ turn.effects }
      { turn' with effects := before ++ turn'.effects } :=
  ⟨h.agree, congrArg (before ++ ·) h.effects, h.value⟩

variable {s s' : Session} {uri : String}

theorem AgreeAt.advance (h : AgreeAt uri s s') : AgreeAt uri (s.advance uri) (s'.advance uri) := by
  cases h with
  | intro entry counter => exact .intro entry (by simp [Session.advance, generation, counter])

theorem AgreeAt.generation (h : AgreeAt uri s s') : s'.generation uri = s.generation uri := by
  simp [Session.generation, h.counter]

theorem Beside.refl (uri : String) (s : Session) : Beside uri s s :=
  ⟨rfl, fun _ _ => rfl, fun _ _ => rfl⟩

theorem beside_advance (s : Session) (uri : String) : Beside uri s (s.advance uri) :=
  ⟨rfl, fun _ _ => rfl, fun _ apart => by simp [advance, Ne.symm apart]⟩

theorem beside_publish (s : Session) (uri : String) (stored : List StoredAction) :
    Beside uri s { s with registry := s.registry.publish uri stored } :=
  ⟨rfl, fun _ apart => by simp [Registry.get?_publish, Ne.symm apart], fun _ _ => rfl⟩

theorem beginCycle_beside {t : Toolchain} (known : s.toolchain = some t) (fs : FileSystem)
    (uri source : String) (language : Option String) :
    Beside uri s (s.beginCycle fs uri source language).session := by
  cases linted : s.isLintable language with
  | false => simpa [beginCycle, linted] using Beside.refl uri s
  | true =>
    rw [Activity.beginCycle_known known fs uri source linted]
    exact beside_advance s uri

theorem beginCycle_alike {t : Toolchain} (known : s.toolchain = some t) (h : AgreeAt uri s s')
    (fs : FileSystem) (source : String) (language : Option String) :
    Alike uri (s.beginCycle fs uri source language) (s'.beginCycle fs uri source language) := by
  have known' : s'.toolchain = some t := by cases h; exact known
  have same : s'.isLintable language = s.isLintable language := by cases h; rfl
  cases linted : s.isLintable language with
  | false =>
    rw [linted] at same
    exact ⟨by simpa [beginCycle, linted, same] using h, by simp [beginCycle, linted, same],
      by simp [beginCycle, linted, same]⟩
  | true =>
    have plans : (s'.advance uri).plan t = (s.advance uri).plan t := by cases h; rfl
    rw [Activity.beginCycle_known known fs uri source linted,
      Activity.beginCycle_known known' fs uri source (same.trans linted), h.generation, plans]
    exact ⟨h.advance, rfl, rfl⟩

theorem finish_beside (s : Session) (fs : FileSystem) (canPublish : Bool) (c : Cycle)
    (vs : List Violation) (n : Nat) : Beside c.uri s (s.finish fs canPublish c vs n).session := by
  unfold finish
  split
  · exact .refl c.uri s
  · split
    · exact .refl c.uri s
    · split <;> exact beside_publish s c.uri _

theorem finish_alike {c : Cycle} (h : AgreeAt c.uri s s') (fs : FileSystem) (canPublish : Bool)
    (vs : List Violation) (n : Nat) :
    Alike c.uri (s.finish fs canPublish c vs n) (s'.finish fs canPublish c vs n) := by
  have current : s'.isCurrent c.uri c.generation = s.isCurrent c.uri c.generation := by
    simp [isCurrent, h.counter]
  unfold finish
  rw [current, h.counter]
  split
  · exact ⟨h, rfl, rfl⟩
  · split
    · exact ⟨h, rfl, rfl⟩
    next findings _ =>
      have stored : AgreeAt c.uri
          { s with registry := s.registry.publish c.uri (Finding.actions findings) }
          { s' with registry := s'.registry.publish c.uri (Finding.actions findings) } := by
        cases h with
        | intro entry counter => exact .intro (by simp [Registry.get?_publish]) counter
      split <;> exact ⟨stored, rfl, rfl⟩

theorem afterBase_alike {c : Cycle} (h : AgreeAt c.uri s s') (fs : FileSystem)
    (canPublish : Bool) (plan : PassPlan) (vs : List Violation) :
    Alike c.uri (s.afterBase fs canPublish c plan vs) (s'.afterBase fs canPublish c plan vs) := by
  have rules : s'.rulesPath c.uri = s.rulesPath c.uri := by cases h; rfl
  rw [afterBase_eq, afterBase_eq, rules]
  split
  · exact ⟨h, rfl, rfl⟩
  · exact finish_alike h fs canPublish vs 1
  · exact ⟨h, rfl, rfl⟩

theorem isOpen_of_waits {c : Cycle} (waits : c.awaitsProcess = true) : c.stage.Open := by
  cases stage : c.stage with
  | searching search => simp [Cycle.awaitsProcess, stage] at waits
  | basePass plan => trivial
  | rulesPass plan rules base => trivial

theorem resume_beside {c : Cycle} (waits : c.awaitsProcess = true) (s : Session) (fs : FileSystem)
    (canPublish : Bool) (e : ProcessEnd) :
    Beside c.uri s (s.resume fs canPublish c (.ended e)).session := by
  have resumed := resumed s fs canPublish c (.ended e) (isOpen_of_waits waits)
  generalize s.resume fs canPublish c (.ended e) = turn at resumed
  cases resumed with
  | idle none => exact .refl c.uri s
  | search none stage searched => simp [Cycle.awaitsProcess, stage] at waits
  | failed none quiet => exact .refl c.uri s
  | rules none quiet stage rules => exact .refl c.uri s
  | @last es vs n harvest quiet => exact finish_beside s fs canPublish c vs n

theorem resume_alike {c : Cycle} (waits : c.awaitsProcess = true) (h : AgreeAt c.uri s s')
    (fs : FileSystem) (canPublish : Bool) (e : ProcessEnd) :
    Alike c.uri (s.resume fs canPublish c (.ended e)) (s'.resume fs canPublish c (.ended e)) := by
  cases stage : c.stage with
  | searching search => simp [Cycle.awaitsProcess, stage] at waits
  | basePass plan =>
    simp only [resume, stage]
    split
    · exact ⟨h, rfl, rfl⟩
    next vs _ => exact (afterBase_alike h fs canPublish plan vs).after _
  | rulesPass plan rules base =>
    simp only [resume, stage]
    split
    · exact ⟨h, rfl, rfl⟩
    next vs _ => exact (finish_alike h fs canPublish (base ++ vs) 2).after _

theorem closeDocument_beside (s : Session) (fs : FileSystem) (canPublish : Bool) (uri : String) :
    Beside uri s (s.closeDocument fs canPublish uri).session :=
  ⟨rfl, fun _ apart => by simp [closeDocument, Registry.clear, advance, Ne.symm apart],
    fun _ apart => by simp [closeDocument, advance, Ne.symm apart]⟩

theorem closeDocument_alike (h : AgreeAt uri s s') (fs : FileSystem) (canPublish : Bool) :
    Alike uri (s.closeDocument fs canPublish uri) (s'.closeDocument fs canPublish uri) := by
  refine ⟨?_, rfl, rfl⟩
  cases h with
  | intro entry counter =>
    exact .intro (by simp [closeDocument, Registry.clear])
      (by simp [closeDocument, Session.advance, generation, counter])

end Session

/-- Does a move begin a cycle? -/
def Move.begins (m : Move) : Bool :=
  match m.act with
  | .lint .. => true
  | _ => false

namespace Activity

/-- A step on a document that needs no search: a cycle of it begins, the process ends that a
suspended cycle of it waits for, or it is closed. -/
inductive StepOn (a : Activity) (uri : String) (m : Move) : Prop where
  | begins {source : String} {language : Option String} (act : m.act = .lint uri source language)
  | ends {ticket : Nat} {e : ProcessEnd} {c : Cycle} (act : m.act = .resume ticket (.ended e))
    (cycle : a.cycles.get? ticket = some c) (own : c.uri = uri) (waits : c.awaitsProcess = true)
  | closes (act : m.act = .close uri)

variable {a : Activity} {uri : String} {m : Move} {t : Toolchain}

/-- A step on a document leaves what the session says of other ones. -/
theorem StepOn.beside (h : a.StepOn uri m) (known : a.session.toolchain = some t) :
    Session.Beside uri a.session (a.step m).1.session := by
  cases h with
  | begins act =>
    rw [step_lint a act]
    exact Session.beginCycle_beside known m.files uri _ _
  | ends act cycle own waits =>
    subst own
    rw [step_resume act cycle]
    exact Session.resume_beside waits a.session m.files m.canPublish _
  | closes act =>
    simpa [step, act] using Session.closeDocument_beside a.session m.files m.canPublish uri

/-- A step does and gives the same in another session, where its own cycle goes on as it does
here. -/
structure Repeats (a b : Activity) (uri : String) (m : Move) : Prop where
  on : b.StepOn uri m
  agree : Session.AgreeAt uri (a.step m).1.session (b.step m).1.session
  effects : (b.step m).2 = (a.step m).2
  own : ∀ t t', a.ticket? m = some t → b.ticket? m = some t' →
    (b.step m).1.cycles.get? t' = (a.step m).1.cycles.get? t

/-- A step is repeated where the session says the same of the document and has the same cycle of
it. -/
theorem StepOn.repeats (h : a.StepOn uri m) (known : a.session.toolchain = some t)
    {b : Activity} (agree : Session.AgreeAt uri a.session b.session)
    (same : ∀ ticket reply, m.act = .resume ticket reply →
      b.cycles.get? ticket = a.cycles.get? ticket) : Repeats a b uri m := by
  cases h with
  | @begins source language act =>
    have alike := Session.beginCycle_alike known agree m.files source language
    refine ⟨.begins act, ?_, ?_, ?_⟩
    · rw [step_lint a act, step_lint b act]
      exact alike.agree
    · rw [step_lint a act, step_lint b act]
      exact alike.effects
    · intro t t' own own'
      obtain rfl : a.begun = t := by simpa [ticket?, act] using own
      obtain rfl : b.begun = t' := by simpa [ticket?, act] using own'
      rw [step_lint a act, step_lint b act, get?_settle, get?_settle, if_pos rfl, if_pos rfl,
        alike.value]
  | @ends ticket e c act cycle own waits =>
    subst own
    have cycle' : b.cycles.get? ticket = some c := (same ticket _ act).trans cycle
    have alike := Session.resume_alike waits agree m.files m.canPublish e
    refine ⟨.ends act cycle' rfl waits, ?_, ?_, ?_⟩
    · rw [step_resume act cycle, step_resume act cycle']
      exact alike.agree
    · rw [step_resume act cycle, step_resume act cycle']
      exact alike.effects
    · intro t t' own own'
      obtain rfl : ticket = t := by simpa [ticket?, act] using own
      obtain rfl : ticket = t' := by simpa [ticket?, act] using own'
      rw [step_resume act cycle, step_resume act cycle', get?_settle, get?_settle, if_pos rfl,
        if_pos rfl, alike.value]
  | closes act =>
    have alike := Session.closeDocument_alike agree m.files m.canPublish
    refine ⟨.closes act, ?_, ?_, ?_⟩
    · simpa [step, act] using alike.agree
    · simpa [step, act] using alike.effects
    · intro t t' own
      simp [ticket?, act] at own

/-- A step on a document hands nothing to publish for other ones. -/
theorem StepOn.published (ha : a.Tidy) (h : a.StepOn uri m) :
    ∀ p ∈ publications (a.step m).2, p.1 = uri := by
  rw [publications_step ha]
  cases h with
  | begins act => simp [delivery, act]
  | @ends ticket e c act cycle own waits =>
    rw [delivery_resume act cycle]
    cases hd : a.session.delivery c (.ended e) with
    | none => simp
    | some d => simpa [own] using (Session.delivery_eq_some hd).2.1
  | closes act => simp [delivery, act, Delivery.closing]

variable {uri' : String} {m' : Move}

/-- A step on another document is no step of the cycle that a step waits for. -/
theorem StepOn.ticket_ne (ha : a.Tidy) (h : a.StepOn uri m) (h' : a.StepOn uri' m')
    (apart : uri ≠ uri') {ticket : Nat} {reply : Reply} (act' : m'.act = .resume ticket reply) :
    a.ticket? m ≠ some ticket := by
  intro own
  cases h' with
  | begins other => simp [other] at act'
  | @ends _ e c other cycle here waits =>
    rw [other] at act'
    cases act'
    cases h with
    | begins act =>
      obtain rfl : a.begun = ticket := by simpa [ticket?, act] using own
      exact absurd (ha.below _ c cycle) (Nat.lt_irrefl _)
    | @ends other' _ _ act first there _ =>
      obtain rfl : other' = ticket := by simpa [ticket?, act] using own
      rw [cycle] at first
      cases first
      exact apart (there.symm.trans here)
    | closes act => simp [ticket?, act] at own
  | closes other => simp [other] at act'

/-- After a step on another document a step does and gives what it does without that. -/
theorem StepOn.repeats_after (ha : a.Tidy) (known : a.session.toolchain = some t)
    (h : a.StepOn uri m) (h' : a.StepOn uri' m') (apart : uri ≠ uri') :
    Repeats a (a.step m).1 uri' m' :=
  h'.repeats known ((h.beside known).agreeAt (Ne.symm apart)) fun _ _ act' =>
    get?_step_of_ne (h.ticket_ne ha h' apart act')

/-- Every move that begins a cycle, and no other, counts one more of them. -/
theorem begun_step_eq (a : Activity) (m : Move) :
    (a.step m).1.begun = if m.begins then a.begun + 1 else a.begun := by
  rw [begun_step, Move.begins]
  cases m.act <;> rfl

theorem ticket?_of_begins (a : Activity) (begins : m.begins = true) :
    a.ticket? m = some a.begun := by
  unfold Move.begins at begins
  split at begins
  next act => simp [ticket?, act]
  next => cases begins

/-- Unless both begin a cycle, a move leaves the ticket of another one. -/
theorem ticket?_step (a : Activity) (one : (m.begins && m'.begins) = false) :
    (a.step m).1.ticket? m' = a.ticket? m' := by
  cases begins' : m'.begins with
  | true =>
    have other : m.begins = false := by simpa [begins'] using one
    rw [ticket?_of_begins _ begins', ticket?_of_begins a begins', begun_step_eq, other]
    rfl
  | false =>
    unfold Move.begins at begins'
    unfold ticket?
    split at begins'
    · cases begins'
    next noLint =>
      cases act' : m'.act with
      | lint uri source language => exact absurd act' (noLint uri source language)
      | _ => rfl

/-- The tickets of the cycles after two moves, by those after the same moves the other way round:
two cycles that begin get each other's. -/
def exchanged (a : Activity) (m m' : Move) : Equiv.Perm Nat :=
  if m.begins && m'.begins then Equiv.swap a.begun (a.begun + 1) else Equiv.refl Nat

theorem exchanged_comm (a : Activity) (m m' : Move) : a.exchanged m' m = a.exchanged m m' := by
  unfold exchanged
  rw [Bool.and_comm]

theorem exchanged_exchanged (a : Activity) (m m' : Move) (ticket : Nat) :
    a.exchanged m m' (a.exchanged m m' ticket) = ticket := by
  unfold exchanged
  split
  · exact Equiv.swap_apply_self _ _ ticket
  · rfl

/-- The ticket of a move after another one is its own with the two exchanged. -/
theorem ticket?_exchanged (a : Activity) (m m' : Move) (ticket : Nat) :
    (a.step m').1.ticket? m = some (a.exchanged m m' ticket) ↔ a.ticket? m = some ticket := by
  unfold exchanged
  cases both : m.begins && m'.begins with
  | true =>
    obtain ⟨begins, begins'⟩ := Bool.and_eq_true_iff.mp both
    rw [ticket?_of_begins _ begins, ticket?_of_begins a begins, begun_step_eq, begins', if_pos rfl,
      if_pos rfl, Option.some_inj, Option.some_inj, eq_comm, Equiv.swap_apply_eq_iff,
      Equiv.swap_apply_right, eq_comm]
  | false =>
    rw [ticket?_step a (by rwa [Bool.and_comm]), if_neg Bool.false_ne_true, Equiv.refl_apply]

theorem exchanged_of_ne {a : Activity} {m m' : Move} {ticket : Nat}
    (first : a.ticket? m ≠ some ticket) (second : (a.step m).1.ticket? m' ≠ some ticket) :
    a.exchanged m m' ticket = ticket := by
  unfold exchanged
  cases both : m.begins && m'.begins with
  | true =>
    obtain ⟨begins, begins'⟩ := Bool.and_eq_true_iff.mp both
    rw [ticket?_of_begins a begins] at first
    rw [ticket?_of_begins _ begins', begun_step_eq, begins, if_pos rfl] at second
    rw [if_pos rfl]
    exact Equiv.swap_apply_of_ne_of_ne (fun same => first (same ▸ rfl))
      (fun same => second (same ▸ rfl))
  | false => rfl

/-- Two moves that come to the same in either order, up to the order of the entries of maps and
the tickets of cycles that both begin. -/
structure Exchange (a : Activity) (m m' : Move) : Prop where
  registry : ∀ uri, (a.run [m', m]).session.registry.actions.get? uri =
    (a.run [m, m']).session.registry.actions.get? uri
  counters : ∀ uri, (a.run [m', m]).session.generations.get? uri =
    (a.run [m, m']).session.generations.get? uri
  /-- The configuration, the folders and the linter are the same. -/
  rest : (a.run [m', m]).session = { (a.run [m, m']).session with
    registry := (a.run [m', m]).session.registry
    generations := (a.run [m', m]).session.generations }
  cycles : ∀ ticket, (a.run [m', m]).cycles.get? (a.exchanged m m' ticket) =
    (a.run [m, m']).cycles.get? ticket
  /-- Each step does the same outside, be it first or second. -/
  effects : ((a.step m).1.step m').2 = (a.step m').2 ∧ ((a.step m').1.step m).2 = (a.step m).2
  /-- What is published for a document is the same, in the same order. -/
  published : ∀ uri, (publications (a.effects [m', m])).filter (·.1 = uri) =
    (publications (a.effects [m, m'])).filter (·.1 = uri)

/-- Two steps on different documents have different tickets. -/
theorem StepOn.ticket?_apart (ha : a.Tidy) (h : a.StepOn uri m) (h' : a.StepOn uri' m')
    (apart : uri ≠ uri') {ticket : Nat} (own : a.ticket? m = some ticket) :
    (a.step m).1.ticket? m' ≠ some ticket := by
  intro own'
  cases h' with
  | begins act' =>
    have begins' : m'.begins = true := by rw [Move.begins, act']
    rw [ticket?_of_begins _ begins', begun_step_eq] at own'
    cases h with
    | begins act =>
      have begins : m.begins = true := by rw [Move.begins, act]
      rw [ticket?_of_begins a begins] at own
      rw [begins, ← own] at own'
      simp at own'
    | ends act cycle here waits =>
      rw [ticket?, act] at own
      have below := ha.below _ _ (Option.some.inj own ▸ cycle)
      have begun := begun_le_step a m
      rw [begun_step_eq] at begun
      have last := Option.some.inj own'
      omega
    | closes act => simp [ticket?, act] at own
  | ends act' cycle here waits =>
    rw [ticket?, act'] at own'
    obtain rfl := Option.some.inj own'
    exact h.ticket_ne ha (.ends act' cycle here waits) apart act' own
  | closes act' => simp [ticket?, act'] at own'

/-- The suspended cycles after two steps, either way round. The second step of one run finds its own
cycle as the first step of the other run does. -/
theorem StepOn.cycles_exchange (ha : a.Tidy) (known : a.session.toolchain = some t)
    (h : a.StepOn uri m) (h' : a.StepOn uri' m') (apart : uri ≠ uri') (ticket : Nat) :
    (a.run [m', m]).cycles.get? (a.exchanged m m' ticket) = (a.run [m, m']).cycles.get? ticket := by
  have after' := h'.repeats_after ha known h (Ne.symm apart)
  have after := h.repeats_after ha known h' apart
  have mine := ticket?_exchanged a m m' ticket
  have other : (a.step m).1.ticket? m' = some ticket ↔
      a.ticket? m' = some (a.exchanged m m' ticket) := by
    have back := ticket?_exchanged a m' m (a.exchanged m m' ticket)
    rwa [exchanged_comm, exchanged_exchanged] at back
  simp only [run_cons, run_nil]
  by_cases second : (a.step m).1.ticket? m' = some ticket
  · have first : a.ticket? m ≠ some ticket := fun own => h.ticket?_apart ha h' apart own second
    rw [get?_step_of_ne (fun own => first (mine.mp own))]
    exact (after.own _ _ (other.mp second) second).symm
  · rw [get?_step_of_ne second]
    by_cases first : a.ticket? m = some ticket
    · exact after'.own _ _ first (mine.mpr first)
    · rw [get?_step_of_ne first, get?_step_of_ne (fun own => first (mine.mp own)),
        get?_step_of_ne (fun own => second (other.mpr own)), exchanged_of_ne first second]

theorem StepOn.toolchain (h : a.StepOn uri m) (known : a.session.toolchain = some t) :
    (a.step m).1.session.toolchain = some t := by
  rw [(h.beside known).rest]
  exact known

/-- The sessions after two steps, either way round. A document that a step is on stands as that step
leaves it without the other one. -/
theorem StepOn.agree_exchange (ha : a.Tidy) (known : a.session.toolchain = some t)
    (h : a.StepOn uri m) (h' : a.StepOn uri' m') (apart : uri ≠ uri') (other : String) :
    Session.AgreeAt other (a.run [m, m']).session (a.run [m', m]).session := by
  have second := h.repeats_after ha known h' apart
  have second' := h'.repeats_after ha known h (Ne.symm apart)
  have left := second.on.beside (h.toolchain known)
  have right := second'.on.beside (h'.toolchain known)
  simp only [run_cons, run_nil]
  by_cases mine : other = uri
  · subst mine
    exact (left.agreeAt apart).symm.trans second'.agree
  · by_cases yours : other = uri'
    · subst yours
      exact second.agree.symm.trans (right.agreeAt mine)
    · exact ((left.agreeAt yours).symm.trans ((h.beside known).agreeAt mine).symm).trans
        (((h'.beside known).agreeAt yours).trans (right.agreeAt mine))

theorem filter_eq_nil_of_published {es : List Effect} {uri other : String}
    (published : ∀ p ∈ publications es, p.1 = uri) (apart : other ≠ uri) :
    (publications es).filter (·.1 = other) = [] := by
  rw [List.filter_eq_nil_iff]
  intro p hp
  simpa [published p hp] using Ne.symm apart

/-- Steps on different documents come to the same in either order. -/
theorem StepOn.exchange (ha : a.Tidy) (known : a.session.toolchain = some t)
    (h : a.StepOn uri m) (h' : a.StepOn uri' m') (apart : uri ≠ uri') : a.Exchange m m' := by
  have second := (h.repeats_after ha known h' apart).effects
  have second' := (h'.repeats_after ha known h (Ne.symm apart)).effects
  have agree := h.agree_exchange ha known h' apart
  refine ⟨fun other => (agree other).entry, fun other => (agree other).counter, (agree uri).rest,
    h.cycles_exchange ha known h' apart, ⟨second, second'⟩, fun other => ?_⟩
  · simp only [effects_cons, effects_nil, List.append_nil, second, second',
      Effect.publications_append, List.filter_append]
    by_cases mine : other = uri
    · rw [filter_eq_nil_of_published (h'.published ha) (mine ▸ apart), List.nil_append,
        List.append_nil]
    · rw [filter_eq_nil_of_published (h.published ha) mine, List.nil_append, List.append_nil]

/-- What a move leaves of other documents: their quick fixes, their counters, and what was
published for them. -/
structure Spares (a : Activity) (m : Move) (uri : String) : Prop where
  entry : (a.step m).1.session.registry.actions.get? uri = a.session.registry.actions.get? uri
  counter : (a.step m).1.session.generations.get? uri = a.session.generations.get? uri
  published : (publications (a.step m).2).filter (·.1 = uri) = []

theorem StepOn.spares (ha : a.Tidy) (known : a.session.toolchain = some t) (h : a.StepOn uri m)
    {other : String} (apart : other ≠ uri) : a.Spares m other :=
  ⟨(h.beside known).entry other apart, (h.beside known).counter other apart,
    filter_eq_nil_of_published (h.published ha) apart⟩

/-- Documents do not interfere. Wherever a run has led, once the linter is known, a step on a
document spares all other ones; two steps on different documents leave each other possible and
come to the same in either order. -/
theorem documents_stand_apart (config : Config.LintConfig) (roots : List FilePath)
    (persists : Bool) (home : FilePath) (packaged : String) (ms : List Move) {t : Toolchain}
    (known : ((opened config roots persists home packaged).run ms).session.toolchain = some t) :
    let a := (opened config roots persists home packaged).run ms
    (∀ uri m, a.StepOn uri m → ∀ other, other ≠ uri → a.Spares m other) ∧
    ∀ uri m uri' m', a.StepOn uri m → a.StepOn uri' m' → uri ≠ uri' →
      (a.step m).1.StepOn uri' m' ∧ (a.step m').1.StepOn uri m ∧ a.Exchange m m' := by
  have tidy := (tidy_opened config roots persists home packaged).run ms
  refine ⟨fun uri m h other apart => h.spares tidy known apart, ?_⟩
  intro uri m uri' m' h h' apart
  exact ⟨(h.repeats_after tidy known h' apart).on,
    (h'.repeats_after tidy known h (Ne.symm apart)).on, h.exchange tidy known h' apart⟩

/-- Two documents whose cycles wait for their processes: the end of the one and a new beginning of
the other can be exchanged. -/
theorem overlapping_cycles_stand_apart :
    let a := (configured "lute" "").run
      [.plain (.lint "a" "x" none), .plain (.lint "b" "y" none)]
    let again := Move.plain (.lint "b" "z" (some "luau"))
    a.session.toolchain = some ⟨"lute", none, .explicit⟩ ∧
      a.StepOn "a" (.answer 0) ∧ a.StepOn "b" again ∧ a.Exchange (.answer 0) again ∧
      a.Spares (.answer 0) "b" := by
  intro a again
  have known : a.session.toolchain = some ⟨"lute", none, .explicit⟩ := by cbv
  have ends : a.StepOn "a" (.answer 0) :=
    .ends (c := ⟨"a", "x", 1, .basePass ⟨"lute", none, none⟩⟩) rfl (by cbv) rfl rfl
  have begins : a.StepOn "b" again := .begins rfl
  obtain ⟨spares, exchange⟩ := documents_stand_apart _ _ _ _ _ _ known
  exact ⟨known, ends, begins, (exchange _ _ _ _ ends begins (by decide)).2.2,
    spares _ _ ends "b" (by decide)⟩

end Activity
end LintBridge
