import LintBridge.Proofs.Delivery
/-!
A session in which any number of cycles are under way. Every cycle has a ticket, the number
of cycles that were begun before it, and is kept under it while it is suspended. Between
two steps of a cycle any others may begin, go on or end, documents may be closed, and the
configuration may change. Each move comes with the files as they are then and with whether
publishing works; nothing is assumed of how these change from one move to the next.
-/
namespace LintBridge

open Effect (publications commands Quiet)

/-- What can be done to a session at any time. -/
inductive Act where
  | lint (uri source : String) (language : Option String)
  | resume (ticket : Nat) (reply : Reply)
  | close (uri : String)
  | reconfigure (config : Config.LintConfig) (roots : Option (List FilePath))
  | query (uri : String) (range : EditorRange)
  | shutdown

/-- An act, the files at that time, and whether publishing works. -/
structure Move where
  act : Act
  files : FileSystem
  canPublish : Bool

namespace Move

/-- An act without any files, while publishing works. -/
def plain (act : Act) : Move := ⟨act, .empty, true⟩

/-- A process of a cycle exits with an empty batch. -/
def answer (ticket : Nat) : Move := plain (.resume ticket (.ended (.exited (some 0) [91, 93] [])))

end Move

/-- A session, the number of cycles begun so far, and the suspended ones by their tickets. -/
structure Activity where
  session : Session
  begun : Nat
  cycles : Assoc Nat Cycle

namespace Activity

/-- A session at its beginning. -/
def opened (config : Config.LintConfig) (roots : List FilePath) (persists : Bool)
    (home : FilePath) (packaged : String) : Activity :=
  ⟨.fresh config roots persists home packaged, 0, []⟩

/-- A session whose linter and rule file, if any, are configured. -/
def configured (executable rules : String) : Activity :=
  opened ⟨executable, rules, none, none, ["luau"], none⟩ [] false ⟨1, []⟩ "lute"

/-- Keep a cycle that pauses under its ticket; one that ends is dropped. -/
def settle (a : Activity) (ticket : Nat) (turn : Turn Standing) : Activity :=
  { a with
    session := turn.session
    cycles := match turn.value with
      | .paused c => a.cycles.put ticket c
      | .ended _ => a.cycles.erase ticket }

/-- One move, and what it does outside. A ticket without a suspended cycle changes nothing. -/
def step (a : Activity) (m : Move) : Activity × List Effect :=
  match m.act with
  | .lint uri source language =>
    let turn := a.session.beginCycle m.files uri source language
    ({ a with begun := a.begun + 1 }.settle a.begun turn, turn.effects)
  | .resume ticket reply =>
    match a.cycles.get? ticket with
    | none => (a, [])
    | some c =>
      let turn := a.session.resume m.files m.canPublish c reply
      (a.settle ticket turn, turn.effects)
  | .close uri =>
    let turn := a.session.closeDocument m.files m.canPublish uri
    ({ a with session := turn.session }, turn.effects)
  | .reconfigure config roots => ({ a with session := a.session.reconfigure config roots }, [])
  | .query _ _ => (a, [])
  | .shutdown => ({ a with session := a.session.shutdown }, [])

def run : Activity → List Move → Activity
  | a, [] => a
  | a, m :: ms => run (a.step m).1 ms

/-- All effects of a run, in order. -/
def effects : Activity → List Move → List Effect
  | _, [] => []
  | a, m :: ms => (a.step m).2 ++ effects (a.step m).1 ms

@[simp] theorem run_nil (a : Activity) : a.run [] = a := rfl
@[simp] theorem run_cons (a : Activity) (m : Move) (ms : List Move) :
    a.run (m :: ms) = (a.step m).1.run ms := rfl
@[simp] theorem effects_nil (a : Activity) : a.effects [] = [] := rfl
@[simp] theorem effects_cons (a : Activity) (m : Move) (ms : List Move) :
    a.effects (m :: ms) = (a.step m).2 ++ (a.step m).1.effects ms := rfl

theorem run_append (a : Activity) (ms ms' : List Move) :
    a.run (ms ++ ms') = (a.run ms).run ms' := by
  induction ms generalizing a with
  | nil => rfl
  | cons m ms ih => simpa using ih (a.step m).1

theorem run_concat (a : Activity) (w : List Move) (m : Move) :
    a.run (w ++ [m]) = ((a.run w).step m).1 := by
  simp [run_append]

theorem effects_append (a : Activity) (ms ms' : List Move) :
    a.effects (ms ++ ms') = a.effects ms ++ (a.run ms).effects ms' := by
  induction ms generalizing a with
  | nil => rfl
  | cons m ms ih => simp [ih]

theorem step_resume {a : Activity} {m : Move} {ticket : Nat} {reply : Reply} {c : Cycle}
    (hm : m.act = .resume ticket reply) (hc : a.cycles.get? ticket = some c) :
    a.step m = (a.settle ticket (a.session.resume m.files m.canPublish c reply),
      (a.session.resume m.files m.canPublish c reply).effects) := by
  simp [step, hm, hc]

theorem get?_settle (a : Activity) (ticket : Nat) (turn : Turn Standing) (t : Nat) :
    (a.settle ticket turn).cycles.get? t =
      if ticket = t then (match turn.value with
        | .paused c => some c
        | .ended _ => none)
      else a.cycles.get? t := by
  unfold settle
  cases turn.value <;> simp

theorem paused_of_get?_settle {a : Activity} {ticket : Nat} {turn : Turn Standing} {c : Cycle}
    (h : (a.settle ticket turn).cycles.get? ticket = some c) : turn.value = .paused c := by
  rw [get?_settle, if_pos rfl] at h
  cases hv : turn.value with
  | paused c' =>
    rw [hv] at h
    cases h
    rfl
  | ended result =>
    rw [hv] at h
    cases h

/-- The cycle that a move belongs to. -/
def ticket? (a : Activity) (m : Move) : Option Nat :=
  match m.act with
  | .lint _ _ _ => some a.begun
  | .resume ticket _ => some ticket
  | _ => none

/-- A move leaves all cycles but its own as they are. -/
theorem get?_step_of_ne {a : Activity} {m : Move} {t : Nat} (h : a.ticket? m ≠ some t) :
    (a.step m).1.cycles.get? t = a.cycles.get? t := by
  cases hm : m.act with
  | lint uri source language =>
    have hne : a.begun ≠ t := by simpa [ticket?, hm] using h
    simp [step, hm, get?_settle, hne]
  | resume ticket reply =>
    have hne : ticket ≠ t := by simpa [ticket?, hm] using h
    simp only [step, hm]
    split
    · rfl
    · simp [get?_settle, hne]
  | close uri => simp [step, hm]
  | reconfigure config roots => simp [step, hm]
  | query uri range => simp [step, hm]
  | shutdown => simp [step, hm]

theorem begun_step (a : Activity) (m : Move) :
    (a.step m).1.begun = match m.act with
      | .lint _ _ _ => a.begun + 1
      | _ => a.begun := by
  cases hm : m.act with
  | resume ticket reply =>
    simp only [step, hm]
    split <;> rfl
  | _ => simp [step, hm, settle]

theorem begun_le_step (a : Activity) (m : Move) : a.begun ≤ (a.step m).1.begun := by
  rw [begun_step]
  split <;> omega

theorem begun_le_run (a : Activity) (ms : List Move) : a.begun ≤ (a.run ms).begun := by
  induction ms generalizing a with
  | nil => exact Nat.le_refl _
  | cons m ms ih => exact Nat.le_trans (begun_le_step a m) (ih _)

/-- The suspended cycles have tickets that were given out, their counters are positive, and
those that search have a search that goes on. -/
structure Tidy (a : Activity) : Prop where
  below : ∀ t c, a.cycles.get? t = some c → t < a.begun
  positive : ∀ t c, a.cycles.get? t = some c → 0 < c.generation
  isOpen : ∀ t c, a.cycles.get? t = some c → c.stage.Open

theorem tidy_opened (config : Config.LintConfig) (roots : List FilePath) (persists : Bool)
    (home : FilePath) (packaged : String) : (opened config roots persists home packaged).Tidy := by
  constructor <;> intro t c h <;> cases h

/-- The step of a suspended cycle, as a case of `Resumed`. -/
theorem Tidy.resumed {a : Activity} (ha : a.Tidy) {t : Nat} {c : Cycle}
    (hc : a.cycles.get? t = some c) (fs : FileSystem) (canPublish : Bool) (r : Reply) :
    Session.Resumed a.session fs canPublish c r (a.session.resume fs canPublish c r) :=
  Session.resumed a.session fs canPublish c r (ha.isOpen t c hc)

/-- Everything that a move can do to a session and outside of it. -/
inductive Moved (a : Activity) (m : Move) : Activity × List Effect → Prop where
  | skipped {uri source : String} {language : Option String} {turn : Turn Standing}
    (act : m.act = .lint uri source language) (unlinted : a.session.isLintable language = false)
    (same : turn.session = a.session) (quiet : Quiet turn.effects)
    (ended : turn.value = .ended (.ok none)) :
    Moved a m ({ a with begun := a.begun + 1 }.settle a.begun turn, turn.effects)
  | started {uri source : String} {language : Option String} {turn : Turn Standing}
    (act : m.act = .lint uri source language) (linted : a.session.isLintable language = true)
    (searched : Session.Searched (a.session.advance uri) uri source
      (a.session.generation uri + 1) turn) :
    Moved a m ({ a with begun := a.begun + 1 }.settle a.begun turn, turn.effects)
  | missing {ticket : Nat} {reply : Reply} (act : m.act = .resume ticket reply)
    (gone : a.cycles.get? ticket = none) : Moved a m (a, [])
  | resumed {ticket : Nat} {reply : Reply} {c : Cycle} {turn : Turn Standing}
    (act : m.act = .resume ticket reply) (cycle : a.cycles.get? ticket = some c)
    (resumed : Session.Resumed a.session m.files m.canPublish c reply turn) :
    Moved a m (a.settle ticket turn, turn.effects)
  | closed {uri : String} (act : m.act = .close uri) :
    Moved a m
      ({ a with session :=
        { a.session.advance uri with registry := a.session.registry.clear uri } },
        [.publish uri []])
  | reconfigured {config : Config.LintConfig} {roots : Option (List FilePath)}
    (act : m.act = .reconfigure config roots) :
    Moved a m ({ a with session := a.session.reconfigure config roots }, [])
  | queried {uri : String} {range : EditorRange} (act : m.act = .query uri range) :
    Moved a m (a, [])
  | halted (act : m.act = .shutdown) : Moved a m ({ a with session := a.session.shutdown }, [])

theorem Tidy.moved {a : Activity} (ha : a.Tidy) (m : Move) : Moved a m (a.step m) := by
  cases hm : m.act with
  | lint uri source language =>
    simp only [step, hm]
    cases hl : a.session.isLintable language with
    | false =>
      refine .skipped hm hl ?_ ?_ ?_
      · simp [Session.beginCycle, hl]
      · simpa [Session.beginCycle, hl] using Session.quiet_reports _ _
      · simp [Session.beginCycle, hl]
    | true => exact .started hm hl (Session.searched_beginCycle a.session m.files uri source hl)
  | resume ticket reply =>
    cases hc : a.cycles.get? ticket with
    | none => simpa [step, hm, hc] using Moved.missing hm hc
    | some c =>
      rw [step_resume hm hc]
      exact .resumed hm hc (ha.resumed hc m.files m.canPublish reply)
  | close uri =>
    simp only [step, hm]
    exact .closed hm
  | reconfigure config roots =>
    simp only [step, hm]
    exact .reconfigured hm
  | query uri range =>
    simp only [step, hm]
    exact .queried hm
  | shutdown =>
    simp only [step, hm]
    exact .halted hm

/-- Where a cycle stands after a move of its own: just begun, or gone on with. -/
theorem paused_of_ticket {a : Activity} (ha : a.Tidy) {m : Move} {t : Nat} {c : Cycle}
    (ht : a.ticket? m = some t) (hc : (a.step m).1.cycles.get? t = some c) :
    c.stage.Open ∧
      ((∃ uri source language, m.act = .lint uri source language ∧ t = a.begun ∧
          a.session.isLintable language = true ∧ c.uri = uri ∧ c.source = source ∧
          c.generation = a.session.generation uri + 1) ∨
        ∃ reply c₀, m.act = .resume t reply ∧ a.cycles.get? t = some c₀ ∧
          c.uri = c₀.uri ∧ c.source = c₀.source ∧ c.generation = c₀.generation) := by
  have moved := ha.moved m
  generalize a.step m = out at moved hc
  cases moved with
  | skipped act unlinted same quiet ended =>
    obtain rfl : a.begun = t := by simpa [ticket?, act] using ht
    have paused := paused_of_get?_settle hc
    rw [ended] at paused
    cases paused
  | started act linted searched =>
    obtain rfl : a.begun = t := by simpa [ticket?, act] using ht
    obtain ⟨hu, hs, hg, ho⟩ := searched.paused (paused_of_get?_settle hc)
    exact ⟨ho, .inl ⟨_, _, _, act, rfl, linted, hu, hs, hg⟩⟩
  | @missing ticket reply act gone =>
    obtain rfl : ticket = t := by simpa [ticket?, act] using ht
    rw [gone] at hc
    cases hc
  | @resumed ticket reply c₀ turn act cycle resumed =>
    obtain rfl : ticket = t := by simpa [ticket?, act] using ht
    obtain ⟨hu, hs, hg, ho⟩ := resumed.paused (ha.isOpen _ _ cycle) (paused_of_get?_settle hc)
    exact ⟨ho, .inr ⟨reply, c₀, act, cycle, hu, hs, hg⟩⟩
  | closed act => simp [ticket?, act] at ht
  | reconfigured act => simp [ticket?, act] at ht
  | queried act => simp [ticket?, act] at ht
  | halted act => simp [ticket?, act] at ht

theorem Tidy.step {a : Activity} (ha : a.Tidy) (m : Move) : (a.step m).1.Tidy := by
  have hb := begun_le_step a m
  constructor <;> intro t c hc <;> by_cases ht : a.ticket? m = some t
  · obtain ⟨-, ⟨uri, source, language, hm, rfl, -⟩ | ⟨reply, c₀, -, h₀, -⟩⟩ :=
      paused_of_ticket ha ht hc
    · rw [begun_step, hm]
      exact Nat.lt_succ_self _
    · exact Nat.lt_of_lt_of_le (ha.below t c₀ h₀) hb
  · rw [get?_step_of_ne ht] at hc
    exact Nat.lt_of_lt_of_le (ha.below t c hc) hb
  · obtain ⟨-, ⟨uri, source, language, -, -, -, -, -, hg⟩ | ⟨reply, c₀, -, h₀, -, -, hg⟩⟩ :=
      paused_of_ticket ha ht hc
    · omega
    · rw [hg]
      exact ha.positive t c₀ h₀
  · rw [get?_step_of_ne ht] at hc
    exact ha.positive t c hc
  · exact (paused_of_ticket ha ht hc).1
  · rw [get?_step_of_ne ht] at hc
    exact ha.isOpen t c hc

/-- What every step of a tidy activity keeps with a move of some kind, every run with such moves
keeps. -/
theorem Tidy.run_keeps_of {P : Activity → Prop} {Q : Move → Prop}
    (keeps : ∀ {a : Activity}, a.Tidy → P a → ∀ m, Q m → P (a.step m).1) {a : Activity}
    (ha : a.Tidy) (h : P a) {ms : List Move} (hs : ∀ m ∈ ms, Q m) : P (a.run ms) := by
  induction ms generalizing a with
  | nil => exact h
  | cons m ms ih =>
    obtain ⟨first, later⟩ := List.forall_mem_cons.mp hs
    exact ih (ha.step m) (keeps ha h m first) later

/-- What every step of a tidy activity keeps, every run of it keeps. -/
theorem Tidy.run_keeps {P : Activity → Prop}
    (keeps : ∀ {a : Activity}, a.Tidy → P a → ∀ m, P (a.step m).1) {a : Activity} (ha : a.Tidy)
    (h : P a) (ms : List Move) : P (a.run ms) :=
  ha.run_keeps_of (Q := fun _ => True) (fun ha h m _ => keeps ha h m) h fun _ _ => trivial

theorem Tidy.run {a : Activity} (ha : a.Tidy) (ms : List Move) : (a.run ms).Tidy :=
  ha.run_keeps (fun ha _ m => ha.step m) ha ms

/-- What a move hands over: for a document that is closed, nothing but an empty list. -/
def delivery (a : Activity) (m : Move) : Option Delivery :=
  match m.act with
  | .close uri => some (.closing uri)
  | .resume ticket reply => (a.cycles.get? ticket).bind fun c => a.session.delivery c reply
  | _ => none

theorem delivery_resume {a : Activity} {m : Move} {ticket : Nat} {reply : Reply} {c : Cycle}
    (hm : m.act = .resume ticket reply) (hc : a.cycles.get? ticket = some c) :
    a.delivery m = a.session.delivery c reply := by
  simp [delivery, hm, hc]

/-- A move hands its delivery to publish, and nothing without one. -/
theorem publications_step {a : Activity} (ha : a.Tidy) (m : Move) :
    publications (a.step m).2 =
      (a.delivery m).toList.map fun d => (d.uri, d.diagnostics) := by
  have moved := ha.moved m
  generalize a.step m = out at moved ⊢
  cases moved with
  | skipped act unlinted same quiet ended => simp [delivery, act, quiet.1]
  | started act linted searched => simp [delivery, act, searched.publications]
  | missing act gone => simp [delivery, act, gone]
  | resumed act cycle resumed =>
    rw [delivery_resume act cycle]
    exact resumed.delivered.1
  | closed act => simp [delivery, act, publications, Delivery.closing, Delivery.diagnostics]
  | reconfigured act => simp [delivery, act]
  | queried act => simp [delivery, act]
  | halted act => simp [delivery, act]

/-- Unless it shuts the session down, a move writes its delivery to the registry, and
nothing without one. -/
theorem registry_step {a : Activity} (ha : a.Tidy) {m : Move} (hs : m.act ≠ .shutdown) :
    (a.step m).1.session.registry = (a.delivery m).elim a.session.registry
      fun d => a.session.registry.publish d.uri d.actions := by
  have moved := ha.moved m
  generalize a.step m = out at moved ⊢
  cases moved with
  | skipped act unlinted same quiet ended => simp [delivery, act, settle, same]
  | started act linted searched =>
    simp [delivery, act, settle, searched.kept.1, Session.advance]
  | missing act gone => simp [delivery, act, gone]
  | resumed act cycle resumed =>
    rw [delivery_resume act cycle]
    exact resumed.delivered.2
  | closed act =>
    simp [delivery, act, Delivery.closing, Delivery.actions, Registry.publish, Registry.clear]
  | reconfigured act => simp [delivery, act, Session.reconfigure]
  | queried act => simp [delivery, act]
  | halted act => exact absurd act hs

end Activity
end LintBridge
