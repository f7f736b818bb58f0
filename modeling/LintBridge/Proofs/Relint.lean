import LintBridge.Proofs.Chronicle
import LintBridge.Proofs.Coordinates
/-!
Linting all open documents anew. The documents are linted in the order in which they were opened,
all under one configuration, each with its share of what the processes come to. The first document
that cannot be published ends the whole (`Server.relinted_iff`): those before it are published, it
is linted, and those after it are not.
-/
namespace LintBridge

open Effect (publications commands Quiet)

/-- A configuration that was loaded has a time limit of more than zero, or none. -/
theorem Config.timed_of_load {src : Sources} {workspace : Option FilePath}
    {given : Value.Entries} {settings : Settings}
    (h : (load src workspace given).result = .ok settings) {s : Session}
    (hs : s.config = settings.lint) : s.Timed := by
  rw [load_result] at h
  obtain ⟨files, -, h⟩ := bind_eq_ok.mp h
  unfold assemble at h
  split at h
  · cases h
  · obtain ⟨-, lint, -⟩ := checkSettings_eq_ok_iff_sections.mp (settle_eq_ok_iff_checkSettings.mp h)
    split at lint
    next v _ => exact Session.timed_of_checkLint lint hs
    next =>
      intro limit hl
      rw [hs, lint] at hl
      cases hl

namespace Session

theorem Timed.settledOn {s s' : Session} (h : s.Timed) {around : Surroundings} {w : Server.Work}
    {roots : List FilePath}
    (settles : Server.settledOn s.config (w.loaded around roots) = .ok s'.config) : s'.Timed := by
  obtain ⟨settings, loaded, config⟩ | ⟨-, config⟩ := Server.settledOn_eq_ok_iff.mp settles
  · exact Config.timed_of_load loaded config.symm
  · exact h.of_timeout (by rw [config])

end Session

namespace Server

/-- The session, if there is one, has a time limit of more than zero, or none. -/
def Work.Timed (w : Work) : Prop := ∀ s, w.server.session = some s → s.Timed

namespace Work.Timed

variable {around : Surroundings} {w w' : Work}

theorem of_none (gone : w.server.session = none) : w.Timed := by
  intro s there
  rw [gone] at there
  cases there

theorem ensured (h : w.Timed) {r : Except Failure Session} (asked : Ensured around w (r, w')) :
    w'.Timed := by
  cases asked with
  | known there => exact h
  | noFolders fresh unread => exact h
  | refused fresh folders fails quiet => exact h
  | @begun roots config es fresh folders settles quiet =>
    rintro s ⟨⟩
    have start : (Session.fresh .default roots true w.files.home around.packaged).Timed :=
      fun _ hl => (by cases hl)
    exact start.settledOn settles

theorem reloaded (h : w.Timed) {r : Except Failure Unit} (again : Reloaded around w (r, w')) :
    w'.Timed := by
  cases again with
  | noSession unstarted => exact h.ensured unstarted
  | noFolders there unread => exact h.ensured there
  | @refused s f w₁ roots es there folders fails quiet =>
    have before : w₁.Timed := h.ensured there
    exact before
  | done there folders settles quiet =>
    rintro s ⟨⟩
    exact (h.ensured there _ there.session).settledOn settles

theorem linted (h : w.Timed) {uri : String} {r : Except Failure Unit}
    (lints : Linted around w uri (r, w')) : w'.Timed := by
  cases lints with
  | noSession unstarted => exact h.ensured unstarted
  | unread there missing => exact h.ensured there
  | @cycle s w₁ d there found turn played =>
    have timed := h.ensured there s there.session
    have ready := timed.of_timeout (Session.ensureToolchain_kept s w₁.files).2.2.2.2
    rintro s' ⟨⟩
    obtain ⟨registry, generations, ⟨session, -⟩ | ⟨session, -⟩⟩ :=
      s.lintDocument_session w₁.files true uri d.text d.language w₁.ends
    · rw [← played, session]
      exact timed
    · rw [← played, session]
      exact ready

theorem lintOpen (h : w.Timed) : ((lintOpen around).run w).2.Timed := by
  rw [lintOpen_run]
  exact forM_lint (fun _ _ _ _ timed lints => timed.linted lints) _ h

theorem closed {uri : String} (h : (w.told (forgetting uri)).Timed) {r : Except Failure Unit}
    (closes : Closed around w uri (r, w')) : w'.Timed := by
  cases closes with
  | noSession unstarted => exact h.ensured unstarted
  | @done s w₁ there =>
    rintro s' ⟨⟩
    exact h.ensured there s there.session

/-- A part of the handling that goes on with all open documents. -/
theorem relinted {α : Type} {x : Handling α} (h : (x.run w).2.Timed) :
    ((x >>= fun _ => Server.lintOpen around).run w).2.Timed := by
  refine run_bind_cases (P := fun result => result.2.Timed) ?_ ?_
  · rintro f w₁ run
    rwa [run] at h
  · rintro a w₁ run
    rw [run] at h
    exact h.lintOpen

/-- Whatever an occasion does, the time limit stays proper. -/
theorem step (h : w.Timed) (o : Occasion) : (w.step around o).Timed := by
  have informed : ((w.meeting o).told o.occurrence.inform).Timed := fun s there =>
    h s ((o.occurrence.session_inform w.server).symm.trans there)
  obtain ⟨occurrence, entries, ends⟩ := o
  cases occurrence with
  | asked uri range only =>
    have work : w.step around ⟨.asked uri range only, entries, ends⟩ = _ :=
      codeActions_work around uri range only (w.meeting ⟨.asked uri range only, entries, ends⟩)
    rw [work]
    split
    · exact informed.ensured (Server.ensured around _)
    · exact h
  | told e =>
    cases e with
    | started options => exact of_none rfl
    | stopped => exact of_none rfl
    | ready => exact relinted (informed.ensured (Server.ensured around _))
    | opened uri document => exact informed.linted (Server.linted around _ uri)
    | saved uri => exact informed.linted (Server.linted around _ uri)
    | lintRequested uri => exact informed.linted (Server.linted around _ uri)
    | closed uri => exact informed.closed (Server.closed around _ uri)
    | configured settings =>
      change ((handle around (.configured settings)).run _).2.Timed
      rw [handle_configured]
      exact relinted (informed.reloaded (Server.reloaded around _))
    | foldersReplaced folders => exact informed.reloaded (Server.reloaded around _)

theorem run (h : w.Timed) (os : List Occasion) : (w.run around os).Timed := by
  induction os generalizing w with
  | nil => exact h
  | cons o os ih => exact ih (h.step o)

end Work.Timed

/-- What falls to one document: the ends of its passes, as far as it comes to them. -/
structure Share where
  uri : String
  source : String
  first : ProcessEnd
  second : ProcessEnd

namespace Share

variable (ready : Session) (plan : PassPlan) (x : Share)

/-- The processes of a document. -/
def lines : List (List String × Option String) :=
  ready.commandLines plan x.uri x.source x.first

/-- What a document comes to. -/
def upshot : Except Failure (List Finding) := ready.upshot plan x.uri x.first x.second

/-- Is a document published? -/
def isCalm : Bool := (x.upshot ready plan).isOk

/-- What is published for a document. -/
def published : List (String × List Diagnostic) :=
  (x.upshot ready plan).toOption.toList.map fun findings => (x.uri, Finding.diagnostics findings)

end Share

/-- The shares of open documents, in order; a language that is not linted gets none. -/
def shares (ready : Session) (plan : PassPlan) (documents : Assoc String Document) :
    List String → List ProcessEnd → List Share
  | [], _ => []
  | uri :: uris, ends =>
    match documents.get? uri with
    | none => shares ready plan documents uris ends
    | some d =>
      if ready.isLintable d.language then
        let x : Share := ⟨uri, d.text, ends.headD .usual, ends.tail.headD .usual⟩
        x :: shares ready plan documents uris (ends.drop (x.lines ready plan).length)
      else shares ready plan documents uris ends

/-- The shares up to the first one that is not calm, and that one. -/
def begun (ready : Session) (plan : PassPlan) (xs : List Share) : List Share :=
  xs.takeWhile (·.isCalm ready plan) ++ (xs.dropWhile (·.isCalm ready plan)).take 1

/-- Is a session that has found its linter in the end another one, but for the documents? -/
def Becomes (ready : Session) (t : Toolchain) (w : Work) : Prop :=
  ∃ s, w.server.session = some s ∧ (s.ensureToolchain w.files).value = .ok (some t) ∧
    ∃ registry generations,
      (s.ensureToolchain w.files).session = { ready with registry, generations }

/-- Has the server a session, but for the documents? -/
def Work.Holds (ready : Session) (w : Work) : Prop :=
  ∃ registry generations, w.server.session = some { ready with registry, generations }

/-- How shares are worked off: all calm documents up to the first other one are published, and that
one ends the whole. -/
structure WorkedOff (ready : Session) (plan : PassPlan) (xs : List Share) (w : Work)
    (result : Except Failure Unit × Work) : Prop where
  commands : commands result.2.effects =
    commands w.effects ++ (begun ready plan xs).flatMap (·.lines ready plan)
  publications : publications result.2.effects = publications w.effects ++
    (xs.takeWhile (·.isCalm ready plan)).flatMap (·.published ready plan)
  session : w.Holds ready ∨ xs ≠ [] → result.2.Holds ready
  value : result.1 = .ok () ↔ ∀ x ∈ xs, x.isCalm ready plan = true

variable {around : Surroundings} {w : Work} {ready : Session} {t : Toolchain} {uri : String}

/-- A document whose language is not linted. -/
theorem Becomes.skips (h : Becomes ready t w) (around : Surroundings) {d : Document}
    (opened : w.server.documents.get? uri = some d)
    (skipped : ready.isLintable d.language = false) :
    ∃ es, Quiet es ∧ (lint around uri).run w = (.ok (), w.did es) := by
  obtain ⟨s, there, -, registry, generations, becomes⟩ := h
  have skipped' : s.isLintable d.language = false := by
    rw [← s.isLintable_ensureToolchain w.files, becomes]
    exact skipped
  obtain ⟨es, quiet, played⟩ := Session.lintDocument_skipped skipped' w.files uri d.text w.ends
  refine ⟨es, quiet, ?_⟩
  have idle : es.countP Effect.isSpawn = 0 := by
    rw [← Effect.length_commands, quiet.2]
    rfl
  rw [lint_run there opened, played]
  obtain ⟨⟨settings, folders, rootPath, documents, session⟩, files, effects, ends⟩ := w
  cases there
  simp [failureOf, Work.settled, Work.did, idle]

/-- A document whose language is linted takes its share. -/
theorem Becomes.takes (h : Becomes ready t w) (around : Surroundings) {d : Document}
    (opened : w.server.documents.get? uri = some d) (linted : ready.isLintable d.language = true) :
    let plan := ready.plan t
    let x : Share := ⟨uri, d.text, w.ends.headD .usual, w.ends.tail.headD .usual⟩
    ∃ w₁, (lint around uri).run w = ((x.upshot ready plan).map fun _ => (), w₁) ∧
      Becomes ready t w₁ ∧ w₁.server.documents = w.server.documents ∧
      w₁.Holds ready ∧ w₁.ends = w.ends.drop (x.lines ready plan).length ∧
      publications w₁.effects = publications w.effects ++ x.published ready plan ∧
      commands w₁.effects = commands w.effects ++ x.lines ready plan := by
  intro plan x
  obtain ⟨s, there, linter, registry, generations, becomes⟩ := h
  have linted' : s.isLintable d.language = true := by
    rw [← s.isLintable_ensureToolchain w.files, becomes]
    exact linted
  have concludes := Session.concludes_lintDocument linted' linter true uri d.text w.ends
  have known := (s.provided w.files).toolchain linter
  rw [becomes] at known
  rw [lint_run there opened]
  dsimp only at concludes
  rw [becomes] at concludes
  generalize s.lintDocument w.files true none uri d.text d.language w.ends = turn at concludes
  obtain ⟨session, files, lines, published, value⟩ := concludes
  have stored : ∃ registry generations, turn.session = { ready with registry, generations } := by
    refine ⟨turn.session.registry, turn.session.generations, ?_⟩
    rw [session]
    unfold Session.storing
    split <;> rfl
  have same : commands turn.effects = x.lines ready plan := lines
  refine ⟨w.settled turn, ?_, ?_, rfl, ?_, ?_, ?_, ?_⟩
  · have upshot : turn.value = .ended ((x.upshot ready plan).bind _) := value
    rw [upshot]
    cases x.upshot ready plan <;> rfl
  · obtain ⟨registry, generations, stored⟩ := stored
    refine ⟨turn.session, rfl, ?_⟩
    have found : turn.session.ensureToolchain (w.settled turn).files =
        ⟨turn.session, turn.files, [], .ok (some t)⟩ := by
      have there : turn.session.toolchain = some t := by rw [stored]; exact known
      simp [Session.ensureToolchain, there, Work.settled]
    rw [found]
    exact ⟨rfl, registry, generations, stored⟩
  · obtain ⟨registry, generations, stored⟩ := stored
    exact ⟨registry, generations, congrArg some stored⟩
  · simp [Work.settled, ← Effect.length_commands, same]
  · have handed : publications turn.effects = x.published ready plan := published
    simp [Work.settled, handed]
  · simp [Work.settled, same]

namespace WorkedOff

variable {plan : PassPlan} {x : Share} {xs : List Share} {w₁ : Work}
  {result : Except Failure Unit × Work}

theorem nil (ready : Session) (plan : PassPlan) (w : Work) :
    WorkedOff ready plan [] w (.ok (), w) where
  commands := by simp [begun]
  publications := by simp
  session h := h.elim id (absurd rfl)
  value := by simp

/-- Effects that neither publish nor start a process do not count. -/
theorem did {es : List Effect} (quiet : Quiet es)
    (h : WorkedOff ready plan xs (w.did es) result) : WorkedOff ready plan xs w result where
  commands := by simpa [Work.did, quiet.2] using h.commands
  publications := by simpa [Work.did, quiet.1] using h.publications
  session := h.session
  value := h.value

section
variable (held : w₁.Holds ready)
  (published : Effect.publications w₁.effects =
    Effect.publications w.effects ++ x.published ready plan)
  (lines : Effect.commands w₁.effects = Effect.commands w.effects ++ x.lines ready plan)
include held published lines

/-- A calm document comes before the others. -/
theorem calm (isCalm : x.isCalm ready plan = true) (h : WorkedOff ready plan xs w₁ result) :
    WorkedOff ready plan (x :: xs) w result where
  commands := by simp [h.commands, lines, begun, isCalm]
  publications := by simp [h.publications, published, isCalm]
  session _ := h.session (.inl held)
  value := by simp [h.value, isCalm]

/-- A document that is not calm is the last one. -/
theorem stopped (isCalm : x.isCalm ready plan = false) (f : Failure) (xs : List Share) :
    WorkedOff ready plan (x :: xs) w (.error f, w₁) where
  commands := by simp [lines, begun, isCalm]
  publications := by
    have silent : x.published ready plan = [] := by
      unfold Share.isCalm at isCalm
      unfold Share.published
      cases h : x.upshot ready plan with
      | error f => rfl
      | ok findings => simp [h, Except.isOk, Except.toBool] at isCalm
    simp [published, isCalm, silent]
  session _ := held
  value := by simp [isCalm]

end

end WorkedOff

/-- The loop over open documents works off their shares. -/
theorem workedOff (h : Becomes ready t w) (around : Surroundings) (uris : List String)
    (opened : ∀ uri ∈ uris, (w.server.documents.get? uri).isSome = true) :
    WorkedOff ready (ready.plan t)
      (shares ready (ready.plan t) w.server.documents uris w.ends) w
      ((uris.forM (lint around)).run w) := by
  induction uris generalizing w with
  | nil => exact .nil ready _ w
  | cons uri uris ih =>
    obtain ⟨first, others⟩ := List.forall_mem_cons.mp opened
    obtain ⟨d, found⟩ := Option.isSome_iff_exists.mp first
    change WorkedOff ready _ _ w ((lint around uri >>= fun _ => uris.forM (lint around)).run w)
    simp only [shares, found]
    cases linted : ready.isLintable d.language with
    | false =>
      obtain ⟨es, quiet, run⟩ := h.skips around found linted
      rw [run_bind_of_ok run, if_neg (by simp)]
      exact (ih (w := w.did es) h others).did quiet
    | true =>
      obtain ⟨w₁, run, becomes, documents, held, ends, published, lines⟩ :=
        h.takes around found linted
      rw [if_pos rfl]
      cases upshot : Share.upshot ready (ready.plan t)
          ⟨uri, d.text, w.ends.headD .usual, w.ends.tail.headD .usual⟩ with
      | error f =>
        rw [upshot] at run
        rw [run_bind_of_error run]
        exact .stopped held published lines (by rw [Share.isCalm, upshot]; rfl) f _
      | ok findings =>
        rw [upshot] at run
        rw [run_bind_of_ok run]
        have rest := ih becomes (by rw [documents]; exact others)
        rw [documents, ends] at rest
        exact .calm held published lines (by rw [Share.isCalm, upshot]; rfl) rest

/-- Can a server tell its folders, and does the configuration load or fail with a fault of its
own? -/
def Reads (around : Surroundings) (w : Work) : Prop :=
  ∃ roots, w.server.roots = .ok roots ∧
    ∀ f, w.loaded around roots = .error f → (configFault? f).isSome = true

theorem Reads.orderly (h : Reads around w) : Orderly (reading around w) := by
  obtain ⟨roots, folders, caught⟩ := h
  intro roots' f read
  simp only [reading, folders, List.mem_singleton, Deed.read.injEq] at read
  obtain ⟨rfl, failed⟩ := read
  exact caught f failed.symm

theorem reads_of_settles {roots : List FilePath} (folders : w.server.roots = .ok roots)
    {before config : Config.LintConfig}
    (settles : settledOn before (w.loaded around roots) = .ok config) : Reads around w := by
  refine ⟨roots, folders, fun f failed => ?_⟩
  obtain ⟨s, loaded, -⟩ | ⟨⟨f', failed', caught⟩, -⟩ := settledOn_eq_ok_iff.mp settles
  · rw [failed] at loaded
    cases loaded
  · rw [failed] at failed'
    cases failed'
    exact caught

theorem not_reads_of_noFolders {f : Failure} (unread : w.server.roots = .error f) :
    ¬Reads around w := by
  rintro ⟨roots, folders, -⟩
  rw [unread] at folders
  cases folders

/-- What becomes of work that does nothing but get ready. -/
structure Readied (w w' : Work) : Prop where
  documents : w'.server.documents = w.server.documents
  ends : w'.ends = w.ends
  publications : publications w'.effects = publications w.effects
  commands : commands w'.effects = commands w.effects

theorem Ensured.readied {r : Except Failure Session} {w' : Work} (h : Ensured around w (r, w')) :
    Readied w w' := by
  cases h with
  | known there => exact ⟨rfl, rfl, rfl, rfl⟩
  | noFolders fresh unread => exact ⟨rfl, rfl, rfl, rfl⟩
  | refused fresh folders fails quiet =>
    exact ⟨rfl, rfl, by simp [Work.did, quiet.1], by simp [Work.did, quiet.2]⟩
  | begun fresh folders settles quiet =>
    exact ⟨rfl, rfl, by simp [Work.did, Work.having, quiet.1],
      by simp [Work.did, Work.having, quiet.2]⟩

theorem Reloaded.readied {r : Except Failure Unit} {w' : Work} (h : Reloaded around w (r, w')) :
    Readied w w' := by
  cases h with
  | noSession unstarted => exact unstarted.readied
  | noFolders there unread => exact there.readied
  | refused there folders fails quiet =>
    obtain ⟨documents, ends, published, started⟩ := there.readied
    exact ⟨documents, ends, by simp [Work.did, quiet.1, published],
      by simp [Work.did, quiet.2, started]⟩
  | done there folders settles quiet =>
    obtain ⟨documents, ends, published, started⟩ := there.readied
    exact ⟨documents, ends, by simp [Work.did, Work.having, quiet.1, published],
      by simp [Work.did, Work.having, quiet.2, started]⟩

theorem Ensured.isOk_iff {r : Except Failure Session} {w' : Work} (h : Ensured around w (r, w')) :
    (∃ s, r = .ok s) ↔ w.server.session.isSome = true ∨ Reads around w := by
  cases h with
  | known there => simp [there]
  | noFolders fresh unread => simp [fresh, not_reads_of_noFolders unread]
  | refused fresh folders fails quiet =>
    have unread : ¬Reads around w := fun reads => reads.orderly.settles folders fails
    simp [fresh, unread]
  | begun fresh folders settles quiet =>
    exact ⟨fun _ => .inr (reads_of_settles folders settles), fun _ => ⟨_, rfl⟩⟩

theorem Reloaded.isOk_iff {r : Except Failure Unit} {w' : Work} (h : Reloaded around w (r, w')) :
    r = .ok () ↔ Reads around w := by
  cases h with
  | noSession unstarted =>
    have unread := unstarted.isOk_iff.not.mp (by simp)
    simp only [reduceCtorEq, false_iff]
    exact fun reads => unread (.inr reads)
  | noFolders there unread =>
    rw [there.same.2.2.1] at unread
    simp [not_reads_of_noFolders unread]
  | @refused s f w₁ roots es there folders fails quiet =>
    obtain ⟨-, -, sameRoots, -, same⟩ := there.same
    rw [sameRoots] at folders
    rw [same] at fails
    simp only [reduceCtorEq, false_iff]
    exact fun reads => reads.orderly.settles folders fails
  | @done s w₁ roots config es there folders settles quiet =>
    obtain ⟨-, -, sameRoots, -, same⟩ := there.same
    rw [sameRoots] at folders
    rw [same] at settles
    exact ⟨fun _ => reads_of_settles folders settles, fun _ => rfl⟩

/-- What makes a server lint all open documents anew. -/
inductive Prompt where
  | ready
  | configured (settings : Value)

namespace Prompt

def event : Prompt → Event
  | .ready => .ready
  | .configured settings => .configured settings

/-- What a server does before it lints. -/
def prepare (around : Surroundings) : Prompt → Handling Unit
  | .ready => do
    let _ ← ensureSession around
  | .configured settings => do
    setServer (Occurrence.told (.configured settings)).inform
    reload around

/-- Can a server do that? -/
def Prepares (around : Surroundings) (w : Work) : Prompt → Prop
  | .ready => w.server.session.isSome = true ∨ Reads around w
  | .configured settings => Reads around (w.told (Occurrence.told (.configured settings)).inform)

theorem handle_event (around : Surroundings) (p : Prompt) (w : Work) :
    (handle around p.event).run w =
      (p.prepare around >>= fun _ => Server.lintOpen around).run w := by
  cases p with
  | ready => simp [event, handle, prepare]
  | configured settings =>
    rw [event, handle_configured]
    rfl

/-- Getting ready starts and publishes nothing, and gives a session if it works. -/
theorem prepared (around : Surroundings) (p : Prompt) (w : Work) :
    Readied w ((p.prepare around).run w).2 ∧
      (((p.prepare around).run w).1 = .ok () ↔ p.Prepares around w) ∧
      (((p.prepare around).run w).1 = .ok () →
        ((p.prepare around).run w).2.server.session.isSome = true) := by
  cases p with
  | ready =>
    unfold prepare
    refine ensureSession_bind (P := fun result => Readied w result.2 ∧
      (result.1 = .ok () ↔ Prepares around w .ready) ∧
        (result.1 = .ok () → result.2.server.session.isSome = true)) ?_ ?_
    · intro f w₁ unstarted
      have unready := unstarted.isOk_iff.not.mp (by simp)
      exact ⟨unstarted.readied, by simpa [Prepares] using unready, by simp⟩
    · intro s w₁ there
      have ready := there.isOk_iff.mp ⟨s, rfl⟩
      exact ⟨there.readied, ⟨fun _ => ready, fun _ => rfl⟩, fun _ => by
        change w₁.server.session.isSome = true
        rw [there.session]
        rfl⟩
  | configured settings =>
    have again := Server.reloaded around
      (w.told (Occurrence.told (.configured settings)).inform)
    have run : (prepare around (.configured settings)).run w =
      (reload around).run (w.told (Occurrence.told (.configured settings)).inform) := rfl
    rw [run]
    have kept : (w.told (Occurrence.told (.configured settings)).inform).server.documents =
        w.server.documents := by
      unfold Work.told Occurrence.inform
      dsimp only
      split <;> rfl
    rcases h : (reload around).run (w.told (Occurrence.told (.configured settings)).inform)
      with ⟨r, w₁⟩
    rw [h] at again
    obtain ⟨documents, ends, published, lines⟩ := again.readied
    refine ⟨⟨documents.trans kept, ends, published, lines⟩, again.isOk_iff, ?_⟩
    intro done
    cases again with
    | done there folders settles quiet => rfl
    | _ => cases done

theorem timed (h : w.Timed) (around : Surroundings) (p : Prompt) :
    ((p.prepare around).run w).2.Timed := by
  cases p with
  | ready =>
    unfold prepare
    exact ensureSession_bind (P := fun result => result.2.Timed)
      (fun f w' unstarted => h.ensured unstarted) fun s w' there => h.ensured there
  | configured settings =>
    have informed : (w.told (Occurrence.told (.configured settings)).inform).Timed := fun s there =>
      h s ((Occurrence.session_inform _ w.server).symm.trans there)
    exact informed.reloaded (Server.reloaded around _)

end Prompt

theorem isSome_get?_of_mem_keys {documents : Assoc String Document} {uri : String}
    (h : uri ∈ documents.keys) : (documents.get? uri).isSome = true :=
  Assoc.mem_keys_iff.mp h

/-- Every document of a language that is linted has a share. -/
theorem shares_uris (ready : Session) (plan : PassPlan) {documents : Assoc String Document}
    (uris : List String) (ends : List ProcessEnd) :
    (shares ready plan documents uris ends).map Share.uri = uris.filter fun uri =>
      (documents.get? uri).any fun d => ready.isLintable d.language := by
  induction uris generalizing ends with
  | nil => rfl
  | cons uri uris ih =>
    unfold shares
    cases found : documents.get? uri with
    | none => simp [found, ih]
    | some d =>
      cases linted : ready.isLintable d.language <;> simp [found, linted, ih]

namespace Share

variable {plan : PassPlan} {x : Share}

/-- A document is published exactly if its rule file can be told, no pass is stopped, and no pass
prints a coordinate beyond the editor protocol. -/
theorem isCalm_iff (timed : ∀ rules, (Session.invocation plan rules).hasNoTime = false) :
    x.isCalm ready plan = true ↔ ∃ rules, ready.rulesPath x.uri = .ok rules ∧
      x.first.Ordinary ∧ (rules ≠ none → x.second.Ordinary) := by
  rw [← Session.upshot_isOk_iff timed, isCalm, upshot]
  cases ready.upshot plan x.uri x.first x.second <;> simp [Except.isOk, Except.toBool]

/-- A document that is published is published with the translation of what its passes print. -/
theorem published_of_isCalm (timed : ∀ rules, (Session.invocation plan rules).hasNoTime = false)
    (h : x.isCalm ready plan = true) :
    ∃ rules findings, ready.rulesPath x.uri = .ok rules ∧
      Violation.findings x.uri (Session.harvested rules x.first x.second) = .ok findings ∧
      x.published ready plan = [(x.uri, Finding.diagnostics findings)] := by
  unfold isCalm at h
  cases upshot : x.upshot ready plan with
  | error f => simp [upshot, Except.isOk, Except.toBool] at h
  | ok findings =>
    obtain ⟨rules, readable, translated⟩ := Session.findings_of_upshot timed upshot
    exact ⟨rules, findings, readable, translated, by simp [published, upshot, Except.toOption]⟩

theorem map_fst_published (h : x.isCalm ready plan = true) :
    (x.published ready plan).map Prod.fst = [x.uri] := by
  unfold isCalm at h
  cases upshot : x.upshot ready plan with
  | error f => simp [upshot, Except.isOk, Except.toBool] at h
  | ok findings => simp [published, upshot, Except.toOption]

end Share

/-- All documents are published exactly if all are calm. -/
theorem WorkedOff.all_iff {plan : PassPlan} {xs : List Share} {result : Except Failure Unit × Work}
    (h : WorkedOff ready plan xs w result) :
    (Effect.publications result.2.effects).map Prod.fst =
        (Effect.publications w.effects).map Prod.fst ++ xs.map Share.uri ↔
      ∀ x ∈ xs, x.isCalm ready plan = true := by
  have uris (ys : List Share) (calm : ∀ x ∈ ys, x.isCalm ready plan = true) :
      (ys.flatMap (·.published ready plan)).map Prod.fst = ys.map Share.uri := by
    induction ys with
    | nil => rfl
    | cons y ys ih =>
      obtain ⟨first, others⟩ := List.forall_mem_cons.mp calm
      simp [Share.map_fst_published first, ih others]
  rw [h.publications, List.map_append, uris _ fun x hx => List.mem_takeWhile_imp hx,
    List.append_cancel_left_eq]
  constructor
  · intro same
    have whole : xs.takeWhile (·.isCalm ready plan) = xs := by
      refine (List.takeWhile_prefix _).eq_of_length ?_
      simpa using congrArg List.length same
    exact List.takeWhile_eq_self_iff.mp whole
  · intro calm
    rw [List.takeWhile_eq_self_iff.mpr calm]

/-- How all open documents are linted anew with a linter, by their shares. The configuration is the
one that is in force afterwards. -/
structure AllLinted (ready : Session) (t : Toolchain) (w : Work)
    (result : Except Failure Unit × Work) (xs : List Share) : Prop where
  /-- The documents of the languages that are linted, in the order in which they were opened. -/
  documents : xs.map Share.uri = w.server.documents.keys.filter fun uri =>
    (w.server.documents.get? uri).any fun d => ready.isLintable d.language
  /-- Those up to the first one that is not calm are linted. -/
  commands : commands result.2.effects =
    commands w.effects ++ (begun ready (ready.plan t) xs).flatMap (·.lines ready (ready.plan t))
  /-- Those before it are published. -/
  publications : publications result.2.effects = publications w.effects ++
    (xs.takeWhile (·.isCalm ready (ready.plan t))).flatMap (·.published ready (ready.plan t))
  session : xs ≠ [] → result.2.Holds ready
  value : result.1 = .ok () ↔ ∀ x ∈ xs, x.isCalm ready (ready.plan t) = true
  calm : ∀ x ∈ xs, x.isCalm ready (ready.plan t) = true ↔
    ∃ rules, ready.rulesPath x.uri = .ok rules ∧
      x.first.Ordinary ∧ (rules ≠ none → x.second.Ordinary)
  content : ∀ x ∈ xs, x.isCalm ready (ready.plan t) = true →
    ∃ rules findings, ready.rulesPath x.uri = .ok rules ∧
      Violation.findings x.uri (Session.harvested rules x.first x.second) = .ok findings ∧
      x.published ready (ready.plan t) = [(x.uri, Finding.diagnostics findings)]

/-- A server that is told to lint all open documents anew, after whatever has come to pass and with
a linter, publishes all of them exactly if it can get ready and all documents are calm. If it
cannot get ready it lints none. Else the documents are linted in the order in which they were
opened, under the configuration in force afterwards; those before the first one that is not calm
are published, and those after it are not linted. -/
theorem relinted_iff (around : Surroundings) (folders : List String) (rootPath : Option String)
    (files : FileSystem) (os : List Occasion) (p : Prompt) (entries : Assoc Place FileEntry)
    (ends : List ProcessEnd) :
    let w := ((⟨Server.fresh folders rootPath, files, [], []⟩ : Work).run around os).meeting
      ⟨.told p.event, entries, ends⟩
    let result := (handle around p.event).run w
    (¬p.Prepares around w → (∃ f, result.1 = .error f) ∧
      publications result.2.effects = publications w.effects ∧
      commands result.2.effects = commands w.effects) ∧
    (p.Prepares around w → ∃ (w₁ : Work) (s₁ : Session),
      (p.prepare around).run w = (.ok (), w₁) ∧ w₁.server.session = some s₁ ∧
      ∀ t, (s₁.ensureToolchain w₁.files).value = .ok (some t) →
        let ready := (s₁.ensureToolchain w₁.files).session
        let xs := shares ready (ready.plan t) w.server.documents w.server.documents.keys ends
        AllLinted ready t w result xs ∧
        ((publications result.2.effects).map Prod.fst =
            (publications w.effects).map Prod.fst ++ xs.map Share.uri ↔
          ∀ x ∈ xs, x.isCalm ready (ready.plan t) = true)) := by
  intro w result
  have begin : (⟨Server.fresh folders rootPath, files, [], []⟩ : Work).Timed := .of_none rfl
  have timed : w.Timed := begin.run os
  have timed₁ := p.timed timed around
  obtain ⟨⟨documents, rest, published, lines⟩, isOk, there⟩ := p.prepared around w
  have whole : result = _ := p.handle_event around w
  rcases run : (p.prepare around).run w with ⟨r, w₁⟩
  rw [run] at timed₁ documents rest published lines isOk there
  rw [← isOk]
  cases r with
  | error f =>
    rw [run_bind_of_error run] at whole
    rw [whole]
    exact ⟨fun _ => ⟨⟨f, rfl⟩, published, lines⟩, fun ready => (by cases ready)⟩
  | ok _ =>
    rw [run_bind_of_ok run, lintOpen_run] at whole
    refine ⟨fun unready => absurd rfl unready, fun _ => ?_⟩
    obtain ⟨s₁, known⟩ := Option.isSome_iff_exists.mp (there rfl)
    refine ⟨w₁, s₁, rfl, known, ?_⟩
    intro t linter ready xs
    have becomes : Becomes ready t w₁ := ⟨s₁, known, linter, ready.registry, ready.generations, rfl⟩
    have worked := workedOff becomes around w₁.server.documents.keys
      fun uri hu => isSome_get?_of_mem_keys hu
    have proper : ready.Timed := (timed₁ s₁ known).of_timeout
      (Session.ensureToolchain_kept s₁ w₁.files).2.2.2.2
    dsimp only at documents rest published lines
    rw [← whole, documents, rest] at worked
    have all := worked.all_iff
    rw [published] at all
    exact ⟨{
      documents := shares_uris ready (ready.plan t) _ _
      commands := by rw [← lines]; exact worked.commands
      publications := by rw [← published]; exact worked.publications
      session := fun some => worked.session (.inr some)
      value := worked.value
      calm := fun x _ => x.isCalm_iff (proper.hasNoTime t)
      content := fun x _ calm => x.published_of_isCalm (proper.hasNoTime t) calm }, all⟩

/-- A server with two open documents that becomes ready once more. -/
def twoOpen (ends : List ProcessEnd) : Work :=
  ((⟨Server.fresh ["file:///w"] none, homeFiles, [], []⟩ : Work).run plainSurroundings
    [⟨.told (.opened "file:///w/a.luau" ⟨"x", some "luau"⟩), homeFiles.entries, []⟩,
      ⟨.told (.opened "file:///w/b.luau" ⟨"y", some "lua"⟩), homeFiles.entries, []⟩]).meeting
    ⟨.told Prompt.ready.event, homeFiles.entries, ends⟩

/-- A process that exits with a failure and prints no batch. -/
def crashed : ProcessEnd := .exited (some 1) [] []

/-- The pass of the first document fails, and both documents are published. -/
theorem relinted_after_failed_pass :
    let w := twoOpen [crashed, Session.emptyBatch]
    let result := (handle plainSurroundings Prompt.ready.event).run w
    Prompt.ready.Prepares plainSurroundings w ∧
      (publications result.2.effects).map Prod.fst =
        (publications w.effects).map Prod.fst ++ ["file:///w/a.luau", "file:///w/b.luau"] := by
  intro w result
  obtain ⟨s, known⟩ : ∃ s, w.server.session = some s :=
    Option.isSome_iff_exists.mp (by decide +kernel)
  have prepares : Prompt.ready.Prepares plainSurroundings w := .inl (by rw [known]; rfl)
  obtain ⟨-, linted⟩ := relinted_iff plainSurroundings ["file:///w"] none homeFiles
    [⟨.told (.opened "file:///w/a.luau" ⟨"x", some "luau"⟩), homeFiles.entries, []⟩,
      ⟨.told (.opened "file:///w/b.luau" ⟨"y", some "lua"⟩), homeFiles.entries, []⟩]
    .ready homeFiles.entries [crashed, Session.emptyBatch]
  obtain ⟨w₁, s₁, run, known₁, shared⟩ := linted prepares
  have still : (Prompt.ready.prepare plainSurroundings).run w = (.ok (), w) := by
    rw [Prompt.prepare, run_bind_of_ok (ensureSession_known known)]
    rfl
  obtain rfl : w = w₁ := congrArg Prod.snd (still.symm.trans run)
  obtain rfl : s = s₁ := Option.some.inj (known.symm.trans known₁)
  -- What the shares are and come to is computed on the session of this server.
  let t : Toolchain := ⟨"/h/.foreman/bin/lute", some "/w", .foreman⟩
  let xs (s : Session) := shares (s.ensureToolchain w.files).session
    ((s.ensureToolchain w.files).session.plan t) w.server.documents w.server.documents.keys
    [crashed, Session.emptyBatch]
  have computed : w.server.session.all (fun s =>
      (s.ensureToolchain w.files).value.toOption = some (some t) ∧
      (xs s).map Share.uri = ["file:///w/a.luau", "file:///w/b.luau"] ∧
      (xs s).all fun x => x.isCalm (s.ensureToolchain w.files).session
        ((s.ensureToolchain w.files).session.plan t)) = true := by decide +kernel
  rw [known, Option.all_some, decide_eq_true_iff] at computed
  obtain ⟨linter, documents, calm⟩ := computed
  obtain ⟨-, all⟩ := shared t (toOption_eq_some_iff.mp linter)
  refine ⟨prepares, (all.mpr (List.all_eq_true.mp calm)).trans ?_⟩
  exact congrArg _ documents

/-- The first document prints a coordinate beyond the editor protocol: nothing is published, and the
second document is not linted. -/
theorem relint_stopped_by_output :
    let w := twoOpen [.exited (some 0) Session.beyondBatch [], Session.emptyBatch]
    let result := (handle plainSurroundings Prompt.ready.event).run w
    w.server.documents.keys = ["file:///w/a.luau", "file:///w/b.luau"] ∧
      w.server.session.map Session.toolchain =
        some (some ⟨"/h/.foreman/bin/lute", some "/w", .foreman⟩) ∧
      (publications result.2.effects).length = (publications w.effects).length ∧
      commands result.2.effects = commands w.effects ++
        [(["/h/.foreman/bin/lute", "lint", "-j", "-s", "x"], some "/w")] := by
  intro w result
  refine ⟨by decide +kernel, by decide +kernel, by decide +kernel, by decide +kernel⟩

end Server
end LintBridge
