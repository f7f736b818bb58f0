import LintBridge.Proofs.Survival
import LintBridge.Proofs.Upshot
/-!
What the parts of the handling of an event come to, said once: a session is started or is there
(`Ensured`), the configuration is read again (`Reloaded`), a document is linted (`Linted`). Every
invariant of a server is derived from these.
-/
namespace LintBridge.Server

open Effect (publications commands Quiet)
open Config

variable {around : Surroundings} {w : Work}

/-- Work with a session. -/
def Work.having (w : Work) (s : Session) : Work :=
  { w with server := { w.server with session := some s } }

/-- Work after a cycle. -/
def Work.settled (w : Work) (turn : Turn Session.Played) : Work :=
  { w with
    server := { w.server with session := some turn.session }
    files := turn.files
    effects := w.effects ++ turn.effects
    ends := w.ends.drop (turn.effects.countP Effect.isSpawn) }

/-- The configuration after a load: a fault of the configuration leaves the one before. -/
def settledOn (before : LintConfig) : Except Failure Settings → Except Failure LintConfig
  | .ok s => .ok s.lint
  | .error f => if (configFault? f).isSome then .ok before else .error f

theorem settledOn_eq_ok_iff {before config : LintConfig} {r : Except Failure Settings} :
    settledOn before r = .ok config ↔
      (∃ s, r = .ok s ∧ s.lint = config) ∨
        (∃ f, r = .error f ∧ (configFault? f).isSome = true) ∧ before = config := by
  cases r with
  | ok s => simp [settledOn]
  | error f => cases h : (configFault? f).isSome <;> simp [settledOn, h]

theorem settledOn_eq_error_iff {before : LintConfig} {r : Except Failure Settings} {f : Failure} :
    settledOn before r = .error f ↔ r = .error f ∧ configFault? f = none := by
  cases r with
  | ok s => simp [settledOn]
  | error f' =>
    cases h : configFault? f' with
    | none => simp only [settledOn, h]; grind
    | some fault => simp only [settledOn, h]; grind

theorem run_attempt_error {α β : Type} (e : Failure) (f : α → Handling β) (w : Work) :
    (attempt (.error e) >>= f).run w = (.error e, w) := rfl

/-- Work with a part that may fail: the failure is the end of it, a result goes on. -/
theorem run_bind_cases {α β : Type} {x : Handling α} {f : α → Handling β} {w : Work}
    {P : Except Failure β × Work → Prop}
    (failed : ∀ e w', x.run w = (.error e, w') → P (.error e, w'))
    (goesOn : ∀ a w', x.run w = (.ok a, w') → P ((f a).run w')) : P ((x >>= f).run w) := by
  rcases h : x.run w with ⟨r, w'⟩
  cases r with
  | error e =>
    rw [run_bind_of_error h]
    exact failed e w' h
  | ok a =>
    rw [run_bind_of_ok h]
    exact goesOn a w' h

/-- Work goes on with the configuration that was loaded, or with the one before. -/
theorem run_loadConfig_bind {β : Type} (around : Surroundings) (before : LintConfig)
    (roots : List FilePath) (w : Work) (next : LintConfig → Handling β) :
    ∃ es, Quiet es ∧
      (loadConfig around roots >>= fun found => next (found.getD before)).run w =
        (attempt (settledOn before (w.loaded around roots)) >>= next).run (w.did es) := by
  obtain ⟨es, quiet, loads⟩ := loadConfig_run around roots w
  refine ⟨es, quiet, ?_⟩
  cases h : w.loaded around roots with
  | ok s =>
    rw [h] at loads
    rw [run_bind_of_ok loads]
    rfl
  | error f =>
    rw [h] at loads
    cases caught : (configFault? f).isSome with
    | true =>
      simp only [caught, if_true] at loads
      rw [run_bind_of_ok loads, settledOn, if_pos caught]
      rfl
    | false =>
      simp only [caught, Bool.false_eq_true, if_false] at loads
      rw [run_bind_of_error loads, settledOn, if_neg (by simp [caught])]
      rfl

/-- How a session is there after it was asked for. -/
inductive Ensured (around : Surroundings) (w : Work) : Except Failure Session × Work → Prop where
  | known {s : Session} (there : w.server.session = some s) : Ensured around w (.ok s, w)
  | noFolders {f : Failure} (fresh : w.server.session = none) (unread : w.server.roots = .error f) :
    Ensured around w (.error f, w)
  | refused {roots : List FilePath} {f : Failure} {es : List Effect}
    (fresh : w.server.session = none) (folders : w.server.roots = .ok roots)
    (fails : settledOn .default (w.loaded around roots) = .error f) (quiet : Quiet es) :
    Ensured around w (.error f, w.did es)
  | begun {roots : List FilePath} {config : LintConfig} {es : List Effect}
    (fresh : w.server.session = none) (folders : w.server.roots = .ok roots)
    (settles : settledOn .default (w.loaded around roots) = .ok config) (quiet : Quiet es) :
    Ensured around w
      (.ok (Session.fresh config roots true w.files.home around.packaged),
        (w.having (Session.fresh config roots true w.files.home around.packaged)).did es)

theorem ensured (around : Surroundings) (w : Work) :
    Ensured around w ((ensureSession around).run w) := by
  rw [ensureSession, run_get_bind]
  cases there : w.server.session with
  | some s => exact .known there
  | none =>
    dsimp only
    rw [run_get_bind]
    cases folders : w.server.roots with
    | error f =>
      rw [run_attempt_error]
      exact .noFolders there folders
    | ok roots =>
      rw [run_attempt_ok]
      obtain ⟨es, quiet, loads⟩ := run_loadConfig_bind around .default roots w fun config => do
        let session := Session.fresh config roots true (← MonadState.get).files.home around.packaged
        setServer fun s => { s with session := some session }
        emit (Session.reports none [.sessionStarted (roots.map FilePath.text)])
        return session
      rw [loads]
      cases settles : settledOn .default (w.loaded around roots) with
      | error f => exact .refused there folders settles quiet
      | ok config =>
        have begun := Ensured.begun there folders settles (quiet.append
          (Session.quiet_reports none [.sessionStarted (roots.map FilePath.text)]))
        rw [← did_did] at begun
        exact begun

/-- What asks for a session first ends with the failure of that, or goes on with the session. -/
theorem ensureSession_bind {β : Type} {f : Session → Handling β}
    {P : Except Failure β × Work → Prop}
    (unstarted : ∀ e w', Ensured around w (.error e, w') → P (.error e, w'))
    (there : ∀ s w', Ensured around w (.ok s, w') → P ((f s).run w')) :
    P ((ensureSession around >>= f).run w) :=
  run_bind_cases (fun e w' h => unstarted e w' (h ▸ ensured around w))
    fun s w' h => there s w' (h ▸ ensured around w)

/-- A session that is there is taken as it is. -/
theorem Ensured.eq_known {s : Session} (there : w.server.session = some s)
    {r : Except Failure Session} {w' : Work} (h : Ensured around w (r, w')) :
    r = .ok s ∧ w' = w := by
  cases h with
  | known there' =>
    rw [there] at there'
    cases there'
    exact ⟨rfl, rfl⟩
  | noFolders fresh unread =>
    rw [there] at fresh
    cases fresh
  | refused fresh folders fails quiet =>
    rw [there] at fresh
    cases fresh
  | begun fresh folders settles quiet =>
    rw [there] at fresh
    cases fresh

theorem ensureSession_known {s : Session} (there : w.server.session = some s) :
    (ensureSession around).run w = (.ok s, w) := by
  have asked := ensured around w
  generalize (ensureSession around).run w = result at asked
  obtain ⟨r, w'⟩ := result
  obtain ⟨rfl, rfl⟩ := asked.eq_known there
  rfl

/-- A session is started with a configuration that loads. -/
theorem ensureSession_fresh (around : Surroundings) {roots : List FilePath} {settings : Settings}
    (fresh : w.server.session = none) (folders : w.server.roots = .ok roots)
    (loads : w.loaded around roots = .ok settings) :
    ∃ es, Quiet es ∧ (ensureSession around).run w =
      (.ok (Session.fresh settings.lint roots true w.files.home around.packaged),
        (w.having
          (Session.fresh settings.lint roots true w.files.home around.packaged)).did es) := by
  have asked := ensured around w
  have settles : settledOn .default (w.loaded around roots) = .ok settings.lint := by
    rw [loads]
    rfl
  generalize (ensureSession around).run w = result at asked
  cases asked with
  | known there => cases fresh.symm.trans there
  | noFolders _ unread => cases folders.symm.trans unread
  | refused _ folders' fails _ =>
    cases folders.symm.trans folders'
    cases settles.symm.trans fails
  | @begun roots' config es _ folders' settles' quiet =>
    cases folders.symm.trans folders'
    cases settles.symm.trans settles'
    exact ⟨es, quiet, rfl⟩

/-- How the configuration was read again. -/
inductive Reloaded (around : Surroundings) (w : Work) : Except Failure Unit × Work → Prop where
  | noSession {f : Failure} {w' : Work} (unstarted : Ensured around w (.error f, w')) :
    Reloaded around w (.error f, w')
  | noFolders {s : Session} {f : Failure} {w' : Work} (there : Ensured around w (.ok s, w'))
    (unread : w'.server.roots = .error f) : Reloaded around w (.error f, w')
  | refused {s : Session} {f : Failure} {w' : Work} {roots : List FilePath} {es : List Effect}
    (there : Ensured around w (.ok s, w')) (folders : w'.server.roots = .ok roots)
    (fails : settledOn s.config (w'.loaded around roots) = .error f) (quiet : Quiet es) :
    Reloaded around w (.error f, w'.did es)
  | done {s : Session} {w' : Work} {roots : List FilePath} {config : LintConfig} {es : List Effect}
    (there : Ensured around w (.ok s, w')) (folders : w'.server.roots = .ok roots)
    (settles : settledOn s.config (w'.loaded around roots) = .ok config) (quiet : Quiet es) :
    Reloaded around w (.ok (), (w'.having (s.reconfigure config (some roots))).did es)

theorem reloaded (around : Surroundings) (w : Work) :
    Reloaded around w ((reload around).run w) := by
  rw [reload]
  refine ensureSession_bind (fun f w' unstarted => .noSession unstarted) fun s w' there => ?_
  rw [run_get_bind]
  cases folders : w'.server.roots with
  | error f =>
    rw [run_attempt_error]
    exact .noFolders there folders
  | ok roots =>
    rw [run_attempt_ok]
    obtain ⟨es, quiet, loads⟩ := run_loadConfig_bind around s.config roots w' fun config =>
      setServer fun server => { server with session := some (s.reconfigure config (some roots)) }
    rw [loads]
    cases settles : settledOn s.config (w'.loaded around roots) with
    | error f => exact .refused there folders settles quiet
    | ok config => exact .done there folders settles quiet

/-- How the failure of a cycle goes on. -/
def failureOf : Session.Played → Except Failure Unit
  | .ended (.error f) => .error f
  | _ => .ok ()

/-- How a document was linted. -/
inductive Linted (around : Surroundings) (w : Work) (uri : String) :
    Except Failure Unit × Work → Prop where
  | noSession {f : Failure} {w' : Work} (unstarted : Ensured around w (.error f, w')) :
    Linted around w uri (.error f, w')
  | unread {s : Session} {f : Failure} {w' : Work} (there : Ensured around w (.ok s, w'))
    (missing : w'.server.document w'.files uri = .error f) : Linted around w uri (.error f, w')
  | cycle {s : Session} {w' : Work} {d : Document} (there : Ensured around w (.ok s, w'))
    (found : w'.server.document w'.files uri = .ok d) {turn : Turn Session.Played}
    (played : s.lintDocument w'.files true none uri d.text d.language w'.ends = turn) :
    Linted around w uri (failureOf turn.value, w'.settled turn)

theorem settle_run (turn : Turn Session.Played) (w : Work) :
    (settle turn).run w = (failureOf turn.value, w.settled turn) := by
  unfold settle
  cases h : turn.value with
  | held r => rfl
  | ended result => cases result <;> rfl

theorem linted (around : Surroundings) (w : Work) (uri : String) :
    Linted around w uri ((lint around uri).run w) := by
  rw [lint]
  refine ensureSession_bind (fun f w' unstarted => .noSession unstarted) fun s w' there => ?_
  rw [run_get_bind]
  cases found : w'.server.document w'.files uri with
  | error f =>
    rw [run_attempt_error]
    exact .unread there found
  | ok d =>
    rw [run_attempt_ok, settle_run]
    exact .cycle there found rfl

/-- An open document is linted with the session that is there. -/
theorem lint_run {uri : String} {s : Session} (there : w.server.session = some s) {d : Document}
    (opened : w.server.documents.get? uri = some d) :
    (lint around uri).run w =
      (failureOf (s.lintDocument w.files true none uri d.text d.language w.ends).value,
        w.settled (s.lintDocument w.files true none uri d.text d.language w.ends)) := by
  have lints := Server.linted around w uri
  generalize (lint around uri).run w = result at lints
  have read : w.server.document w.files uri = .ok d := by simp [document, opened]
  cases lints with
  | noSession unstarted => cases (unstarted.eq_known there).1
  | unread asked missing =>
    obtain ⟨-, rfl⟩ := asked.eq_known there
    rw [read] at missing
    cases missing
  | cycle asked found played =>
    obtain ⟨hs, rfl⟩ := asked.eq_known there
    cases hs
    rw [read] at found
    cases found
    rw [played]

theorem forIn_eq_forM (f : String → Handling Unit) (uris : List String) :
    (do for uri in uris do f uri : Handling Unit) = uris.forM f := by
  induction uris with
  | nil => rfl
  | cons uri uris ih =>
    have rest : (forIn uris PUnit.unit fun uri _ => do
        f uri
        pure (ForInStep.yield PUnit.unit) : Handling PUnit) = uris.forM f := by
      simpa using ih
    change _ = (f uri >>= fun _ => uris.forM f)
    simp only [List.forIn_cons, bind_assoc, pure_bind, rest]
    simp

/-- All open documents are linted one after the other, until one of them fails. -/
theorem lintOpen_run (around : Surroundings) (w : Work) :
    (lintOpen around).run w = (w.server.documents.keys.forM (lint around)).run w := by
  rw [lintOpen, run_get_bind, forIn_eq_forM]

/-- What the linting of one document keeps, the linting of several keeps. -/
theorem forM_lint {I : Work → Prop}
    (keeps : ∀ w uri r w', I w → Linted around w uri (r, w') → I w') (uris : List String)
    (h : I w) : I ((uris.forM (lint around)).run w).2 := by
  induction uris generalizing w with
  | nil => exact h
  | cons uri uris ih =>
    have first (r : Except Failure Unit) (w' : Work) (run : (lint around uri).run w = (r, w')) :
        I w' := keeps w uri r w' h (run ▸ linted around w uri)
    change I ((lint around uri >>= fun _ => uris.forM (lint around)).run w).2
    exact run_bind_cases (P := fun result => I result.2) (fun _ _ run => first _ _ run)
      fun _ _ run => ih (first _ _ run)

/-- Work of a server that was told something. -/
def Work.told (w : Work) (change : Server → Server) : Work := { w with server := change w.server }

theorem setServer_run (change : Server → Server) (w : Work) :
    (setServer change).run w = (.ok (), w.told change) := rfl

/-- A server without a document. -/
def forgetting (uri : String) (s : Server) : Server :=
  { s with documents := s.documents.erase uri }

/-- How a document was closed. -/
inductive Closed (around : Surroundings) (w : Work) (uri : String) :
    Except Failure Unit × Work → Prop where
  | noSession {f : Failure} {w' : Work}
    (unstarted : Ensured around (w.told (forgetting uri)) (.error f, w')) :
    Closed around w uri (.error f, w')
  | done {s : Session} {w' : Work} (there : Ensured around (w.told (forgetting uri)) (.ok s, w')) :
    Closed around w uri (.ok (), (w'.having (s.closeDocument w'.files true uri).session).did
      (s.closeDocument w'.files true uri).effects)

theorem closed (around : Surroundings) (w : Work) (uri : String) :
    Closed around w uri ((close around uri).run w) := by
  rw [close, run_bind_of_ok (setServer_run _ w)]
  change Closed around w uri (ExceptT.run (ensureSession around >>= _) (w.told (forgetting uri)))
  exact ensureSession_bind (fun f w' unstarted => .noSession unstarted)
    fun s w' there => .done there

/-- Asking for quick fixes asks for a session, unless only other kinds of actions are wanted. -/
theorem codeActions_work (around : Surroundings) (uri : String) (range : EditorRange)
    (only : List String) (w : Work) :
    ((codeActions around uri range only).run w).2 =
      if only.isEmpty || only.contains quickFixKind then
        ((ensureSession around).run w).2 else w := by
  unfold codeActions
  have kinds : (!only.isEmpty && !only.contains quickFixKind) =
      !(only.isEmpty || only.contains quickFixKind) := by rw [Bool.not_or]
  rw [kinds]
  cases only.isEmpty || only.contains quickFixKind with
  | false => rfl
  | true =>
    simp only [Bool.not_true, Bool.false_eq_true, if_false, if_true]
    refine run_bind_cases (P := fun result => result.2 = ((ensureSession around).run w).2) ?_ ?_
    · rintro f w' run
      rw [run]
    · rintro s w' run
      rw [run]
      rfl

end LintBridge.Server
