import LintBridge.Proofs.Handling
import LintBridge.Proofs.Provision
/-!
What has come to pass on a server, as far as it bears on the configuration: the sessions that were
left, the readings of the configuration, and the searches for the linter. Whatever the editor does
and in whatever order, the configuration of a session is that of the last load that worked, with at
most the linter of a discovery since then in it, and its folders are those of the last reading
(`configuration_in_force`).
-/
namespace LintBridge.Server

open Config
open Effect (Quiet)

/-- What an editor does: it tells an event, or asks for the quick fixes at a stretch. -/
inductive Occurrence where
  | told (e : Event)
  | asked (uri : String) (range : EditorRange) (only : List String)

/-- Something that an editor does, with what stands in the file system by then, and what the
processes come to that it leads to. -/
structure Occasion where
  occurrence : Occurrence
  entries : Assoc Place FileEntry
  ends : List ProcessEnd

namespace Occurrence

/-- Is there a session from then on? -/
def needsSession : Occurrence → Bool
  | told (.started _) | told .stopped => false
  | asked _ _ only => only.isEmpty || only.contains quickFixKind
  | told _ => true

/-- Is the configuration read again for the session that is there? -/
def rereads : Occurrence → Bool
  | told (.configured _) | told (.foldersReplaced _) => true
  | _ => false

/-- Are documents linted? -/
def lints : Occurrence → Bool
  | told .ready | told (.opened ..) | told (.saved _) | told (.lintRequested _)
  | told (.configured _) => true
  | _ => false

/-- What a server knows when it reads the configuration. -/
def inform : Occurrence → Server → Server
  | told (.opened uri document), s => { s with documents := s.documents.put uri document }
  | told (.closed uri), s => forgetting uri s
  | told (.configured settings), s => if settings matches .null then s else { s with settings }
  | told (.foldersReplaced folders), s => { s with folders }
  | _, s => s

/-- What a server is told does not touch its session before anything is read. -/
theorem session_inform (o : Occurrence) (s : Server) : (o.inform s).session = s.session := by
  unfold inform
  split <;> try rfl
  split <;> rfl

end Occurrence

namespace Work

/-- The work that an occasion finds. -/
def meeting (w : Work) (o : Occasion) : Work :=
  { w with files := { w.files with entries := o.entries }, ends := o.ends }

/-- Handle an occasion to its end. -/
def step (around : Surroundings) (w : Work) (o : Occasion) : Work :=
  match o.occurrence with
  | .told e => ((handle around e).run (w.meeting o)).2
  | .asked uri range only => ((codeActions around uri range only).run (w.meeting o)).2

/-- Handle occasions one after the other. -/
def run (around : Surroundings) (w : Work) (os : List Occasion) : Work := os.foldl (step around) w

end Work

/-- Something that bears on the configuration of a session. -/
inductive Deed where
  | left
  | read (roots : List FilePath) (outcome : Except Failure Settings)
  | searched (files : FileSystem)

namespace Deed

/-- Was a session begun and not left? Deeds stand with the newest first. -/
def InSession : List Deed → Prop
  | read .. :: _ => True
  | searched _ :: earlier => InSession earlier
  | left :: _ | [] => False

/-- The folders of the last reading of a session. -/
def lastFolders : List Deed → List FilePath
  | read roots _ :: _ => roots
  | searched _ :: earlier => lastFolders earlier
  | left :: _ | [] => []

/-- The configuration of the last load of a session that worked, or the default. -/
def lastLoaded : List Deed → LintConfig
  | read _ (.ok s) :: _ => s.lint
  | read _ (.error _) :: earlier | searched _ :: earlier => lastLoaded earlier
  | left :: _ | [] => .default

/-- Since the last load that worked, without a linter in it, a linter was found below the home
directory for a manifest in one of the folders. -/
inductive Discovered (home : FilePath) : List Deed → String → String → Prop where
  | now {files : FileSystem} {earlier : List Deed} {executable directory : String}
    (unnamed : (lastLoaded earlier).executablePath = "")
    (found : (Toolchain.resolve files home "" (lastFolders earlier)).1 =
      .ok (some ⟨executable, some directory, .foreman⟩)) :
    Discovered home (searched files :: earlier) executable directory
  | before {files : FileSystem} {earlier : List Deed} {executable directory : String}
    (found : Discovered home earlier executable directory) :
    Discovered home (searched files :: earlier) executable directory
  | kept {roots : List FilePath} {f : Failure} {earlier : List Deed}
    {executable directory : String} (found : Discovered home earlier executable directory) :
    Discovered home (read roots (.error f) :: earlier) executable directory

/-- The configurations that a session can have. -/
def Stands (home : FilePath) (deeds : List Deed) (config : LintConfig) : Prop :=
  config = lastLoaded deeds ∨
    ∃ executable directory, Discovered home deeds executable directory ∧
      config = { lastLoaded deeds with
        executablePath := executable, manifestDirectory := some directory }

end Deed

open Deed

/-- The reading of the configuration that a server is about to do, if it can tell its folders. -/
def reading (around : Surroundings) (w : Work) : List Deed :=
  match w.server.roots with
  | .ok roots => [.read roots (w.loaded around roots)]
  | .error _ => []

/-- The reading of the configuration for a session that is not there yet. -/
def starting (around : Surroundings) (w : Work) : List Deed :=
  if w.server.session.isNone then reading around w else []

/-- What an occasion adds to the deeds. -/
def deeds (around : Surroundings) (w : Work) (o : Occasion) : List Deed :=
  if o.occurrence.needsSession then
    let w := (w.meeting o).told o.occurrence.inform
    (if o.occurrence.lints then [.searched w.files] else []) ++
      ((if o.occurrence.rereads then reading around w else []) ++ starting around w)
  else match o.occurrence with
    | .told _ => [.left]
    | .asked .. => []

/-- All deeds of a run, the newest first. -/
def history (around : Surroundings) : Work → List Occasion → List Deed
  | _, [] => []
  | w, o :: os => history around (w.step around o) os ++ deeds around w o

/-- Every load that failed did so with a fault of the configuration. -/
def Orderly (deeds : List Deed) : Prop :=
  ∀ roots f, .read roots (.error f) ∈ deeds → (configFault? f).isSome = true

/-- A linter that is found where none is named is the one below the home directory. -/
theorem executable_of_resolve {fs : FileSystem} {home : FilePath} {roots : List FilePath}
    {t : Toolchain} (h : (Toolchain.resolve fs home "" roots).1 = .ok (some t)) :
    t.executable = (Toolchain.binaryPath home).text := by
  rw [Toolchain.resolve_found] at h
  unfold Toolchain.Search.start at h
  simp only [ne_eq, not_true_eq_false, ↓reduceIte] at h
  split at h
  · cases h
  · obtain ⟨found, -, installed⟩ := bind_eq_ok.mp h
    cases found with
    | none => cases installed
    | some manifest =>
      rw [Option.elim_some, Toolchain.Search.installed] at installed
      cases there : fs.isFile (Toolchain.binaryPath home) with
      | error e => simp [there, Except.map] at installed
      | ok found =>
        cases found <;> simp [there, Except.map] at installed
        exact installed ▸ rfl

theorem Deed.Discovered.named {home : FilePath} {deeds : List Deed} {executable directory : String}
    (h : Discovered home deeds executable directory) : executable ≠ "" := by
  induction h with
  | now unnamed found =>
    have binary := executable_of_resolve found
    dsimp only at binary
    rw [binary]
    exact FilePath.text_ne_empty _
  | before found ih => exact ih
  | kept found ih => exact ih

/-- There is a session if the deeds say so, and it is what they say. -/
structure Accounted (home : FilePath) (deeds : List Deed) (w : Work) : Prop where
  sameHome : w.files.home = home
  idle : w.server.session = none → ¬InSession deeds
  account : ∀ s, w.server.session = some s →
    s.home = home ∧ InSession deeds ∧ s.roots = lastFolders deeds ∧ Stands home deeds s.config

theorem lastLoaded_of_idle {deeds : List Deed} (h : ¬InSession deeds) :
    lastLoaded deeds = .default := by
  induction deeds with
  | nil => rfl
  | cons deed earlier ih =>
    cases deed with
    | left => rfl
    | read roots outcome => exact absurd trivial h
    | searched files => exact ih h

variable {around : Surroundings} {home : FilePath} {earlier : List Deed} {w w' : Work}

namespace Accounted

/-- The account depends on the session and the home directory alone. -/
theorem of_same (h : Accounted home earlier w) (session : w'.server.session = w.server.session)
    (files : w'.files.home = w.files.home) : Accounted home earlier w' where
  sameHome := files.trans h.sameHome
  idle hs := h.idle (session.symm.trans hs)
  account s hs := h.account s (session.symm.trans hs)

/-- A search that may have come to nothing changes nothing. -/
theorem searched (h : Accounted home earlier w) (files : FileSystem) :
    Accounted home (.searched files :: earlier) w where
  sameHome := h.sameHome
  idle hs := h.idle hs
  account s hs := by
    obtain ⟨sameHome, begun, roots, config | ⟨executable, directory, found, config⟩⟩ :=
      h.account s hs
    · exact ⟨sameHome, begun, roots, .inl config⟩
    · exact ⟨sameHome, begun, roots, .inr ⟨executable, directory, .before found, config⟩⟩

end Accounted

/-- A session that has read its configuration once more, with the one before to fall back on. -/
theorem Deed.Stands.read {before config : LintConfig} {outcome : Except Failure Settings}
    (h : Stands home earlier before) (settles : settledOn before outcome = .ok config)
    (roots : List FilePath) : Stands home (.read roots outcome :: earlier) config := by
  obtain ⟨s, rfl, rfl⟩ | ⟨⟨f, rfl, -⟩, rfl⟩ := settledOn_eq_ok_iff.mp settles
  · exact .inl rfl
  · obtain config | ⟨executable, directory, found, config⟩ := h
    · exact .inl config
    · exact .inr ⟨executable, directory, .kept found, config⟩

/-- Asking for a session reads nothing anew that a later reading would not read. -/
theorem Ensured.same {r : Except Failure Session} (h : Ensured around w (r, w')) :
    w'.files = w.files ∧ w'.ends = w.ends ∧ w'.server.roots = w.server.roots ∧
      w'.server.documents = w.server.documents ∧ ∀ roots, w'.loaded around roots =
        w.loaded around roots := by
  cases h with
  | known there => exact ⟨rfl, rfl, rfl, rfl, fun _ => rfl⟩
  | noFolders fresh unread => exact ⟨rfl, rfl, rfl, rfl, fun _ => rfl⟩
  | refused fresh folders fails quiet => exact ⟨rfl, rfl, rfl, rfl, fun _ => rfl⟩
  | begun fresh folders settles quiet => exact ⟨rfl, rfl, rfl, rfl, fun _ => rfl⟩

theorem Ensured.session {s : Session} (h : Ensured around w (.ok s, w')) :
    w'.server.session = some s := by
  cases h with
  | known there => exact there
  | begun fresh folders settles quiet => rfl

/-- In an orderly reading the configuration settles. -/
theorem Orderly.settles (orderly : Orderly (reading around w)) {roots : List FilePath}
    (folders : w.server.roots = .ok roots) {before : LintConfig} {f : Failure} :
    settledOn before (w.loaded around roots) ≠ .error f := by
  intro fails
  obtain ⟨loaded, other⟩ := settledOn_eq_error_iff.mp fails
  have caught := orderly roots f (by simp [reading, folders, loaded])
  simp [other] at caught

theorem Orderly.left {deeds deeds' : List Deed} (h : Orderly (deeds ++ deeds')) : Orderly deeds :=
  fun roots f hm => h roots f (List.mem_append_left _ hm)

theorem Orderly.right {deeds deeds' : List Deed} (h : Orderly (deeds ++ deeds')) : Orderly deeds' :=
  fun roots f hm => h roots f (List.mem_append_right _ hm)

/-- A session that is asked for is accounted for by the reading that starts it. -/
theorem Accounted.ensured (h : Accounted home earlier w) (orderly : Orderly (starting around w))
    {r : Except Failure Session} (asked : Ensured around w (r, w')) :
    Accounted home (starting around w ++ earlier) w' := by
  cases asked with
  | known there => simpa [starting, there] using h
  | noFolders fresh unread => simpa [starting, reading, fresh, unread] using h
  | refused fresh folders fails quiet =>
    have orderly : Orderly (reading around w) := by simpa [starting, fresh] using orderly
    exact absurd fails (orderly.settles folders)
  | @begun roots config es fresh folders settles quiet =>
    have deeds : starting around w ++ earlier = .read roots (w.loaded around roots) :: earlier := by
      simp [starting, reading, fresh, folders]
    have before : Stands home earlier .default := .inl (lastLoaded_of_idle (h.idle fresh)).symm
    rw [deeds]
    refine ⟨h.sameHome, fun idle => (by cases idle), ?_⟩
    rintro s ⟨⟩
    exact ⟨h.sameHome, trivial, rfl, before.read settles roots⟩

/-- A reading for the session that is there is accounted for by itself. -/
theorem Accounted.reloaded (h : Accounted home earlier w)
    (orderly : Orderly (reading around w ++ starting around w)) {r : Except Failure Unit}
    (again : Reloaded around w (r, w')) :
    Accounted home (reading around w ++ starting around w ++ earlier) w' := by
  rw [List.append_assoc]
  cases again with
  | noSession unstarted =>
    have idle := h.ensured orderly.right unstarted
    cases unstarted with
    | noFolders fresh unread => simpa [reading, unread] using idle
    | refused fresh folders fails quiet => exact absurd fails (orderly.left.settles folders)
  | noFolders there unread =>
    obtain ⟨-, -, roots, -⟩ := there.same
    rw [roots] at unread
    simpa [reading, unread] using h.ensured orderly.right there
  | refused there folders fails quiet =>
    obtain ⟨-, -, roots, -, same⟩ := there.same
    rw [roots] at folders
    rw [same] at fails
    exact absurd fails (orderly.left.settles folders)
  | @done s w₁ roots config es there folders settles quiet =>
    obtain ⟨-, -, sameRoots, -, same⟩ := there.same
    rw [sameRoots] at folders
    rw [same] at settles
    have started := h.ensured orderly.right there
    obtain ⟨sameHome, begun, -, stands⟩ := started.account s there.session
    have deeds : reading around w ++ (starting around w ++ earlier) =
        .read roots (w.loaded around roots) :: (starting around w ++ earlier) := by
      simp [reading, folders]
    rw [deeds]
    refine ⟨started.sameHome, fun idle => (by cases idle), ?_⟩
    rintro s' ⟨⟩
    exact ⟨sameHome, trivial, rfl, stands.read settles roots⟩

/-- Finding the linter changes the configuration only by a discovery. -/
theorem Deed.Stands.provided {s : Session} {files : FileSystem}
    {turn : Turn (Except SystemError (Option Toolchain))}
    (h : Stands home (.searched files :: earlier) s.config) (sameHome : s.home = home)
    (roots : s.roots = lastFolders earlier) (provided : s.Provided files turn) :
    Stands home (.searched files :: earlier) turn.session.config := by
  cases provided with
  | known there => exact h
  | nothing unknown quiet sought missing => exact h
  | refused unknown quiet look => exact h
  | named unknown quiet named => exact h
  | bundled unknown quiet unnamed sought there => exact h
  | @discovered es executable directory unknown quiet unnamed filled sought =>
    obtain config | ⟨executable', directory', found, config⟩ := h
    · refine .inr ⟨executable, directory, .now ?_ ?_, ?_⟩
      · rw [config] at unnamed
        exact unnamed
      · rw [unnamed, sameHome, roots] at sought
        exact sought
      · simp [Session.discovering, config]
    · refine absurd ?_ found.named
      rw [config] at unnamed
      exact unnamed

/-- Work in the middle of linting. The files are as they were at the beginning as long as no linter
is known. -/
structure Looking (home : FilePath) (files : FileSystem) (earlier : List Deed) (w : Work) : Prop
    extends Accounted home (.searched files :: earlier) w where
  there : w.server.session.isSome
  untouched : ∀ s, w.server.session = some s → s.toolchain = none → w.files = files

variable {files : FileSystem}

/-- Finding the linter leaves a session that is accounted for. -/
theorem Looking.provided (h : Looking home files earlier w) {s : Session}
    (there : w.server.session = some s) :
    let turn := s.ensureToolchain w.files
    turn.session.home = home ∧ turn.session.roots = lastFolders earlier ∧
      Stands home (.searched files :: earlier) turn.session.config ∧
      turn.files.home = home ∧ (turn.session.toolchain = none → turn.files = files) := by
  intro turn
  have provided := s.provided w.files
  obtain ⟨sameHome, -, roots, stands⟩ := h.account s there
  obtain ⟨keptRoots, keptHome, -⟩ := provided.kept
  refine ⟨keptHome.trans sameHome, keptRoots.trans roots, ?_,
    provided.files.1.home.trans h.sameHome, ?_⟩
  · cases unknown : s.toolchain with
    | some t =>
      have same : turn = ⟨s, w.files, [], .ok (some t)⟩ := by
        simp [turn, Session.ensureToolchain, unknown]
      rw [same]
      exact stands
    | none =>
      rw [h.untouched s there unknown] at provided
      have same : turn = s.ensureToolchain files := by rw [← h.untouched s there unknown]
      rw [same]
      exact stands.provided sameHome roots provided
  · intro unknown
    refine (provided.files.2 (.inr unknown)).trans (h.untouched s there ?_)
    by_contra known
    obtain ⟨t, known⟩ := Option.ne_none_iff_exists'.mp known
    simp [turn, Session.ensureToolchain, known] at unknown

/-- One more document that is linted. -/
theorem Looking.settled (h : Looking home files earlier w) {s : Session}
    (there : w.server.session = some s) (uri source : String) (language : Option String)
    (ends : List ProcessEnd) :
    Looking home files earlier
      (w.settled (s.lintDocument w.files true none uri source language ends)) := by
  obtain ⟨sameHome, begun, roots, stands⟩ := h.account s there
  obtain ⟨readyHome, readyRoots, readyStands, filesHome, untouched⟩ := h.provided there
  obtain ⟨registry, generations, ⟨session, kept⟩ | ⟨session, kept⟩⟩ :=
    s.lintDocument_session w.files true uri source language ends
  · refine ⟨⟨?_, fun idle => (by cases idle), ?_⟩, rfl, ?_⟩
    · exact (congrArg FileSystem.home kept).trans h.sameHome
    · rintro s' ⟨⟩
      rw [session]
      exact ⟨sameHome, begun, roots, stands⟩
    · rintro s' ⟨⟩ unknown
      rw [session] at unknown
      exact kept.trans (h.untouched s there unknown)
  · refine ⟨⟨?_, fun idle => (by cases idle), ?_⟩, rfl, ?_⟩
    · exact (congrArg FileSystem.home kept).trans filesHome
    · rintro s' ⟨⟩
      rw [session]
      exact ⟨readyHome, begun, readyRoots, readyStands⟩
    · rintro s' ⟨⟩ unknown
      rw [session] at unknown
      exact kept.trans (untouched unknown)

theorem Looking.linted (h : Looking home files earlier w) {uri : String} {r : Except Failure Unit}
    (linted : Linted around w uri (r, w')) : Looking home files earlier w' := by
  obtain ⟨s, there⟩ := Option.isSome_iff_exists.mp h.there
  cases linted with
  | noSession unstarted => cases (unstarted.eq_known there).1
  | unread asked missing =>
    rw [(asked.eq_known there).2]
    exact h
  | cycle asked found played =>
    obtain ⟨hs, rfl⟩ := asked.eq_known there
    cases hs
    rw [← played]
    exact h.settled there _ _ _ _

/-- A session that is there is looking for its linter on the files that are there. -/
theorem Accounted.looking (h : Accounted home earlier w) (there : w.server.session.isSome) :
    Looking home w.files earlier w :=
  ⟨h.searched w.files, there, fun _ _ _ => rfl⟩

/-- A document that is linted for itself. -/
theorem Accounted.linted (h : Accounted home earlier w) (orderly : Orderly (starting around w))
    {uri : String} {r : Except Failure Unit} (lints : Linted around w uri (r, w')) :
    Accounted home (.searched w.files :: (starting around w ++ earlier)) w' := by
  cases lints with
  | noSession unstarted => exact (h.ensured orderly unstarted).searched w.files
  | unread asked missing => exact (h.ensured orderly asked).searched w.files
  | @cycle s w₁ d asked found turn played =>
    have looking := (h.ensured orderly asked).looking (by rw [asked.session]; rfl)
    rw [asked.same.1] at looking
    rw [← played]
    exact (looking.settled asked.session _ _ _ _).toAccounted

/-- All open documents that are linted, for a session that is there. -/
theorem Accounted.lintOpen (h : Accounted home earlier w) (around : Surroundings)
    (there : w.server.session.isSome) :
    Accounted home (.searched w.files :: earlier) ((lintOpen around).run w).2 := by
  rw [lintOpen_run]
  exact (forM_lint (fun _ _ _ _ looking lints => looking.linted lints) _
    (h.looking there)).toAccounted

theorem Accounted.closed {uri : String} (h : Accounted home earlier (w.told (forgetting uri)))
    (orderly : Orderly (starting around (w.told (forgetting uri))))
    {r : Except Failure Unit} (closes : Closed around w uri (r, w')) :
    Accounted home (starting around (w.told (forgetting uri)) ++ earlier) w' := by
  cases closes with
  | noSession unstarted => exact h.ensured orderly unstarted
  | @done s w₁ there =>
    have started := h.ensured orderly there
    refine ⟨started.sameHome, fun idle => (by cases idle), ?_⟩
    rintro s' ⟨⟩
    exact started.account s there.session

/-- A server that gives its session up. -/
theorem Accounted.left (h : Accounted home earlier w) (gone : w'.server.session = none)
    (same : w'.files.home = w.files.home) : Accounted home (.left :: earlier) w' := by
  refine ⟨same.trans h.sameHome, fun _ => id, fun s there => ?_⟩
  rw [gone] at there
  cases there

/-- A part of the handling that gets a session ready, and then all open documents. -/
theorem Accounted.thenLint {α : Type} {x : Handling α} {deeds : List Deed}
    (h : Accounted home deeds (x.run w).2)
    (ready : ∀ a w', x.run w = (.ok a, w') →
      w'.files = w.files ∧ w'.server.session.isSome = true) :
    Accounted home (.searched w.files :: deeds)
      ((x >>= fun _ => Server.lintOpen around).run w).2 := by
  refine run_bind_cases (P := fun result => Accounted home (.searched w.files :: deeds) result.2)
    ?_ ?_
  · rintro f w₁ run
    rw [run] at h
    exact h.searched w.files
  · rintro a w₁ run
    rw [run] at h
    obtain ⟨same, there⟩ := ready a w₁ run
    rw [← same]
    exact h.lintOpen around there

/-- The configuration is read again, and then all open documents are linted. -/
theorem Accounted.relinted (h : Accounted home earlier w)
    (orderly : Orderly (reading around w ++ starting around w)) :
    Accounted home (.searched w.files :: (reading around w ++ starting around w ++ earlier))
      ((reload around >>= fun _ => Server.lintOpen around).run w).2 := by
  have again := Server.reloaded around w
  have settled : Accounted home (reading around w ++ starting around w ++ earlier)
      ((reload around).run w).2 := h.reloaded orderly again
  refine settled.thenLint fun _ w₁ run => ?_
  rw [run] at again
  cases again with
  | done there folders settles quiet => exact ⟨there.same.1, rfl⟩

/-- A session is asked for, and then all open documents are linted. -/
theorem Accounted.begun (h : Accounted home earlier w) (orderly : Orderly (starting around w)) :
    Accounted home (.searched w.files :: (starting around w ++ earlier))
      ((ensureSession around >>= fun _ => Server.lintOpen around).run w).2 := by
  have asked := Server.ensured around w
  have started : Accounted home (starting around w ++ earlier) ((ensureSession around).run w).2 :=
    h.ensured orderly asked
  refine started.thenLint fun s w₁ run => ?_
  rw [run] at asked
  exact ⟨asked.same.1, by rw [asked.session]; rfl⟩

theorem handle_configured (around : Surroundings) (settings : Value) (w : Work) :
    (handle around (.configured settings)).run w =
      (reload around >>= fun _ => Server.lintOpen around).run
        (w.told (Occurrence.told (.configured settings)).inform) := by
  cases settings <;> rfl

/-- What an occasion does to a server is accounted for by the deeds that it adds. -/
theorem Accounted.step (h : Accounted home earlier w) (o : Occasion)
    (orderly : Orderly (deeds around w o)) :
    Accounted home (deeds around w o ++ earlier) (w.step around o) := by
  have informed : Accounted home earlier ((w.meeting o).told o.occurrence.inform) :=
    h.of_same (o.occurrence.session_inform w.server) rfl
  obtain ⟨occurrence, entries, ends⟩ := o
  cases occurrence with
  | asked uri range only =>
    have work : w.step around ⟨.asked uri range only, entries, ends⟩ = _ :=
      codeActions_work around uri range only (w.meeting ⟨.asked uri range only, entries, ends⟩)
    have added : deeds around w ⟨.asked uri range only, entries, ends⟩ =
        if only.isEmpty || only.contains quickFixKind then
          starting around (w.meeting ⟨.asked uri range only, entries, ends⟩) else [] := rfl
    rw [work]
    rw [added] at orderly ⊢
    cases h : only.isEmpty || only.contains quickFixKind with
    | false => exact informed
    | true =>
      rw [h, if_pos rfl] at orderly
      exact informed.ensured orderly (Server.ensured around _)
  | told e =>
    cases e with
    | started options => exact h.left rfl rfl
    | stopped => exact h.left rfl rfl
    | ready => exact informed.begun orderly.right.right
    | opened uri document =>
      exact informed.linted orderly.right.right (Server.linted around _ uri)
    | saved uri => exact informed.linted orderly.right.right (Server.linted around _ uri)
    | lintRequested uri => exact informed.linted orderly.right.right (Server.linted around _ uri)
    | closed uri => exact informed.closed orderly.right.right (Server.closed around _ uri)
    | configured settings =>
      change Accounted home _ ((handle around (.configured settings)).run _).2
      rw [handle_configured]
      exact informed.relinted orderly.right
    | foldersReplaced folders =>
      exact informed.reloaded orderly.right (Server.reloaded around _)

/-- What a run does to a server is accounted for by all deeds of the run. -/
theorem Accounted.run (h : Accounted home earlier w) (os : List Occasion)
    (orderly : Orderly (history around w os)) :
    Accounted home (history around w os ++ earlier) (w.run around os) := by
  induction os generalizing w earlier with
  | nil => exact h
  | cons o os ih =>
    have first := h.step o orderly.right
    have rest := ih first orderly.left
    rw [← List.append_assoc] at rest
    exact rest

/-- Whatever an editor does, in whatever order, as long as every load that fails does so with a
fault of the configuration: there is a session exactly if one was begun and not left; its
configuration is the one of the last load that worked since it was begun, or the default, with at
most the linter and directory of a discovery since that load in place of its own; and its folders
are those of the last reading, worked or not. A load that fails changes no field of the
configuration. -/
theorem configuration_in_force (around : Surroundings) {w : Work} (fresh : w.server.session = none)
    (os : List Occasion) (orderly : Orderly (history around w os)) :
    ((w.run around os).server.session.isSome = true ↔ InSession (history around w os)) ∧
    (∀ s, (w.run around os).server.session = some s →
      s.roots = lastFolders (history around w os) ∧
      Stands w.files.home (history around w os) s.config) ∧
    ∀ (w' : Work) (s : Session) (roots : List FilePath) (f : Failure),
      w'.server.session = some s → w'.server.roots = .ok roots →
      w'.loaded around roots = .error f → (configFault? f).isSome = true →
      ∃ es, (reload around).run w' =
        (.ok (), (w'.having { s with roots, toolchain := none }).did es) := by
  have begin : Accounted w.files.home [] w :=
    ⟨rfl, fun _ => id, fun s hs => by rw [fresh] at hs; cases hs⟩
  have account := begin.run os orderly
  rw [List.append_nil] at account
  refine ⟨⟨fun there => ?_, fun begun => ?_⟩, fun s there => ?_, ?_⟩
  · obtain ⟨s, there⟩ := Option.isSome_iff_exists.mp there
    exact (account.account s there).2.1
  · by_contra idle
    exact account.idle (by simpa using idle) begun
  · obtain ⟨-, -, roots, stands⟩ := account.account s there
    exact ⟨roots, stands⟩
  · intro w' s roots f there folders loaded caught
    have again := Server.reloaded around w'
    generalize (reload around).run w' = result at again
    cases again with
    | noSession unstarted => cases (unstarted.eq_known there).1
    | noFolders asked unread =>
      obtain ⟨-, rfl⟩ := asked.eq_known there
      rw [folders] at unread
      cases unread
    | refused asked folders' fails quiet =>
      obtain ⟨hs, rfl⟩ := asked.eq_known there
      obtain rfl := Except.ok.inj (folders.symm.trans folders')
      obtain ⟨failed, other⟩ := settledOn_eq_error_iff.mp fails
      rw [loaded] at failed
      cases failed
      simp [other] at caught
    | @done _ _ _ config es asked folders' settles quiet =>
      obtain ⟨hs, rfl⟩ := asked.eq_known there
      cases hs
      obtain rfl := Except.ok.inj (folders.symm.trans folders')
      rw [loaded, settledOn, if_pos caught] at settles
      cases settles
      exact ⟨es, rfl⟩

/-- Did every load that failed do so with a fault of the configuration? -/
def isOrderly (deeds : List Deed) : Bool :=
  deeds.all fun
    | .read _ (.error f) => (configFault? f).isSome
    | _ => true

theorem orderly_of_isOrderly {deeds : List Deed} (h : isOrderly deeds = true) : Orderly deeds :=
  fun _ _ hm => List.all_eq_true.mp h _ hm

/-- Files where a linter is discovered. -/
def homeFiles : FileSystem := { Activity.equippedFiles with home := ⟨1, [['h']]⟩ }

/-- A document is opened, which discovers a linter, and then the settings become invalid. -/
def invalidSettings : List Occasion :=
  [⟨.told (.opened "file:///w/a.luau" ⟨"x", some "luau"⟩), homeFiles.entries, []⟩,
    ⟨.told (.configured (.map [(.text "lint", .map [(.text "timeout_sec", .int (-1))])])),
      homeFiles.entries, []⟩]

/-- The discovery is kept although the load after it fails. -/
theorem discovery_kept_by_failed_load :
    let w := plainWork ["file:///w"] homeFiles
    let deeds := history plainSurroundings w invalidSettings
    Orderly deeds ∧ ∃ s, (w.run plainSurroundings invalidSettings).server.session = some s ∧
      s.config.executablePath = "/h/.foreman/bin/lute" ∧ s.config.manifestDirectory = some "/w" ∧
      s.roots = lastFolders deeds ∧ Stands homeFiles.home deeds s.config := by
  intro w deeds
  have orderly : Orderly deeds := orderly_of_isOrderly (by decide +kernel)
  have ended : (w.run plainSurroundings invalidSettings).server.session.map (fun s =>
      (s.config.executablePath, s.config.manifestDirectory)) =
        some ("/h/.foreman/bin/lute", some "/w") := by decide +kernel
  obtain ⟨s, there, same⟩ := Option.map_eq_some_iff.mp ended
  obtain ⟨executable, directory⟩ := Prod.mk.inj same
  obtain ⟨-, account, -⟩ := configuration_in_force plainSurroundings rfl invalidSettings orderly
  obtain ⟨roots, stands⟩ := account s there
  exact ⟨orderly, s, there, executable, directory, roots, stands⟩

end LintBridge.Server
