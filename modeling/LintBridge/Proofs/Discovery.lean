import LintBridge.Proofs.Resolution
import LintBridge.Proofs.Employment
/-!
Where the linter comes from when the configuration changes while searches are under way.
What a search has come to is written to the session when it ends, whatever has happened
meanwhile. So the configuration governs the session until the next change exactly if no search
from before puts another linter in its place and no shutdown forgets a discovery
(`Activity.reconfiguration_governs`); neither is ruled out (`Activity.reconfiguration_exceptions`).
-/
namespace LintBridge

open Effect (commands)

namespace Session

/-- What a session takes over from a search under another one is a linter that this one stands
for, unless it is the bundled linter and the two have different ones. -/
theorem Adopts.resolved_iff {s now next : Session} {files : List FileSystem} {fs : FileSystem}
    {found : Option Toolchain} {t : Toolchain} (adopts : Adopts now fs found t next)
    (seen : fs ∈ files) (reached : s.Reaches files (.settled found)) :
    s.Resolved files t ↔ (t.origin = .bundled → t.executable = s.bundledPath) := by
  obtain rfl | ⟨rfl, -, -⟩ := adopts.found_or_bundled
  · have origin : t.origin ≠ .bundled := by
      obtain ⟨-, rfl⟩ | ⟨-, foreman⟩ := reached.linter
      · simp
      · simp [foreman]
    exact iff_of_true (.found reached) fun bundled => absurd bundled origin
  · cases adopts with
    | bundled there =>
      constructor
      · exact Resolved.executable_of_bundled
      · intro same
        have path : now.bundledPath = s.bundledPath := same rfl
        rw [path] at there ⊢
        exact .bundled reached seen there

end Session

namespace Activity

variable {a b : Activity} {w : List Move} {m : Move}

/-- Does a move end the search of a cycle with a discovery? -/
structure Discovers (a : Activity) (m : Move) (ticket : Nat) (linter : Toolchain) : Prop where
  employs : a.Employs m ticket linter
  searching : ∃ search, a.Searching ticket search
  origin : linter.origin = .foreman

/-- Has the search of a cycle ended with a discovery during a run? -/
def HasDiscovered (b : Activity) (w : List Move) (ticket : Nat) (linter : Toolchain) : Prop :=
  ∃ v m, v ++ [m] <+: w ∧ (b.run v).Discovers m ticket linter

theorem hasDiscovered_concat {t : Nat} {linter : Toolchain} :
    b.HasDiscovered (w ++ [m]) t linter ↔
      b.HasDiscovered w t linter ∨ (b.run w).Discovers m t linter :=
  exists_prefix_concat

theorem HasDiscovered.employed {t : Nat} {linter : Toolchain}
    (h : b.HasDiscovered w t linter) : b.Employed w t linter := by
  obtain ⟨v, m, before, discovers⟩ := h
  exact employed_iff.mpr ⟨v, m, before, discovers.employs⟩

/-- The configuration after a run is the one before it, or has the executable and the directory
of a discovery in it that was made by a search begun during the run. -/
def Keeps (b : Activity) (w : List Move) : Prop :=
  (b.run w).session.config = b.session.config ∨
    ∃ t executable directory, b.begun ≤ t ∧
      b.HasDiscovered w t ⟨executable, some directory, .foreman⟩ ∧
      (b.run w).session.config = { b.session.config with
        executablePath := executable, manifestDirectory := some directory }

/-- After a run, a session still follows its configuration at the beginning of the run: the
configuration is the same but for a discovery of its own, and the cycles begun since, the next
one included, employ linters that it and the folders stand for. -/
structure Follows (b : Activity) (w : List Move) : Prop where
  config : b.Keeps w
  linters : ∀ t linter, b.begun ≤ t → b.Employed w t linter →
    b.session.Resolved (w.map Move.files) linter
  next : ∀ m linter, (b.run w).Employs m (b.run w).begun linter →
    b.session.Resolved ((w ++ [m]).map Move.files) linter

/-- No search from before a run ends in it with a linter. -/
def Undisturbed (b : Activity) (ms : List Move) : Prop :=
  ∀ t linter, b.Employed ms t linter → b.begun ≤ t

/-- A search from before a run that ends in it with a linter ends with one that the configuration
and the folders stand for; if that is a discovery, one begun since has made it already. -/
def Harmless (b : Activity) (ms : List Move) : Prop :=
  ∀ w m t linter, w ++ [m] <+: ms → t < b.begun → (b.run w).Employs m t linter →
    b.session.Resolved ((w ++ [m]).map Move.files) linter ∧
      (linter.origin = .foreman → ∃ t', b.begun ≤ t' ∧ b.HasDiscovered w t' linter)

/-- The session is not shut down after a discovery. -/
def Retains (b : Activity) (ms : List Move) : Prop :=
  ∀ w m t linter, w ++ [m] <+: ms → m.act = .shutdown → ¬ b.HasDiscovered w t linter

/-- What carries all this from one move to the next: the linter of the session is one that its
configuration at the beginning stands for, without a linter the configuration is as it was, and
the searches begun since are searches under it. -/
structure Governed (b : Activity) (w : List Move) : Prop where
  roots : (b.run w).session.roots = b.session.roots
  home : (b.run w).session.home = b.session.home
  packaged : (b.run w).session.packaged = b.session.packaged
  config : b.Keeps w
  known : ∀ linter, (b.run w).session.toolchain = some linter →
    b.session.Resolved (w.map Move.files) linter
  unknown : (b.run w).session.toolchain = none → (b.run w).session.config = b.session.config
  searches : ∀ t search, b.begun ≤ t → (b.run w).Searching t search →
    b.session.Reaches (w.map Move.files) search
  linters : ∀ t linter, b.begun ≤ t → b.Employed w t linter →
    b.session.Resolved (w.map Move.files) linter
  unnamed : ∀ t linter, b.HasDiscovered w t linter → b.session.config.executablePath = ""

theorem files_concat (w : List Move) (m : Move) :
    w.map Move.files ⊆ (w ++ [m]).map Move.files := by
  simp

theorem Keeps.concat (h : b.Keeps w)
    (same : ((b.run w).step m).1.session.config = (b.run w).session.config) :
    b.Keeps (w ++ [m]) := by
  unfold Keeps
  rw [run_concat, same]
  refine h.imp_right ?_
  rintro ⟨t, executable, directory, late, discovered, config⟩
  exact ⟨t, executable, directory, late, hasDiscovered_concat.mpr (.inl discovered), config⟩

theorem Keeps.bundledExecutable (h : b.Keeps w) :
    (b.run w).session.config.bundledExecutable = b.session.config.bundledExecutable := by
  obtain config | ⟨t, executable, directory, -, -, config⟩ := h <;> rw [config]

/-- A discovery in place of another one. -/
theorem Keeps.discover (h : b.Keeps w) (executable directory : String) :
    { (b.run w).session.config with
        executablePath := executable, manifestDirectory := some directory } =
      { b.session.config with
        executablePath := executable, manifestDirectory := some directory } := by
  obtain config | ⟨t, executable', directory', -, -, config⟩ := h <;> rw [config]

namespace Governed

theorem bundledPath (h : b.Governed w) :
    (b.run w).session.bundledPath = b.session.bundledPath := by
  simp [Session.bundledPath, h.config.bundledExecutable, h.packaged]

/-- The linter after a move tells the ones that it employs. -/
theorem concat (h : b.Governed w)
    (roots : ((b.run w).step m).1.session.roots = (b.run w).session.roots)
    (home : ((b.run w).step m).1.session.home = (b.run w).session.home)
    (packaged : ((b.run w).step m).1.session.packaged = (b.run w).session.packaged)
    (config : b.Keeps (w ++ [m]))
    (known : ∀ linter, ((b.run w).step m).1.session.toolchain = some linter →
      b.session.Resolved ((w ++ [m]).map Move.files) linter)
    (unknown : ((b.run w).step m).1.session.toolchain = none →
      ((b.run w).step m).1.session.config = b.session.config)
    (searches : ∀ t search, b.begun ≤ t → ((b.run w).step m).1.Searching t search →
      b.session.Reaches ((w ++ [m]).map Move.files) search) : b.Governed (w ++ [m]) where
  roots := by rw [run_concat, roots, h.roots]
  home := by rw [run_concat, home, h.home]
  packaged := by rw [run_concat, packaged, h.packaged]
  config := config
  known := by rwa [run_concat]
  unknown := by rwa [run_concat]
  searches := by rwa [run_concat]
  linters := by
    intro t linter late employed
    obtain before | employs := employed_concat.mp employed
    · exact (h.linters t linter late before).mono (files_concat w m)
    · exact known linter employs.known
  unnamed := by
    intro t linter discovered
    obtain before | discovers := hasDiscovered_concat.mp discovered
    · exact h.unnamed t linter before
    · by_contra named
      have explicit := (known linter discovers.employs.known).eq_named named
      have origin := discovers.origin
      rw [explicit] at origin
      cases origin

/-- What a step of a search makes of the session. -/
theorem of_turned (h : b.Governed w) {ticket : Nat} {now : Session} {c : Activity}
    {uri source : String} {generation : Nat} {search : Toolchain.Search} {turn : Turn Standing}
    (same : ∃ generations, now = { (b.run w).session with generations })
    (step : (b.run w).step m = (c.settle ticket turn, turn.effects))
    (cycles : c.cycles = (b.run w).cycles)
    (turned : Session.Turned now m.files uri source generation search turn)
    (sound : ∀ found linter, search = .settled found →
      Session.Adopts now m.files found linter turn.session →
        b.session.Resolved ((w ++ [m]).map Move.files) linter ∧
          (linter.origin = .foreman → ∃ t, b.begun ≤ t ∧ b.HasDiscovered (w ++ [m]) t linter))
    (reached : b.begun ≤ ticket → b.session.Reaches ((w ++ [m]).map Move.files) search) :
    b.Governed (w ++ [m]) := by
  obtain ⟨generations, rfl⟩ := same
  have session : ((b.run w).step m).1.session = turn.session := by rw [step]; rfl
  have searches : ∀ t search, b.begun ≤ t → ((b.run w).step m).1.Searching t search →
      b.session.Reaches ((w ++ [m]).map Move.files) search := by
    rw [step]
    intro t search' late searching
    obtain ⟨rfl, rfl, -⟩ | ⟨-, cycle, there, stage⟩ := searching_of_turned turned searching
    · exact reached late
    · rw [cycles] at there
      exact (h.searches t search' late ⟨cycle, there, stage⟩).mono (files_concat w m)
  have kept (idle : turn.session = { (b.run w).session with generations }) :
      b.Governed (w ++ [m]) := by
    refine h.concat ?_ ?_ ?_ (h.config.concat ?_) ?_ ?_ searches <;> rw [session, idle]
    · exact fun linter there => (h.known linter there).mono (files_concat w m)
    · exact h.unknown
  generalize hs : turn.session = next at *
  cases turned with
  | searching quiet isOpen => exact kept hs.symm
  | nothing quiet missing => exact kept hs.symm
  | refused quiet look => exact kept hs.symm
  | @found found linter s' fs' es quiet adopts =>
    obtain rfl : s' = next := hs
    obtain ⟨resolved, discovered⟩ := sound found linter rfl adopts
    have toolchain := adopts.taken.toolchain
    have known : ∀ linter', s'.toolchain = some linter' →
        b.session.Resolved ((w ++ [m]).map Move.files) linter' := by
      intro linter' there
      rw [toolchain] at there
      cases there
      exact resolved
    have unknown : s'.toolchain = none → s'.config = b.session.config := by
      intro none
      rw [toolchain] at none
      cases none
    rw [← session] at known unknown
    cases adopts with
    | explicit named =>
      exact h.concat (by rw [session]) (by rw [session]) (by rw [session])
        (h.config.concat (by rw [session])) known unknown searches
    | bundled there =>
      exact h.concat (by rw [session]) (by rw [session]) (by rw [session])
        (h.config.concat (by rw [session])) known unknown searches
    | discovered executable directory named =>
      obtain ⟨t, late, made⟩ := discovered rfl
      refine h.concat (by rw [session]) (by rw [session]) (by rw [session]) ?_ known unknown
        searches
      refine .inr ⟨t, executable, directory, late, made, ?_⟩
      rw [run_concat, session, ← h.config.discover]

/-- A move that is no step of a search keeps it, unless it is a shutdown after a discovery. -/
theorem of_aside (h : b.Governed w)
    (same : ∃ registry generations toolchain, ((b.run w).step m).1.session =
      { (b.run w).session with registry, generations, toolchain })
    (linter : ((b.run w).step m).1.session.toolchain = (b.run w).session.toolchain ∨
      m.act = .shutdown ∧ ((b.run w).step m).1.session.toolchain = none)
    (searches : ∀ t search, ((b.run w).step m).1.Searching t search → (b.run w).Searching t search)
    (retains : m.act = .shutdown → ∀ t linter, ¬ b.HasDiscovered w t linter) :
    b.Governed (w ++ [m]) := by
  obtain ⟨registry, generations, toolchain, session⟩ := same
  have config : ((b.run w).step m).1.session.config = (b.run w).session.config := by
    rw [session]
  refine h.concat (by rw [session]) (by rw [session]) (by rw [session])
    (h.config.concat config) ?_ ?_ ?_
  · intro linter' there
    obtain kept | ⟨-, none⟩ := linter
    · exact (h.known linter' (kept.symm.trans there)).mono (files_concat w m)
    · rw [none] at there
      cases there
  · intro none
    rw [config]
    obtain kept | ⟨forgotten, -⟩ := linter
    · exact h.unknown (kept.symm.trans none)
    · obtain config | ⟨t, executable, directory, -, discovered, -⟩ := h.config
      · exact config
      · exact absurd discovered (retains forgotten t _)
  · intro t search late searching
    exact (h.searches t search late (searches t search searching)).mono (files_concat w m)

/-- What is taken over from a search under the configuration is a linter that this stands for. -/
theorem resolved_of_adopts (h : b.Governed w) {now next : Session} {files : List FileSystem}
    {fs : FileSystem} {found : Option Toolchain} {t : Toolchain}
    (adopts : Session.Adopts now fs found t next)
    (same : now.bundledPath = (b.run w).session.bundledPath) (seen : fs ∈ files)
    (reached : b.session.Reaches files (.settled found)) : b.session.Resolved files t :=
  (adopts.resolved_iff seen reached).mpr fun bundled =>
    (adopts.executable_of_bundled bundled).trans (same.trans h.bundledPath)

/-- A move keeps it, if it is no change of the configuration, no search from before ends harmfully
with it, and no shutdown forgets a discovery. -/
theorem step (tidy : (b.run w).Tidy) (h : b.Governed w)
    (same : ∀ config roots, m.act ≠ .reconfigure config roots)
    (harmless : ∀ t linter, t < b.begun → (b.run w).Employs m t linter →
      b.session.Resolved ((w ++ [m]).map Move.files) linter ∧
        (linter.origin = .foreman → ∃ t', b.begun ≤ t' ∧ b.HasDiscovered w t' linter))
    (retains : m.act = .shutdown → ∀ t linter, ¬ b.HasDiscovered w t linter) :
    b.Governed (w ++ [m]) := by
  have seen : m.files ∈ (w ++ [m]).map Move.files := by simp
  have sought := tidy.sought m
  generalize out : (b.run w).step m = result at sought
  cases sought with
  | aside session linter searches employs =>
    rw [← out] at session linter searches
    exact h.of_aside session linter searches retains
  | @begun uri source language turn act unknown turned =>
    have config := h.unknown unknown
    have first : b.session.Reaches ((w ++ [m]).map Move.files)
        (Toolchain.Search.start (b.run w).session.config.executablePath
          (b.run w).session.roots).search := by
      rw [config, h.roots]
      exact .start
    refine h.of_turned (c := { b.run w with begun := (b.run w).begun + 1 }) ⟨_, rfl⟩ out rfl turned
      ?_ fun _ => first
    intro found linter settled adopts
    rw [settled] at first
    refine ⟨h.resolved_of_adopts adopts rfl seen first, fun foreman => ?_⟩
    obtain rfl | ⟨-, bundled, -⟩ := adopts.found_or_bundled
    · rw [Toolchain.Search.origin_of_start settled] at foreman
      cases foreman
    · rw [foreman] at bundled
      cases bundled
  | @looked ticket c search turn act cycle stage turned =>
    have own : (b.run w).ticket? m = some ticket := by simp [ticket?, act]
    have searching : (b.run w).Searching ticket search := ⟨c, cycle, stage⟩
    have reached (late : b.begun ≤ ticket) : b.session.Reaches ((w ++ [m]).map Move.files)
        (search.step m.files (b.run w).session.home).search := by
      rw [h.home]
      exact .look ((h.searches ticket search late searching).mono (files_concat w m)) seen
    refine h.of_turned ⟨_, rfl⟩ out rfl turned ?_ reached
    intro found linter settled adopts
    have employs : (b.run w).Employs m ticket linter :=
      (employs_iff_adopts out own turned).mpr ⟨rfl, found, settled, adopts⟩
    obtain early | late := Nat.lt_or_ge ticket b.begun
    · obtain ⟨resolved, discovered⟩ := harmless ticket linter early employs
      refine ⟨resolved, fun foreman => ?_⟩
      obtain ⟨t, since, made⟩ := discovered foreman
      exact ⟨t, since, hasDiscovered_concat.mpr (.inl made)⟩
    · have last := reached late
      rw [settled] at last
      refine ⟨h.resolved_of_adopts adopts rfl seen last, fun foreman => ?_⟩
      exact ⟨ticket, late, hasDiscovered_concat.mpr (.inr ⟨employs, ⟨search, searching⟩, foreman⟩)⟩
  | changed act => exact absurd act (same _ _)

end Governed

/-- A session that is governed by its configuration follows it. -/
theorem Governed.follows (tidy : (b.run w).Tidy) (h : b.Governed w) : b.Follows w where
  config := h.config
  linters := h.linters
  next := by
    intro m linter employs
    have own := employs.own
    have last := h.step tidy (m := m) (by
        intro config roots act
        simp [ticket?, act] at own)
      (by
        intro t linter' early employs'
        have later := begun_le_run b w
        have owner := employs'.own
        rw [own] at owner
        cases owner
        omega)
      (by
        intro act
        simp [ticket?, act] at own)
    exact last.known linter (by rw [run_concat]; exact employs.known)

/-- A session that follows its configuration knows a linter that the configuration stands for. -/
theorem Follows.resolved (h : b.Follows w) {linter : Toolchain}
    (known : (b.run w).session.toolchain = some linter) {fs : FileSystem}
    (seen : fs ∈ w.map Move.files) : b.session.Resolved (w.map Move.files) linter := by
  have employs := employs_known (m := ⟨.lint "" "" none, fs, true⟩) known rfl rfl
  refine (h.next _ linter employs).mono fun fs' there => ?_
  simp only [List.map_append, List.map_cons, List.map_nil, List.mem_append,
    List.mem_singleton] at there
  obtain there | rfl := there
  · exact there
  · exact seen

theorem Follows.resolved_concat (h : b.Follows (w ++ [m])) {t : Nat} {linter : Toolchain}
    (employs : (b.run w).Employs m t linter) :
    b.session.Resolved ((w ++ [m]).map Move.files) linter := by
  have known : (b.run (w ++ [m])).session.toolchain = some linter := by
    rw [run_concat]
    exact employs.known
  have seen : m.files ∈ (w ++ [m]).map Move.files := by simp
  exact h.resolved known seen

/-- A search from before that ends with a linter has done no harm if the session follows its
configuration afterwards. -/
theorem Follows.harmless (tidy : (b.run w).Tidy) (h : b.Follows (w ++ [m])) {t : Nat}
    {linter : Toolchain} (early : t < b.begun) (employs : (b.run w).Employs m t linter) :
    b.session.Resolved ((w ++ [m]).map Move.files) linter ∧
      (linter.origin = .foreman → ∃ t', b.begun ≤ t' ∧ b.HasDiscovered w t' linter) := by
  have resolved := h.resolved_concat employs
  refine ⟨resolved, fun foreman => ?_⟩
  have past : t < (b.run w).begun := Nat.lt_of_lt_of_le early (begun_le_run b w)
  obtain ⟨executable, directory, named, rfl, config⟩ | bundled :=
    tidy.discovered_or_bundled employs past
  · obtain same | ⟨t', executable', directory', late, discovered, other⟩ := h.config
    · rw [run_concat, config] at same
      have explicit := resolved.eq_named (by rw [← same]; exact named)
      cases explicit
    · rw [run_concat, config] at other
      obtain rfl : executable = executable' := congrArg Config.LintConfig.executablePath other
      obtain rfl : directory = directory' :=
        Option.some.inj (congrArg Config.LintConfig.manifestDirectory other)
      obtain before | now := hasDiscovered_concat.mp discovered
      · exact ⟨t', late, before⟩
      · have same := employs.own.symm.trans now.employs.own
        cases same
        omega
  · rw [foreman] at bundled
    cases bundled

/-- Searches of some cycles that are still under way, under whatever configuration. -/
structure Underway (s : Session) (files : List FileSystem) (first last : Nat) (a : Activity) :
    Prop where
  home : a.session.home = s.home
  past : last ≤ a.begun
  searches : ∀ t search, first ≤ t → t < last → a.Searching t search → s.Reaches files search

theorem Underway.step {s : Session} {files : List FileSystem} {first last : Nat} {a : Activity}
    (ha : a.Tidy) (h : a.Underway s files first last) {m : Move} (seen : m.files ∈ files) :
    (a.step m).1.Underway s files first last ∧
      ∀ t linter, a.Employs m t linter → first ≤ t → t < last →
        (s.Resolved files linter ↔
          (linter.origin = .bundled → linter.executable = s.bundledPath)) := by
  have next := Nat.le_trans h.past (begun_le_step a m)
  have past := h.past
  constructor
  · have sought := ha.sought m
    generalize a.step m = out at sought next ⊢
    cases sought with
    | aside same linter searches employs =>
      obtain ⟨registry, generations, toolchain, session⟩ := same
      exact ⟨by rw [session, h.home], next, fun t search late early searching =>
        h.searches t search late early (searches t search searching)⟩
    | begun act unknown turned =>
      refine ⟨turned.home.trans h.home, next, fun t search late early searching => ?_⟩
      obtain ⟨rfl, -⟩ | ⟨-, before⟩ := searching_of_turned turned searching
      · omega
      · exact h.searches t search late early before
    | @looked ticket c search turn act cycle stage turned =>
      refine ⟨turned.home.trans h.home, next, fun t search' late early searching => ?_⟩
      obtain ⟨rfl, rfl, -⟩ | ⟨-, before⟩ := searching_of_turned turned searching
      · rw [h.home]
        exact .look (h.searches t search late early ⟨c, cycle, stage⟩) seen
      · exact h.searches t search' late early before
    | changed act => exact ⟨h.home, next, h.searches⟩
  · intro t linter employs late early
    obtain ⟨search, found, -, searching, settled, adopts⟩ :=
      ha.adopts_of_employs employs (Nat.lt_of_lt_of_le early past)
    have reached : s.Reaches files (search.step m.files a.session.home).search := by
      rw [h.home]
      exact .look (h.searches t search late early searching) seen
    rw [settled] at reached
    exact adopts.resolved_iff seen reached

theorem Underway.run {s : Session} {files : List FileSystem} {first last : Nat} {a : Activity}
    (ha : a.Tidy) (h : a.Underway s files first last) {ms : List Move}
    (seen : ∀ m ∈ ms, m.files ∈ files) {t : Nat} {linter : Toolchain}
    (employed : a.Employed ms t linter) (late : first ≤ t) (early : t < last) :
    s.Resolved files linter ↔ (linter.origin = .bundled → linter.executable = s.bundledPath) := by
  induction ms generalizing a with
  | nil => exact employed.elim
  | cons m ms ih =>
    obtain ⟨next, resolved⟩ := h.step ha (seen m (by simp))
    obtain employs | employed := employed
    · exact resolved t linter employs late early
    · exact ih (ha.step m) next (fun m' hm' => seen m' (by simp [hm'])) employed

/-- Of cycles begun since and still under way, those that employ a linter at last employ one that
the configuration stands for, unless it is another bundled one. -/
theorem Governed.resolved_iff (tidy : (b.run w).Tidy) (h : b.Governed w) {later : List Move}
    {t : Nat} {linter : Toolchain} (late : b.begun ≤ t) (early : t < (b.run w).begun)
    (employed : (b.run w).Employed later t linter) :
    b.session.Resolved ((w ++ later).map Move.files) linter ↔
      (linter.origin = .bundled → linter.executable = b.session.bundledPath) := by
  have underway : (b.run w).Underway b.session ((w ++ later).map Move.files) b.begun
      (b.run w).begun :=
    ⟨h.home, Nat.le_refl _, fun t search late _ searching =>
      (h.searches t search late searching).mono (by simp)⟩
  exact underway.run tidy
    (fun m mem => List.mem_map_of_mem (List.mem_append_right _ mem)) employed late early

theorem Undisturbed.harmless {ms : List Move} (h : b.Undisturbed ms) : b.Harmless ms := by
  intro w m t linter part early employs
  have late := h t linter (employed_iff.mpr ⟨w, m, part, employs⟩)
  omega

section
variable {within : List Move} (tidy : b.Tidy) (unknown : b.session.toolchain = none)
  (same : ∀ m ∈ within, ∀ config roots, m.act ≠ .reconfigure config roots)
include tidy unknown same

end

/-- Files with the linter that comes with the program. -/
def bareFiles : FileSystem :=
  FileSystem.empty.addFile (.ofText "/lute") [] true

/-- Files with the linter that comes with the program, with a manifest in a folder, and with its
linter at the usual place. -/
def equippedFiles : FileSystem :=
  (bareFiles.addFile (.ofText "/w/foreman.toml") [] false).addFile
    (.ofText "/h/.foreman/bin/lute") [] true

/-- What a search finds with these files. -/
def discovered : Toolchain := ⟨"/h/.foreman/bin/lute", some "/w", .foreman⟩

def linterConfig (executable : String) : Config.LintConfig :=
  ⟨executable, "", none, none, ["luau"], none⟩

/-- A session with that folder and no configured linter. -/
abbrev folderOpened : Activity :=
  opened (linterConfig "") [⟨1, [['w']]⟩] false ⟨1, [['h']]⟩ "/lute"

/-- A search that is under way in that folder when the configuration comes to name a linter. -/
def renamed : Activity :=
  (folderOpened.run [⟨.lint "u" "x" none, bareFiles, true⟩]).reconfigured (linterConfig "b/lute")
    none

/-- A search in that folder, up to its last look at the files. -/
def searchedFolder : List Move :=
  [⟨.lint "u" "x" none, equippedFiles, true⟩, ⟨.resume 0 .looked, equippedFiles, true⟩]

end Activity
end LintBridge
