import LintBridge.Yaml.Lexer
import LintBridge.Proofs.Scalars
/-!
The tokens of a block mapping at the margin whose keys are plain names and whose values are
scalars as they are written. Each entry is three turns of the lexer: key, colon and value.
-/
namespace LintBridge.Yaml

namespace Cursor

/-- A run of visible characters stays on its line. -/
theorem skip_run {run w : List Char} {c : Cursor} (visible : ∀ ch ∈ run, Visible ch)
    (hr : c.rest = run ++ w) :
    (c.skip run.length).line = c.line ∧ (c.skip run.length).index = c.index + run.length := by
  induction run generalizing c with
  | nil => exact ⟨rfl, rfl⟩
  | cons ch run ih =>
    have hv := visible ch List.mem_cons_self
    have plain := (hv.stops []) ch rfl
    have noReturn : ch ≠ '\r' := by
      rintro rfl
      exact absurd hv (by decide)
    have noMark : ch ≠ '\uFEFF' := by
      rintro rfl
      exact absurd hv (by decide)
    have step : c.next = ⟨run ++ w, c.index + 1, c.line, c.column + 1⟩ := by
      unfold next
      rw [hr]
      simp [plain.2.2, noReturn, noMark]
    have later := ih (c := c.next) (fun d hd => visible d (List.mem_cons_of_mem _ hd))
      (by rw [step])
    rw [List.length_cons, skip, later.1, later.2, step]
    exact ⟨rfl, by simp only []; omega⟩

end Cursor

/-- A name that may be the key of an entry. -/
structure PlainKey (key : List Char) : Prop where
  filled : key ≠ []
  short : key.length ≤ 1024
  letters : ∀ c ∈ key, c.isAlpha = true ∨ c = '_'

namespace PlainKey

variable {key : List Char}

theorem of_all (filled : key ≠ []) (short : key.length ≤ 1024)
    (letters : key.all (fun c => c.isAlpha || c == '_') = true) : PlainKey key :=
  ⟨filled, short, fun c hc => by simpa using List.all_eq_true.mp letters c hc⟩

theorem apart (h : PlainKey key) {c d : Char} (hc : c ∈ key)
    (hd : ¬(d.isAlpha = true ∨ d = '_')) : c ≠ d := fun same => hd (same ▸ h.letters c hc)

theorem visible (h : PlainKey key) : ∀ c ∈ key, Visible c := by
  intro c hc
  obtain alpha | rfl := h.letters c hc
  · unfold Char.isAlpha Char.isUpper Char.isLower at alpha
    simp only [Bool.or_eq_true, Bool.and_eq_true, decide_eq_true_eq, UInt32.le_iff_toNat_le,
      ge_iff_le] at alpha
    change (65 ≤ c.toNat ∧ c.toNat ≤ 90) ∨ (97 ≤ c.toNat ∧ c.toNat ≤ 122) at alpha
    change ' '.val < c.val ∧ c.val ≤ '~'.val
    rw [UInt32.lt_iff_toNat_lt, UInt32.le_iff_toNat_le]
    change 32 < c.toNat ∧ c.toNat ≤ 126
    omega
  · decide

theorem opens (h : PlainKey key) (s : List Char) : OpensPlain (key ++ s) := by
  obtain ⟨ch, key, rfl⟩ := List.exists_cons_of_ne_nil h.filled
  have hc := List.mem_cons_self (a := ch) (l := key)
  have ne (d : Char) (hd : ¬(d.isAlpha = true ∨ d = '_')) := h.apart hc hd
  refine ⟨ch, key ++ s, rfl, h.visible ch hc, ?_, ?_⟩
  · have marks : "#,[]\x7b\x7d&*!|>'\"%@\x60".toList.any
        (fun d => d.isAlpha || d == '_') = false := by
      decide
    refine Bool.eq_false_iff.mpr fun mem => ?_
    exact List.any_eq_false.mp marks ch (List.contains_iff_mem.mp mem)
      (by simpa using h.letters ch hc)
  · rintro (rfl | rfl | rfl)
    · exact absurd rfl (ne '?' (by decide))
    · exact absurd rfl (ne ':' (by decide))
    · exact absurd rfl (ne '-' (by decide))

theorem margin (h : PlainKey key) (s : List Char) : Margin (key ++ s) := by
  obtain ⟨ch, key, rfl⟩ := List.exists_cons_of_ne_nil h.filled
  have hc := List.mem_cons_self (a := ch) (l := key)
  intro d hd
  obtain rfl : ch = d := by simpa using hd
  exact ⟨h.visible ch hc, h.apart hc (by decide), h.apart hc (by decide), h.apart hc (by decide)⟩

end PlainKey

/-- A key is read as one stretch, up to its colon. -/
theorem plainScalar_key {key w : List Char} (h : PlainKey key) {c : Cursor} (indent : Int)
    (hr : c.rest = key ++ ':' :: ' ' :: w) :
    plainScalar false indent c = ⟨key, c.skip key.length, false⟩ := by
  have noMark : c.peek ≠ some '#' := by
    intro hash
    rw [Cursor.peek, hr] at hash
    exact (h.margin _ '#' hash).2.1 rfl
  have last : key.getLast? ≠ some ':' := by
    intro colon
    obtain ⟨front, rfl⟩ := List.getLast?_eq_some_iff.mp colon
    exact h.apart (List.mem_append_right _ List.mem_cons_self) (by decide) rfl
  have size : plainStretch false c.rest = key.length := by
    rw [hr, plainStretch_run h.visible last (by simp [endsPlain, endsToken])]
  have positive : key.length ≠ 0 := mt List.length_eq_zero_iff.mp h.filled
  have behind : (c.skip key.length).rest = List.replicate 0 ' ' ++ ':' :: ' ' :: w :=
    Cursor.skip_rest_append hr rfl
  have colon : Visible ':' := by decide
  rw [plainScalar, plainTail]
  simp only [if_neg noMark, size, if_neg positive]
  rw [plainSpaces_blanks behind (colon.stops _), hr, List.take_left' rfl]
  simp [Cursor.skip]

namespace Lexer

@[simp] theorem ofText_rest (s : List Char) : (ofText s).cursor.rest = s := rfl

variable {l m l' : Lexer} {ch : Char} {fuel : Nat}

/-- A turn reads the token behind blanks and line ends, if no place of a key grows stale and no
block ends there. -/
theorem run_token (gap : l.toNextToken (l.cursor.rest.length + 1) = m)
    (fresh : m.dropStale = .ok m) (level : m.unwind m.cursor.column = m)
    (peek : m.cursor.peek = some ch) (read : m.token ch = .ok l') :
    run (fuel + 1) l = run fuel l' := by
  rw [run, gap, fresh]
  simp [bind, Except.bind, level, peek, read]

theorem unwind_self {column : Int} (flow : m.flowDepth = 0) (h : m.indent ≤ column) :
    m.unwind column = m := by
  have open_ : ¬column < m.indent := Int.not_lt.mpr h
  obtain ⟨cursor, flowDepth, tokens, count, indent, outer, keyAllowed, possibleKeys⟩ := m
  obtain rfl : flowDepth = 0 := flow
  unfold unwind
  simp [inFlow, open_]

theorem dropStale_self (h : m.possibleKeys = []) : m.dropStale = .ok m := by
  unfold dropStale
  simp [h]
  rw [← h]

/-- On the way to a token nothing is passed if one is there. -/
theorem toNextToken_here (h : ∀ ch ∈ l.cursor.rest.head?,
    ch ≠ ' ' ∧ ch ≠ '#' ∧ isBreak ch = false) :
    l.toNextToken (fuel + 1) = l := by
  have blanks : l.cursor.skipBlanks = l.cursor :=
    Cursor.skipWhile_eq (a := []) rfl (by simp) fun ch hc => by simp [(h ch hc).1]
  have noComment : l.cursor.peek ≠ some '#' := fun hash => (h '#' hash).2.1 rfl
  rw [toNextToken, blanks]
  simp only [if_neg noComment]
  rw [Cursor.lineBreak?_eq_none fun ch hc => (h ch hc).2.2]

/-- On the way to a token one blank is passed. -/
theorem toNextToken_blank (fuel : Nat) {s : List Char} (hr : l.cursor.rest = ' ' :: s)
    (h : ∀ ch ∈ s.head?, ch ≠ ' ' ∧ ch ≠ '#' ∧ isBreak ch = false) :
    l.toNextToken (fuel + 1) = { l with cursor := l.cursor.next } := by
  have blanks : l.cursor.skipBlanks = l.cursor.next :=
    Cursor.skipWhile_eq (a := [' ']) hr (by simp) fun ch hc => by simp [(h ch hc).1]
  have next : l.cursor.next.rest = s := by simp [hr]
  have noComment : l.cursor.next.peek ≠ some '#' := by
    rw [Cursor.peek, next]
    exact fun hash => (h '#' hash).2.1 rfl
  rw [toNextToken, blanks]
  simp only [if_neg noComment]
  rw [Cursor.lineBreak?_eq_none (by rw [next]; exact fun ch hc => (h ch hc).2.2)]

/-- On the way to a token a line end is passed, and a key may begin behind it. -/
theorem toNextToken_feed (fuel : Nat) {s : List Char} (hr : l.cursor.rest = '\n' :: s)
    (flow : l.flowDepth = 0) :
    l.toNextToken (fuel + 1) =
      toNextToken fuel { l with cursor := l.cursor.next, keyAllowed := true } := by
  have blanks : l.cursor.skipBlanks = l.cursor :=
    Cursor.skipWhile_eq (a := []) rfl (by simp) fun ch hc => by
      obtain rfl : '\n' = ch := by simpa [hr] using hc
      decide
  have noComment : l.cursor.peek ≠ some '#' := by simp [Cursor.peek, hr]
  rw [toNextToken, blanks]
  simp only [if_neg noComment]
  rw [Cursor.lineBreak?_feed hr]
  simp [inFlow, flow]

/-- On the way to a token a comment is passed with the end of its line. -/
theorem toNextToken_comment (fuel : Nat) {line s : List Char}
    (hr : l.cursor.rest = '#' :: (line ++ '\n' :: s)) (hl : ∀ ch ∈ line, isBreak ch = false)
    (flow : l.flowDepth = 0) :
    ∃ c, c.rest = s ∧ c.column = 0 ∧
      l.toNextToken (fuel + 1) = toNextToken fuel { l with cursor := c, keyAllowed := true } := by
  have blanks : l.cursor.skipBlanks = l.cursor :=
    Cursor.skipWhile_eq (a := []) rfl (by simp) fun ch hc => by
      obtain rfl : '#' = ch := by simpa [hr] using hc
      decide
  have comment : l.cursor.peek = some '#' := by simp [Cursor.peek, hr]
  have passed : l.cursor.skipWhile (!isBreak ·) = l.cursor.skip (line.length + 1) :=
    Cursor.skipWhile_eq (a := '#' :: line) hr
      (by simpa [show isBreak '#' = false from by decide] using hl) (by simp [isBreak])
  have behind : (l.cursor.skip (line.length + 1)).rest = '\n' :: s :=
    Cursor.skip_rest_append (a := '#' :: line) hr rfl
  refine ⟨(l.cursor.skip (line.length + 1)).next, by simp [hr], next_column_feed behind, ?_⟩
  rw [toNextToken, blanks]
  simp only [if_pos comment, passed]
  rw [Cursor.lineBreak?_feed behind]
  simp [inFlow, flow]

theorem atMark_eq_false {c : Cursor} {mark : Char} (h : c.peek ≠ some mark) :
    c.atMark mark = false := by
  unfold Cursor.atMark
  cases hr : c.rest with
  | nil => rfl
  | cons ch rest =>
    have apart : ch ≠ mark := fun same => h (by rw [Cursor.peek, hr, same]; rfl)
    simp [apart]

/-- Where a plain scalar opens, one is read. -/
theorem token_plain (opens : OpensPlain l.cursor.rest) (flow : l.flowDepth = 0)
    (margin : l.cursor.column = 0 → Margin l.cursor.rest) (peek : l.cursor.peek = some ch) :
    l.token ch = l.plainPiece := by
  obtain ⟨first, s, hr, visible, indicators, marks⟩ := opens
  obtain rfl : first = ch := by simpa [Cursor.peek, hr] using peek
  have notAt {mark : Char} (h : mark = '-' ∨ mark = '.') :
      (decide (l.cursor.column = 0) && l.cursor.atMark mark) = false := by
    by_cases zero : l.cursor.column = 0
    · have apart := margin zero first peek
      rw [atMark_eq_false (by rw [peek]; rcases h with rfl | rfl <;> simp [apart]), Bool.and_false]
    · simp [zero]
  have plain := endsToken_visible visible
  have alone (mark : Char) (h : mark = '?' ∨ mark = ':' ∨ mark = '-') :
      (decide (first = mark) && endsToken (l.cursor.ahead 1)) = false := by
    by_cases same : first = mark
    · subst same
      obtain ⟨d, t, rfl, hd⟩ := marks h
      simp [Cursor.ahead, hr, endsToken_visible hd]
    · simp [same]
  simp at indicators
  have starts : l.startsPlain first = true := by
    unfold startsPlain
    by_cases three : first = '?' ∨ first = ':' ∨ first = '-'
    · obtain ⟨d, t, rfl, hd⟩ := marks three
      have follows : endsToken (l.cursor.ahead 1) = false := by
        simp [Cursor.ahead, hr, endsToken_visible hd]
      rcases three with rfl | rfl | rfl <;> simp [follows, inFlow, flow]
    · simp only [not_or] at three
      simp [plain, indicators, three]
  unfold token
  simp [notAt, alone, inFlow, flow, indicators, starts]

theorem token_quote (mark : ch = '\'' ∨ ch = '"') (peek : l.cursor.peek = some ch) :
    l.token ch = l.piece (quotedPiece ch) := by
  have dashes : l.cursor.atMark '-' = false :=
    atMark_eq_false (by rw [peek]; rcases mark with rfl | rfl <;> simp)
  have points : l.cursor.atMark '.' = false :=
    atMark_eq_false (by rw [peek]; rcases mark with rfl | rfl <;> simp)
  unfold token
  rcases mark with rfl | rfl <;> simp [dashes, points]

theorem token_colon {s : List Char} (hr : l.cursor.rest = ':' :: ' ' :: s) :
    l.token ':' = l.valueMark := by
  have peek : l.cursor.peek = some ':' := by simp [Cursor.peek, hr]
  have dashes : l.cursor.atMark '-' = false := atMark_eq_false (by simp [peek])
  have points : l.cursor.atMark '.' = false := atMark_eq_false (by simp [peek])
  unfold token
  simp [dashes, points, Cursor.ahead, hr, endsToken]

/-- The token of a value, and the way from behind it to the next line. -/
theorem token_stands {text : String} {w tail : List Char} (stands : Stands text w)
    (hr : m.cursor.rest = w ++ '\n' :: tail) (margin : Margin tail) (flow : m.flowDepth = 0)
    (indent : m.indent = 0) (noKey : m.keyAllowed = false) (column : m.cursor.column ≠ 0) :
    ∃ ch plain l' c, m.cursor.peek = some ch ∧ m.token ch = .ok l' ∧ c.rest = tail ∧
      c.column = 0 ∧ (plain = true → Tag.ofPlain text = .str) ∧
      l'.toNextToken (l'.cursor.rest.length + 1) =
        { m with cursor := c, keyAllowed := true }.push (.scalar text plain) := by
  have noted : m.noteKey = .ok m := by
    unfold noteKey
    simp [noKey]
  have here := margin.here
  cases stands with
  | quoted quote mark opens read =>
    obtain ⟨s, rfl⟩ := opens
    obtain ⟨c, behind, done⟩ := read _ _ hr
    have peek : m.cursor.peek = some quote := by simp [Cursor.peek, hr]
    refine ⟨quote, false, { m with cursor := c, keyAllowed := false }.push (.scalar text false),
      c.next, peek, ?_, by simp [behind], next_column_feed behind, by simp, ?_⟩
    · rw [token_quote mark peek, piece, noted]
      simp [quotedPiece, done, bind, Except.bind, pure, Except.pure]
    · have behind' : ({ m with cursor := c, keyAllowed := false }.push
          (.scalar text false)).cursor.rest = '\n' :: tail := behind
      rw [toNextToken_feed _ behind' flow, behind', List.length_cons, toNextToken_here]
      · rfl
      · simpa [push, behind] using here
  | plain kind opens read =>
    obtain ⟨c, behind, atMargin, done⟩ := read _ _ hr margin
    have opens : OpensPlain m.cursor.rest := by
      obtain ⟨first, s, rfl, visible, indicators, marks⟩ := opens
      refine ⟨first, s ++ '\n' :: tail, hr, visible, indicators, fun three => ?_⟩
      obtain ⟨d, t, rfl, hd⟩ := marks three
      exact ⟨d, t ++ '\n' :: tail, rfl, hd⟩
    obtain ⟨first, s, hr', -⟩ := id opens
    have peek : m.cursor.peek = some first := by simp [Cursor.peek, hr']
    refine ⟨first, true, { m with cursor := c, keyAllowed := true }.push (.scalar text true), c,
      peek, ?_, behind, atMargin, fun _ => kind, ?_⟩
    · rw [token_plain opens flow (fun zero => absurd zero column) peek, plainPiece, noted]
      have outside : m.inFlow = false := by simp [inFlow, flow]
      simp [outside, indent, done, bind, Except.bind, pure, Except.pure]
    · rw [toNextToken_here]
      simpa [push, behind] using here

/-- A lexer at the margin of a line, in front of the first entry of a mapping or of a later one. -/
structure AtMargin (l : Lexer) (s : List Char) : Prop where
  rest : l.cursor.rest = s
  column : l.cursor.column = 0
  flow : l.flowDepth = 0
  keyAllowed : l.keyAllowed = true
  noKeys : l.possibleKeys = []
  level : l.indent = -1 ∧ l.outerIndents = [] ∨ l.indent = 0 ∧ l.outerIndents = [-1]

/-- The tokens that open the mapping, the last one first. -/
def opening (l : Lexer) : List Token := if l.indent = -1 then [.blockMappingStart] else []

/-- The lexer behind a key and its colon, from the margin on. -/
def behindColon (l : Lexer) (key : List Char) : Lexer :=
  { l with
    cursor := (l.cursor.skip key.length).next
    tokens := .value :: .scalar (String.ofList key) true :: .key :: (l.opening ++ l.tokens)
    count := l.count + 3 + l.opening.length
    indent := 0
    outerIndents := [-1]
    keyAllowed := false
    possibleKeys := [] }

/-- A key is noted where it begins, read, and turned into an entry at its colon. -/
theorem run_key {key s : List Char} (h : PlainKey key)
    (gap : l.toNextToken (l.cursor.rest.length + 1) = m)
    (margin : m.AtMargin (key ++ ':' :: ' ' :: s)) :
    run (fuel + 2) l = run fuel (m.behindColon key) := by
  obtain ⟨rest, column, flow, keyAllowed, noKeys, level⟩ := margin
  have outside : m.inFlow = false := by simp [inFlow, flow]
  have low : m.indent ≤ 0 := by rcases level with ⟨h, -⟩ | ⟨h, -⟩ <;> omega
  have opens : OpensPlain m.cursor.rest := rest ▸ h.opens _
  obtain ⟨ch, t, hch, -⟩ := id opens
  have peek : m.cursor.peek = some ch := by simp [Cursor.peek, hch]
  obtain ⟨line, index⟩ := Cursor.skip_run h.visible rest
  -- The first turn reads the key.
  let k : PossibleKey :=
    ⟨m.count, decide (m.indent = 0), m.cursor.index, m.cursor.line, 0⟩
  let m₁ : Lexer := { m with
    possibleKeys := [(0, k)], keyAllowed := false, cursor := m.cursor.skip key.length }.push
      (.scalar (String.ofList key) true)
  have noted : m.noteKey = .ok { m with possibleKeys := [(0, k)] } := by
    unfold noteKey forgetKey
    simp [keyAllowed, noKeys, outside, flow, column, bind, Except.bind, pure, Except.pure, k]
  have first : m.token ch = .ok m₁ := by
    rw [token_plain opens flow (fun _ => rest ▸ h.margin _) peek, plainPiece, noted]
    have outside : ({ m with possibleKeys := [(0, k)] } : Lexer).inFlow = false := outside
    simp only [bind, Except.bind, pure, Except.pure, outside, plainScalar_key h _ rest, m₁]
  rw [run_token gap (dropStale_self noKeys) (unwind_self flow (by rw [column]; exact low)) peek
    first]
  -- The second one reads the colon.
  have colon : m₁.cursor.rest = ':' :: ' ' :: s := by
    simp only [m₁, push, Cursor.skip_rest]
    rw [rest, List.drop_left' rfl]
  have here : m₁.toNextToken (m₁.cursor.rest.length + 1) = m₁ :=
    toNextToken_here (by
      intro ch hc
      obtain rfl : ':' = ch := by simpa [colon] using hc
      decide)
  have fresh : m₁.dropStale = .ok m₁ := by
    have short : ¬1024 < key.length := Nat.not_lt.mpr h.short
    unfold dropStale
    simp [m₁, push, k, line, index, short]
  have second : m₁.token ':' = .ok (m.behindColon key) := by
    rw [token_colon colon, valueMark]
    rcases level with ⟨indent, outer⟩ | ⟨indent, outer⟩
    · simp [m₁, push, k, flow, insertAt, openBlock?, inFlow, indent, outer, behindColon, opening,
        bind, Except.bind, pure, Except.pure, show m.count + 1 + 1 - m.count = 2 by omega]
    · simp [m₁, push, k, flow, insertAt, openBlock?, inFlow, indent, outer, behindColon, opening,
        bind, Except.bind, pure, Except.pure]
  refine run_token here fresh (unwind_self flow ?_) (by rw [Cursor.peek, colon]; rfl) second
  exact Int.le_trans low (Int.natCast_nonneg _)

/-- An entry is read in three turns, and the lexer stands at the margin behind it. -/
theorem run_entry (fuel : Nat) {key w tail : List Char} {text : String} (h : PlainKey key)
    (stands : Stands text w) (behind : Margin tail)
    (gap : l.toNextToken (l.cursor.rest.length + 1) = m)
    (margin : m.AtMargin (key ++ ':' :: ' ' :: (w ++ '\n' :: tail))) :
    ∃ l' m' plain, run (fuel + 3) l = run fuel l' ∧
      l'.toNextToken (l'.cursor.rest.length + 1) = m' ∧ m'.AtMargin tail ∧ m'.indent = 0 ∧
      m'.tokens = .scalar text plain :: .value :: .scalar (String.ofList key) true :: .key ::
        (m.opening ++ m.tokens) ∧
      (plain = true → Tag.ofPlain text = .str) := by
  have flow := margin.flow
  have blank : (m.behindColon key).cursor.rest = ' ' :: (w ++ '\n' :: tail) := by
    simp only [behindColon, Cursor.next_rest, Cursor.skip_rest, margin.rest]
    rw [List.drop_left' rfl]
    rfl
  have first : ∀ ch ∈ (w ++ '\n' :: tail).head?, ch ≠ ' ' ∧ ch ≠ '#' ∧ isBreak ch = false := by
    intro ch hc
    cases stands with
    | quoted quote mark opens _ =>
      obtain ⟨s, rfl⟩ := opens
      obtain rfl : quote = ch := by simpa using hc
      rcases mark with rfl | rfl <;> decide
    | plain _ opens _ =>
      obtain ⟨d, s, rfl, visible, indicators, -⟩ := opens
      obtain rfl : d = ch := by simpa using hc
      have stops := (visible.stops []) d rfl
      simp at indicators
      exact ⟨stops.1, by simp [indicators], stops.2.2⟩
  let m₂ : Lexer := { m.behindColon key with cursor := (m.behindColon key).cursor.next }
  have passed := toNextToken_blank (m.behindColon key).cursor.rest.length blank first
  have column : m₂.cursor.column ≠ 0 := by
    simp only [m₂]
    rw [next_column blank (by decide) (by decide)]
    omega
  obtain ⟨ch, plain, l', c, peek, read, rest, zero, kind, gap'⟩ := token_stands (m := m₂) stands
    (by simp only [m₂, Cursor.next_rest, blank, List.tail_cons]) behind flow rfl rfl column
  refine ⟨l', _, plain, ?_, gap', ⟨rest, zero, flow, rfl, rfl, .inr ⟨rfl, rfl⟩⟩, rfl, rfl, kind⟩
  rw [run_key h gap margin]
  exact run_token passed (dropStale_self rfl)
    (unwind_self flow (Int.natCast_nonneg _)) peek read

/-- The end of the text at the margin closes the mapping. -/
theorem run_end (gap : l.toNextToken (l.cursor.rest.length + 1) = m) (margin : m.AtMargin [])
    (indent : m.indent = 0) : run (fuel + 1) l = .ok (.blockEnd :: m.tokens).reverse := by
  obtain ⟨rest, column, flow, keyAllowed, noKeys, level⟩ := margin
  have outer : m.outerIndents = [-1] := by
    rcases level with ⟨h, -⟩ | ⟨-, h⟩
    · omega
    · exact h
  rw [run, gap, dropStale_self noKeys]
  simp only [bind, Except.bind]
  rw [unwind_self flow (by rw [column, indent]; exact Int.le_refl 0)]
  simp [Cursor.peek, rest, unwind, inFlow, flow, indent, outer, push, forgetKey, noKeys, pure,
    Except.pure]

end Lexer

end LintBridge.Yaml
