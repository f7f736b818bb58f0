import Mathlib
import LintBridge.Proofs.Batches
import LintBridge.Proofs.Checked
import LintBridge.Proofs.JsonKinds
/-!
The form of a record. The places of a record and what each may hold are stated for any reading of
its integers. Read exactly, an integer is a JSON integer; the checks read it leniently, so that a
truth value, a number without a fraction or the text of an integer may stand in its place, and that
is the only freedom they take (`Batch.parse_eq_ok_iff_lenient`).
-/
namespace LintBridge

open Schema Json

/-- Which integer a value is read as. -/
abbrev IntegerReading := Value → Int → Prop

/-- The strict reading: a JSON integer is an integer, and nothing else is. -/
def Exactly : IntegerReading := fun v n => v = .int n

/-- Other values may stand for an integer. -/
inductive Leniently : IntegerReading where
  | int (n : Int) : Leniently (.int n) n
  | truth (b : Bool) : Leniently (.bool b) (if b then 1 else 0)
  | whole {x : Binary64} {n : Int} (equals : x.toInt? = some n)
    (small : n.natAbs < Nat.pow 2 63) : Leniently (.float x) n
  | numeral {s : String} {n : Int} (reads : Numeral.integer s = .ok n) : Leniently (.text s) n

theorem isFinite_of_toInt? {x : Binary64} {n : Int} (h : x.toInt? = some n) :
    x.isFinite = true := by
  cases x with
  | nan => cases h
  | infinite negative => cases h
  | finite negative m e => rfl

theorem integer_eq_ok_iff {v : Value} {n : Int} : integer v = .ok n ↔ Leniently v n := by
  constructor
  · intro h
    cases v with
    | bool b =>
      cases h
      exact .truth b
    | int m =>
      cases h
      exact .int _
    | float x =>
      rw [integer] at h
      split at h
      · cases h
      · split at h
        · cases h
        · next m equals =>
          split at h
          · next small =>
            cases h
            exact .whole equals small
          · cases h
    | text s =>
      rw [integer] at h
      split at h
      · next m reads =>
        cases h
        exact .numeral reads
      · cases h
      · cases h
    | _ => cases h
  · intro h
    cases h with
    | int n => rfl
    | truth b => rfl
    | whole equals small => simp [integer, isFinite_of_toInt? equals, equals, small]
    | numeral reads => simp [integer, reads]

theorem natural_eq_ok_iff {v : Value} {n : Nat} : natural v = .ok n ↔ Leniently v n := by
  rw [← integer_eq_ok_iff]
  unfold natural
  cases integer v with
  | error m => simp
  | ok k =>
    dsimp only
    split
    next negative =>
      refine iff_of_false (fun h => by cases h) fun h => ?_
      rw [Except.ok.injEq] at h
      omega
    next =>
      rw [Except.ok.injEq, Except.ok.injEq]
      omega

/-- A value is exactly an integer if it is read as one leniently and is a JSON integer. -/
theorem exactly_iff {v : Value} {n : Int} : Exactly v n ↔ Leniently v n ∧ ∃ k, v = .int k := by
  constructor
  · rintro rfl
    exact ⟨.int n, n, rfl⟩
  · rintro ⟨reads, k, rfl⟩
    cases reads
    rfl

/-- A place that may be left out or hold null. -/
inductive Optionally {α : Type} (form : Value → α → Prop) : Option Value → Option α → Prop where
  | absent : Optionally form none none
  | null : Optionally form (some .null) none
  | given {v : Value} {a : α} (holds : form v a) : Optionally form (some v) (some a)

variable (reading : IntegerReading)

/-- An object with a line and a character that are not negative. -/
def PositionForm (v : Value) (p : Position) : Prop :=
  ∃ (es : Value.Entries) (line character : Value), v = .map es ∧ es.field? "line" = some line ∧
    reading line p.line ∧ es.field? "character" = some character ∧ reading character p.character

/-- An object with two positions, of which the first does not come after the second. -/
def RangeForm (v : Value) (r : Range) : Prop :=
  ∃ (es : Value.Entries) (start stop : Value), v = .map es ∧ es.field? "start" = some start ∧
    PositionForm reading start r.start ∧ es.field? "end" = some stop ∧
    PositionForm reading stop r.stop

/-- An object with a text and a range. -/
def FixForm (v : Value) (f : SuggestedFix) : Prop :=
  ∃ (es : Value.Entries) (range : Value), v = .map es ∧
    es.field? "fix" = some (.text f.replacement) ∧
    es.field? "range" = some range ∧ RangeForm reading range f.range

/-- An array of integers. -/
def TagsForm (v : Value) (tags : List Int) : Prop :=
  ∃ items, v = .list items ∧ List.Forall₂ reading items tags

/-- The value of a field that goes by two names; the first one counts if both are there. -/
def either (es : Value.Entries) (first second : String) : Option Value :=
  (es.field? first).or (es.field? second)

/-- The fields of a record and the violation that it stands for. -/
structure RecordForm (es : Value.Entries) (w : Violation) : Prop where
  range : ∃ v, es.field? "range" = some v ∧ RangeForm reading v w.range
  severity : ∃ v, es.field? "severity" = some v ∧ reading v w.severity.number
  code : es.field? "code" = some (.text w.code)
  source : es.field? "source" = some (.text w.source)
  message : es.field? "message" = some (.text w.message)
  codeDescription : Optionally (fun v s => v = .text s)
    (either es "codeDescription" "code_description") w.codeDescription
  tags : Optionally (TagsForm reading) (es.field? "tags") w.tags
  suggestedFix : Optionally (FixForm reading) (either es "suggestedfix" "suggested_fix")
    w.suggestedFix

theorem required_eq_ok_iff {α : Type} {es : Value.Entries} {name : String}
    {check : Value → Checked α} {a : α} :
    required es name check = .ok a ↔ ∃ v, es.field? name = some v ∧ check v = .ok a := by
  unfold required
  cases es.field? name with
  | none => simp [inside, fail, Except.mapError]
  | some v => simp [inside, mapError_eq_ok_iff]

theorem text_eq_ok_iff {v : Value} {s : String} (json : OfJson v) :
    text v = .ok s ↔ v = .text s := by
  cases json with
  | text s' => simp [text]
  | _ => simp [text, fail]

theorem items_eq_ok_iff {α : Type} {check : Value → Checked α} (index : Nat) {vs : List Value}
    {xs : List α} : Schema.items check index vs = .ok xs ↔
      List.Forall₂ (fun v x => check v = .ok x) vs xs := by
  induction vs generalizing index xs with
  | nil => cases xs <;> simp [Schema.items]
  | cons v vs ih =>
    rw [Schema.items]
    cases hv : check v with
    | error m => cases xs <;> simp [inside, hv]
    | ok x =>
      cases hr : Schema.items check (index + 1) vs with
      | error m => cases xs <;> simp [inside, hv, Except.map, ← ih (index + 1), hr]
      | ok ys => cases xs <;> simp [inside, hv, Except.map, ← ih (index + 1), hr]

theorem list_integer_eq_ok_iff {v : Value} {tags : List Int} (json : OfJson v) :
    list integer v = .ok tags ↔ TagsForm Leniently v tags := by
  have same : Leniently = fun v n => integer v = .ok n := by
    funext v n
    exact propext integer_eq_ok_iff.symm
  unfold TagsForm
  rw [same]
  cases json with
  | list each => simp [list, items_eq_ok_iff]
  | _ => simp [list, fail]

/-- A place with a default of nothing, where null is nothing as well. -/
theorem defaulted_nullable_iff {α : Type} {es : Value.Entries} {name : String}
    {check : Value → Checked α} {form : Value → α → Prop} {found : Option α}
    (same : ∀ v a, es.field? name = some v → (check v = .ok a ↔ form v a))
    (filled : ∀ a, ¬ form .null a) :
    defaulted es name none (nullable check) = .ok found ↔
      Optionally form (es.field? name) found := by
  rw [defaulted_eq_ok_iff]
  cases hf : es.field? name with
  | none =>
    constructor
    · rintro rfl
      exact .absent
    · rintro ⟨⟩
      rfl
  | some v =>
    by_cases null : v = .null
    · subst null
      constructor
      · rintro ⟨⟩
        exact .null
      · intro h
        cases h with
        | null => rfl
        | given holds => exact absurd holds (filled _)
    · have checked : nullable check v = (check v).map some := by
        cases v with
        | null => exact absurd rfl null
        | _ => rfl
      have same' := fun a => same v a hf
      dsimp only
      rw [checked]
      constructor
      · intro h
        cases hc : check v with
        | error m => simp [hc, Except.map] at h
        | ok a =>
          obtain rfl : some a = found := by simpa [hc, Except.map] using h
          exact .given ((same' a).mp hc)
      · intro h
        cases h with
        | null => exact absurd rfl null
        | given holds => simp [(same' _).mpr holds, Except.map]

theorem position_check_iff {v : Value} {p : Position} :
    Position.check v = .ok p ↔ PositionForm Leniently v p := by
  unfold Position.check PositionForm
  simp only [bind_eq_ok, entries_eq_ok_iff, required_eq_ok_iff, natural_eq_ok_iff, pure,
    Except.pure, Except.ok.injEq]
  constructor
  · rintro ⟨es, rfl, line, ⟨l, first, hl⟩, character, ⟨c, second, hc⟩, rfl⟩
    exact ⟨es, l, c, rfl, first, hl, second, hc⟩
  · rintro ⟨es, l, c, rfl, first, hl, second, hc⟩
    exact ⟨es, rfl, p.line, ⟨l, first, hl⟩, p.character, ⟨c, second, hc⟩, rfl⟩

theorem range_check_iff {v : Value} {r : Range} :
    Range.check v = .ok r ↔ RangeForm Leniently v r := by
  unfold Range.check RangeForm
  simp only [bind_eq_ok, entries_eq_ok_iff, required_eq_ok_iff, position_check_iff]
  constructor
  · rintro ⟨es, rfl, start, ⟨a, first, ha⟩, stop, ⟨b, second, hb⟩, h⟩
    split at h
    · cases h
      exact ⟨es, a, b, rfl, first, ha, second, hb⟩
    · cases h
  · rintro ⟨es, a, b, rfl, first, ha, second, hb⟩
    exact ⟨es, rfl, r.start, ⟨a, first, ha⟩, r.stop, ⟨b, second, hb⟩,
      by simp [r.ordered, pure, Except.pure]⟩

theorem severity_check_iff {v : Value} {s : Severity} :
    Severity.check v = .ok s ↔ Leniently v s.number := by
  rw [← integer_eq_ok_iff]
  have numbered (n : Int) : Severity.ofNumber? n = some s ↔ n = s.number := by
    unfold Severity.ofNumber?
    constructor
    · intro h
      have := List.find?_some h
      simpa [eq_comm] using this
    · rintro rfl
      cases s <;> rfl
  unfold Severity.check
  cases integer v with
  | error m => simp [fail]
  | ok n =>
    rw [Except.ok.injEq, ← numbered]
    dsimp only
    generalize Severity.ofNumber? n = found
    cases found with
    | some s' => simp
    | none =>
      have other (d : Demand) : (fail d v : Checked Severity) ≠ .ok s := by rintro ⟨⟩
      refine iff_of_false ?_ (by simp)
      dsimp only
      split
      · exact other _
      · exact other _

theorem fix_check_iff {v : Value} {f : SuggestedFix} (json : OfJson v) :
    SuggestedFix.check v = .ok f ↔ FixForm Leniently v f := by
  unfold SuggestedFix.check FixForm
  simp only [bind_eq_ok, entries_eq_ok_iff, required_eq_ok_iff, range_check_iff, pure,
    Except.pure, Except.ok.injEq]
  constructor
  · rintro ⟨es, rfl, replacement, ⟨t, first, ht⟩, range, ⟨r, second, hr⟩, rfl⟩
    rw [text_eq_ok_iff (json.field? first)] at ht
    exact ⟨es, r, rfl, ht ▸ first, second, hr⟩
  · rintro ⟨es, r, rfl, first, second, hr⟩
    exact ⟨es, rfl, f.replacement, ⟨_, first, rfl⟩, f.range, ⟨r, second, hr⟩, rfl⟩

theorem field?_spelling (es : Value.Entries) (first second : String) :
    es.field? (spelling es first second) = either es first second := by
  unfold spelling either
  cases hf : es.field? first with
  | some v => simp [hf]
  | none =>
    cases hs : es.field? second with
    | some v => simp [hs]
    | none => simp [hf]

/-- A record is checked to be a violation exactly if it has the form of one, read leniently. -/
theorem violation_check_iff {es : Value.Entries} {w : Violation} (json : OfJson (.map es)) :
    Violation.check (.map es) = .ok w ↔ RecordForm Leniently es w := by
  have description (found : Option String) : defaulted es
      (spelling es "codeDescription" "code_description") none (nullable text) = .ok found ↔
      Optionally (fun v s => v = .text s) (either es "codeDescription" "code_description")
        found := by
    rw [← field?_spelling]
    exact defaulted_nullable_iff (fun v s hf => text_eq_ok_iff (json.field? hf)) (by simp)
  have tags (found : Option (List Int)) : defaulted es "tags" none (nullable (list integer)) =
      .ok found ↔ Optionally (TagsForm Leniently) (es.field? "tags") found :=
    defaulted_nullable_iff (fun v s hf => list_integer_eq_ok_iff (json.field? hf))
      (by rintro tags ⟨items, h, -⟩; cases h)
  have fixes (found : Option SuggestedFix) : defaulted es
      (spelling es "suggestedfix" "suggested_fix") none (nullable SuggestedFix.check) = .ok found ↔
      Optionally (FixForm Leniently) (either es "suggestedfix" "suggested_fix") found := by
    rw [← field?_spelling]
    exact defaulted_nullable_iff (fun v f hf => fix_check_iff (json.field? hf))
      (by rintro f ⟨es, range, h, -⟩; cases h)
  have texts (name s : String) : required es name text = .ok s ↔
      es.field? name = some (.text s) := by
    rw [required_eq_ok_iff]
    constructor
    · rintro ⟨v, hf, hv⟩
      rw [text_eq_ok_iff (json.field? hf)] at hv
      exact hv ▸ hf
    · exact fun hf => ⟨_, hf, rfl⟩
  unfold Violation.check
  simp only [bind_eq_ok, entries_eq_ok_iff, Value.map.injEq, exists_eq_left', texts, description,
    tags, fixes]
  simp only [required_eq_ok_iff, range_check_iff, severity_check_iff, pure, Except.pure,
    Except.ok.injEq]
  constructor
  · rintro ⟨range, hr, severity, hs, code, hc, source, hso, message, hm, d, hd, t, ht, f, hf, rfl⟩
    exact ⟨hr, hs, hc, hso, hm, hd, ht, hf⟩
  · rintro ⟨hr, hs, hc, hso, hm, hd, ht, hf⟩
    exact ⟨_, hr, _, hs, _, hc, _, hso, _, hm, _, hd, _, ht, _, hf, rfl⟩

/-- The value in a field of an object. -/
def Value.member? (v : Value) (name : String) : Option Value :=
  match v with
  | .map es => Value.Entries.field? es name
  | _ => none

/-- The values in the places of a position that ask for integers. -/
def positionNumbers (v : Value) : List Value :=
  (v.member? "line").toList ++ (v.member? "character").toList

def rangeNumbers (v : Value) : List Value :=
  (v.member? "start").toList.flatMap positionNumbers ++
    (v.member? "end").toList.flatMap positionNumbers

def fixNumbers (v : Value) : List Value := (v.member? "range").toList.flatMap rangeNumbers

def tagNumbers (v : Value) : List Value :=
  match v with
  | .list tags => tags
  | _ => []

/-- The values in the places of a record that ask for integers. -/
def recordNumbers (es : Value.Entries) : List Value :=
  (es.field? "range").toList.flatMap rangeNumbers ++ (es.field? "severity").toList ++
    (es.field? "tags").toList.flatMap tagNumbers ++
    (either es "suggestedfix" "suggested_fix").toList.flatMap fixNumbers

section

variable {reading : IntegerReading} {kind : Value → Prop}

/-- A reading that takes only values of a kind. -/
def Only (kind : Value → Prop) (reading : IntegerReading) : IntegerReading :=
  fun v n => reading v n ∧ kind v

theorem positionForm_only {v : Value} {p : Position} : PositionForm (Only kind reading) v p ↔
    PositionForm reading v p ∧ ∀ x ∈ positionNumbers v, kind x := by
  constructor
  · rintro ⟨es, l, c, rfl, first, ⟨hl, kl⟩, second, hc, kc⟩
    refine ⟨⟨es, l, c, rfl, first, hl, second, hc⟩, ?_⟩
    simp [positionNumbers, Value.member?, first, second, kl, kc]
  · rintro ⟨⟨es, l, c, rfl, first, hl, second, hc⟩, each⟩
    obtain ⟨kl, kc⟩ : kind l ∧ kind c := by
      simpa [positionNumbers, Value.member?, first, second] using each
    exact ⟨es, l, c, rfl, first, ⟨hl, kl⟩, second, hc, kc⟩

theorem rangeForm_only {v : Value} {r : Range} : RangeForm (Only kind reading) v r ↔
    RangeForm reading v r ∧ ∀ x ∈ rangeNumbers v, kind x := by
  have numbers {es : Value.Entries} {a b : Value} (first : es.field? "start" = some a)
      (second : es.field? "end" = some b) :
      rangeNumbers (.map es) = positionNumbers a ++ positionNumbers b := by
    simp [rangeNumbers, Value.member?, first, second]
  unfold RangeForm
  simp only [positionForm_only]
  constructor
  · rintro ⟨es, a, b, rfl, first, ⟨ha, ka⟩, second, hb, kb⟩
    refine ⟨⟨es, a, b, rfl, first, ha, second, hb⟩, ?_⟩
    rw [numbers first second]
    exact List.forall_mem_append.mpr ⟨ka, kb⟩
  · rintro ⟨⟨es, a, b, rfl, first, ha, second, hb⟩, each⟩
    rw [numbers first second] at each
    obtain ⟨ka, kb⟩ := List.forall_mem_append.mp each
    exact ⟨es, a, b, rfl, first, ⟨ha, ka⟩, second, hb, kb⟩

theorem fixForm_only {v : Value} {f : SuggestedFix} : FixForm (Only kind reading) v f ↔
    FixForm reading v f ∧ ∀ x ∈ fixNumbers v, kind x := by
  have numbers {es : Value.Entries} {r : Value} (there : es.field? "range" = some r) :
      fixNumbers (.map es) = rangeNumbers r := by
    simp [fixNumbers, Value.member?, there]
  unfold FixForm
  simp only [rangeForm_only]
  constructor
  · rintro ⟨es, r, rfl, first, second, hr, kr⟩
    exact ⟨⟨es, r, rfl, first, second, hr⟩, by rwa [numbers second]⟩
  · rintro ⟨⟨es, r, rfl, first, second, hr⟩, each⟩
    exact ⟨es, r, rfl, first, second, hr, by rwa [numbers second] at each⟩

theorem tagsForm_only {v : Value} {tags : List Int} : TagsForm (Only kind reading) v tags ↔
    TagsForm reading v tags ∧ ∀ x ∈ tagNumbers v, kind x := by
  have pairs (items : List Value) : List.Forall₂ (Only kind reading) items tags ↔
      List.Forall₂ reading items tags ∧ ∀ x ∈ items, kind x := by
    have swapped : Only kind reading = fun v n => kind v ∧ reading v n := by
      funext v n
      exact propext and_comm
    rw [swapped, List.forall₂_and_left]
    exact and_comm
  unfold TagsForm
  constructor
  · rintro ⟨items, rfl, each⟩
    obtain ⟨read, kinds⟩ := (pairs items).mp each
    exact ⟨⟨items, rfl, read⟩, kinds⟩
  · rintro ⟨⟨items, rfl, read⟩, kinds⟩
    exact ⟨items, rfl, (pairs items).mpr ⟨read, kinds⟩⟩

theorem optionally_only {α : Type} {form form' : Value → α → Prop} {numbers : Value → List Value}
    (same : ∀ v a, form' v a ↔ form v a ∧ ∀ x ∈ numbers v, kind x) (noNumbers : numbers .null = [])
    (place : Option Value) (found : Option α) : Optionally form' place found ↔
      Optionally form place found ∧ ∀ x ∈ place.toList.flatMap numbers, kind x := by
  constructor
  · rintro (_ | _ | holds)
    · exact ⟨.absent, by simp⟩
    · exact ⟨.null, by simp [noNumbers]⟩
    · obtain ⟨holds, kinds⟩ := (same _ _).mp holds
      exact ⟨.given holds, by simpa using kinds⟩
  · rintro ⟨_ | _ | holds, kinds⟩
    · exact .absent
    · exact .null
    · exact .given ((same _ _).mpr ⟨holds, by simpa using kinds⟩)

/-- A record has its form with integers of a kind if it has it with any and they are of the kind. -/
theorem recordForm_only {es : Value.Entries} {w : Violation} :
    RecordForm (Only kind reading) es w ↔
      RecordForm reading es w ∧ ∀ x ∈ recordNumbers es, kind x := by
  have tags := optionally_only
    (fun v tags => (tagsForm_only : TagsForm (Only kind reading) v tags ↔ _)) rfl
    (es.field? "tags") w.tags
  have fixes := optionally_only
    (fun v fix => (fixForm_only : FixForm (Only kind reading) v fix ↔ _)) rfl
    (either es "suggestedfix" "suggested_fix") w.suggestedFix
  unfold recordNumbers
  simp only [List.forall_mem_append]
  constructor
  · rintro ⟨⟨r, there, hr⟩, ⟨s, there', hs, ks⟩, hc, hso, hm, hd, ht, hf⟩
    obtain ⟨hr, kr⟩ := rangeForm_only.mp hr
    obtain ⟨ht, kt⟩ := tags.mp ht
    obtain ⟨hf, kf⟩ := fixes.mp hf
    exact ⟨⟨⟨r, there, hr⟩, ⟨s, there', hs⟩, hc, hso, hm, hd, ht, hf⟩,
      ⟨⟨by simpa [there] using kr, by simpa [there'] using ks⟩, kt⟩, kf⟩
  · rintro ⟨⟨⟨r, there, hr⟩, ⟨s, there', hs⟩, hc, hso, hm, hd, ht, hf⟩, ⟨⟨kr, ks⟩, kt⟩, kf⟩
    exact ⟨⟨r, there, rangeForm_only.mpr ⟨hr, by simpa [there] using kr⟩⟩,
      ⟨s, there', hs, by simpa [there'] using ks⟩, hc, hso, hm, hd, tags.mpr ⟨ht, kt⟩,
      fixes.mpr ⟨hf, kf⟩⟩

end

/-- A record of an array with the violation that it stands for. -/
def Recorded (reading : IntegerReading) (item : Value) (w : Violation) : Prop :=
  ∃ es, item = .map es ∧ RecordForm reading es w

theorem recorded_iff {item : Value} {w : Violation} (json : OfJson item) :
    Violation.check item = .ok w ↔ Recorded Leniently item w := by
  constructor
  · intro h
    have checked := h
    rw [Violation.check, bind_eq_ok] at h
    obtain ⟨es, record, -⟩ := h
    obtain rfl := entries_eq_ok_iff.mp record
    exact ⟨es, rfl, (violation_check_iff json).mp checked⟩
  · rintro ⟨es, rfl, form⟩
    exact (violation_check_iff json).mpr form

theorem recorded_exactly_iff {item : Value} {w : Violation} :
    Recorded Exactly item w ↔ Recorded Leniently item w ∧
      ∀ es, item = .map es → ∀ x ∈ recordNumbers es, ∃ k, x = .int k := by
  have strict : Exactly = Only (fun v => ∃ k, v = .int k) Leniently := by
    funext v n
    exact propext exactly_iff
  unfold Recorded
  rw [strict]
  simp only [recordForm_only]
  constructor
  · rintro ⟨es, rfl, form, integers⟩
    refine ⟨⟨es, rfl, form⟩, ?_⟩
    rintro es' ⟨⟩
    exact integers
  · rintro ⟨⟨es, rfl, form⟩, integers⟩
    exact ⟨es, rfl, form, integers es rfl⟩

theorem forall₂_recorded_exactly_iff {items : List Value} {vs : List Violation} :
    List.Forall₂ (Recorded Exactly) items vs ↔ List.Forall₂ (Recorded Leniently) items vs ∧
      ∀ es, .map es ∈ items → ∀ x ∈ recordNumbers es, ∃ k, x = .int k := by
  have parted : Recorded Exactly = fun item w =>
      (∀ es, item = .map es → ∀ x ∈ recordNumbers es, ∃ k, x = .int k) ∧
        Recorded Leniently item w := by
    funext item w
    exact propext (recorded_exactly_iff.trans and_comm)
  rw [parted, List.forall₂_and_left, and_comm]
  refine and_congr_right fun _ => ⟨?_, ?_⟩
  · exact fun each es mem => each _ mem es rfl
  · rintro each item mem es rfl
    exact each es mem

namespace Batch

theorem reads_iff_recorded {text : String} {items : List Value} {vs : List Violation}
    (decoded : Json.decode text = .ok (.list items)) :
    Reads items vs ↔ List.Forall₂ (Recorded Leniently) items vs := by
  have each : ∀ item ∈ items, OfJson item := by
    cases ofJson_of_decode decoded with
    | list each => exact each
  unfold Reads
  clear decoded
  induction items generalizing vs with
  | nil => cases vs <;> simp
  | cons item items ih =>
    obtain ⟨first, others⟩ := List.forall_mem_cons.mp each
    cases vs with
    | nil => simp
    | cons v vs =>
      rw [List.forall₂_cons, List.forall₂_cons]
      exact and_congr (recorded_iff first) (ih others)

/-- An array is accepted if each element is a record with the form of a violation whose integers are
read leniently, and is refused as a malformed violation otherwise. All elements have that form with
JSON integers exactly if the array is accepted and JSON integers stand in all places of integers. -/
theorem parse_eq_ok_iff_lenient {text : String} {items : List Value}
    (decoded : Json.decode text = .ok (.list items)) :
    (∀ vs, parse text = .ok vs ↔ List.Forall₂ (Recorded Leniently) items vs) ∧
    ((¬ ∃ vs, List.Forall₂ (Recorded Leniently) items vs) →
      ∃ (index : Nat) (m : Schema.Mismatch),
        RefusedFor text (.malformedViolation (some index) m.describe) 2101) ∧
    ∀ vs, List.Forall₂ (Recorded Exactly) items vs ↔
      parse text = .ok vs ∧ ∀ es, .map es ∈ items → ∀ x ∈ recordNumbers es, ∃ k, x = .int k := by
  have accepted (vs : List Violation) :
      parse text = .ok vs ↔ List.Forall₂ (Recorded Leniently) items vs := by
    rw [parse_eq_ok_iff_reads decoded, reads_iff_recorded decoded]
  refine ⟨accepted, ?_, ?_⟩
  · intro formless
    have invalid : ¬ ∀ item ∈ items, Valid item := by
      rw [← exists_reads_iff]
      simpa only [reads_iff_recorded decoded] using formless
    obtain ⟨index, m, -, refused⟩ := refused_of_invalid decoded invalid
    exact ⟨index, m, refused⟩
  · intro vs
    rw [accepted, forall₂_recorded_exactly_iff]

/-- A batch of one warning whose line is the text of an integer. -/
def spelledText : List Char :=
  "[\x7b\"range\":\x7b\"start\":\x7b\"line\":\"1\",\"character\":0\x7d".toList ++
    ",\"end\":\x7b\"line\":1,\"character\":0\x7d\x7d".toList ++
    ",\"severity\":2,\"code\":\"c\",\"source\":\"l\",\"message\":\"m\"\x7d]".toList

def spelledWarning : Violation :=
  ⟨⟨⟨⟨1, 0⟩, ⟨1, 0⟩⟩, by decide⟩, .warning, "c", "l", "m", none, none, none⟩

def isText (v : Value) : Bool :=
  match v with
  | .text _ => true
  | _ => false

/-- Does a text hold one record with a text in the place of an integer, and is it a violation? -/
def misspells (text : List Char) (w : Violation) : Bool :=
  match Json.document text with
  | .ok (.list [.map es]) =>
    (recordNumbers es).any isText && ((records 0 [.map es]).toOption == some [w])
  | _ => false

theorem of_misspells {text : List Char} {w : Violation} (h : misspells text w = true) :
    ∃ es, Json.decode (String.ofList text) = .ok (.list [.map es]) ∧
      parse (String.ofList text) = .ok [w] ∧ ∃ s, .text s ∈ recordNumbers es := by
  unfold misspells at h
  split at h
  next es document =>
    obtain ⟨held, read⟩ := Bool.and_eq_true_iff.mp h
    have decoded : Json.decode (String.ofList text) = .ok (.list [.map es]) := by
      rw [Json.decode, String.toList_ofList, document]
      rfl
    refine ⟨es, decoded, ?_, ?_⟩
    · cases hr : records 0 [.map es] with
      | error f => simp [hr, Except.toOption] at read
      | ok vs =>
        obtain rfl : vs = [w] := by simpa [hr, Except.toOption] using read
        simp only [parse, decoded, hr]
        rfl
    · obtain ⟨v, mem, isText⟩ := List.any_eq_true.mp held
      cases v with
      | text s => exact ⟨s, mem⟩
      | _ => cases isText
  next => cases h

theorem misspells_spelledText : misspells spelledText spelledWarning = true := by decide +kernel

theorem spelledText_recorded :
    ∃ es, Json.decode (String.ofList spelledText) = .ok (.list [.map es]) ∧
      List.Forall₂ (Recorded Leniently) [.map es] [spelledWarning] := by
  obtain ⟨es, decoded, parsed, -⟩ := of_misspells misspells_spelledText
  exact ⟨es, decoded, ((parse_eq_ok_iff_lenient decoded).1 _).mp parsed⟩

/-- The text of an integer is accepted in the place of a line. -/
theorem numeral_accepted :
    ∃ es, Json.decode (String.ofList spelledText) = .ok (.list [.map es]) ∧
      parse (String.ofList spelledText) = .ok [spelledWarning] ∧
      ∀ vs, ¬ List.Forall₂ (Recorded Exactly) [.map es] vs := by
  obtain ⟨es, decoded, parsed, s, mem⟩ := of_misspells misspells_spelledText
  refine ⟨es, decoded, parsed, fun vs strict => ?_⟩
  obtain ⟨-, integers⟩ := forall₂_recorded_exactly_iff.mp strict
  obtain ⟨k, hk⟩ := integers es (by simp) _ mem
  cases hk

end Batch

end LintBridge
