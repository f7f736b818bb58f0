import Mathlib
import LintBridge.Proofs.Batches
import LintBridge.Proofs.JsonDocuments
/-!
Keys that no part of a record asks for. Every part reads its fields by name, so two batches whose
parts differ in such keys alone, whatever their values, are read alike: they give the same
violations or are refused with the same words (`Batch.parse_foreign_keys`). A record asks for more
than the documented names: the description of its code and its fix have a second name each, which
counts where the first is missing.
-/
namespace LintBridge

open Schema

theorem field?_put_same (es : Value.Entries) (name : String) (v : Value) :
    (es.put (.text name) v).field? name = some v := by
  rw [Value.Entries.field?, Value.Entries.get?_put, if_pos (Value.sameKey_refl _)]

theorem field?_put_other {es : Value.Entries} {name other : String} (v : Value)
    (apart : other ≠ name) : (es.put (.text name) v).field? other = es.field? other := by
  rw [Value.Entries.field?, Value.Entries.get?_put, if_neg]
  · rfl
  · simp [Value.sameKey, apart.symm]

/-- The objects that a record is made of. -/
inductive Part where
  | record | range | position | fix
  deriving DecidableEq, Repr

namespace Part

/-- The names that a part is documented to have. -/
def names : Part → List String
  | record => ["range", "severity", "code", "source", "message", "codeDescription", "tags",
      "suggestedfix"]
  | range => ["start", "end"]
  | position => ["line", "character"]
  | fix => ["fix", "range"]

/-- The part that stands under a name of another. -/
def under? : Part → String → Option Part
  | record, "range" => some range
  | record, "suggestedfix" => some fix
  | record, "suggested_fix" => some fix
  | range, "start" => some position
  | range, "end" => some position
  | fix, "range" => some range
  | _, _ => none

/-- The fields that go by a second name as well. -/
def seconds : Part → List (String × String)
  | record => [("codeDescription", "code_description"), ("suggestedfix", "suggested_fix")]
  | _ => []

/-- The keys that are looked up in a part: its names, and the second name of a field that it does
not have under the first. -/
def Asks (part : Part) (es : Value.Entries) (key : String) : Prop :=
  key ∈ part.names ∨ ∃ first, (first, key) ∈ part.seconds ∧ es.field? first = none

theorem asks_name {part : Part} {key : String} (documented : key ∈ part.names)
    (es : Value.Entries) : part.Asks es key := .inl documented

theorem asks_second {part : Part} {first key : String} (pair : (first, key) ∈ part.seconds)
    {es : Value.Entries} (unnamed : es.field? first = none) : part.Asks es key :=
  .inr ⟨first, pair, unnamed⟩

/-- Two values of a part that differ in a single key, for which neither of them nor any part inside
them asks: one of them has the key and the other does not, or they have it with two values. -/
inductive Varies : Part → Value → Value → Prop where
  | here {part : Part} {es es' : Value.Entries} {key : String} (foreign : ¬ part.Asks es key)
    (others : ∀ other, other ≠ key → es'.field? other = es.field? other) :
    Varies part (.map es) (.map es')
  | inside {part inner : Part} {es es' : Value.Entries} {name : String} {v v' : Value}
    (place : part.under? name = some inner) (first : es.field? name = some v)
    (second : es'.field? name = some v') (varies : Varies inner v v')
    (others : ∀ other, other ≠ name → es'.field? other = es.field? other) :
    Varies part (.map es) (.map es')

variable {part : Part} {es es' : Value.Entries} {v v' : Value}

/-- Writing a key that is not asked for. -/
theorem varies_put {key : String} (foreign : ¬ part.Asks es key) (value : Value) :
    part.Varies (.map es) (.map (es.put (.text key) value)) :=
  .here foreign fun _ apart => field?_put_other value apart

/-- Writing a key further inside. -/
theorem varies_put_inside {inner : Part} {name : String} (place : part.under? name = some inner)
    (first : es.field? name = some v) (varies : inner.Varies v v') :
    part.Varies (.map es) (.map (es.put (.text name) v')) :=
  .inside place first (field?_put_same es name v') varies fun _ apart => field?_put_other v' apart

/-- A field of two parts: neither has it, or its values are equal or vary themselves. -/
def Keeps (part : Part) (es es' : Value.Entries) (name : String) : Prop :=
  Option.Rel (fun v v' => v = v' ∨ ∃ inner, part.under? name = some inner ∧ inner.Varies v v')
    (es.field? name) (es'.field? name)

theorem keeps_of_eq {name : String} (same : es'.field? name = es.field? name) :
    part.Keeps es es' name := by
  unfold Keeps
  rw [same]
  cases es.field? name with
  | none => exact .none
  | some w => exact .some (.inl rfl)

/-- A part that varies keeps every field that it asks for. -/
theorem Varies.keeps (h : part.Varies v v') : ∃ es es', v = .map es ∧ v' = .map es' ∧
    ∀ name, part.Asks es name → part.Keeps es es' name := by
  cases h with
  | @here _ es es' key foreign others =>
    refine ⟨es, es', rfl, rfl, fun name asks => keeps_of_eq (others name ?_)⟩
    rintro rfl
    exact foreign asks
  | @inside _ inner es es' key w w' place first second varies others =>
    refine ⟨es, es', rfl, rfl, fun name _ => ?_⟩
    by_cases there : name = key
    · subst there
      unfold Keeps
      rw [first, second]
      exact .some (.inr ⟨inner, place, varies⟩)
    · exact keeps_of_eq (others name there)

theorem Keeps.isSome_eq {name : String} (keeps : part.Keeps es es' name) :
    (es'.field? name).isSome = (es.field? name).isSome := by
  unfold Keeps at keeps
  cases hv : es.field? name <;> cases hv' : es'.field? name <;> simp_all

/-- The name under which a field is looked up stays if the first name does, and so does the second
where the first is missing. -/
theorem spelling_eq {first second : String} (one : part.Keeps es es' first)
    (two : es.field? first = none → part.Keeps es es' second) :
    spelling es' first second = spelling es first second := by
  unfold spelling
  rw [one.isSome_eq]
  cases hf : es.field? first with
  | some w => rfl
  | none => rw [← Option.not_isSome, (two hf).isSome_eq, Option.not_isSome]

end Part

/-- The way to the value that does not meet a demand, and the demand, without the value. -/
def Schema.Mismatch.outline (m : Mismatch) : List String × Demand := (m.path, m.demand)

/-- Two checks that give the same, or fail alike. -/
def CheckedAlike {α : Type} (c c' : Checked α) : Prop :=
  c.mapError Mismatch.outline = c'.mapError Mismatch.outline

namespace CheckedAlike

variable {α β : Type} {c c' c'' : Checked α}

theorem refl (c : Checked α) : CheckedAlike c c := rfl

theorem trans (h : CheckedAlike c c') (h' : CheckedAlike c' c'') : CheckedAlike c c'' :=
  Eq.trans h h'

theorem cases (h : CheckedAlike c c') : (∃ a, c = .ok a ∧ c' = .ok a) ∨
    ∃ m m', c = .error m ∧ c' = .error m' ∧ m.outline = m'.outline := by
  unfold CheckedAlike at h
  cases c <;> cases c' <;> simp_all

theorem fail (demand : Demand) (v v' : Value) :
    CheckedAlike (Schema.fail demand v : Checked α) (Schema.fail demand v') := rfl

theorem error {m m' : Mismatch} (same : m.outline = m'.outline) :
    CheckedAlike (.error m : Checked α) (.error m') := by
  simp [CheckedAlike, same]

theorem bind {f f' : α → Checked β} (h : CheckedAlike c c')
    (next : ∀ a, CheckedAlike (f a) (f' a)) : CheckedAlike (c >>= f) (c' >>= f') := by
  obtain ⟨a, rfl, rfl⟩ | ⟨m, m', rfl, rfl, same⟩ := h.cases
  · exact next a
  · exact error same

theorem map (f : α → β) (h : CheckedAlike c c') : CheckedAlike (c.map f) (c'.map f) := by
  obtain ⟨a, rfl, rfl⟩ | ⟨m, m', rfl, rfl, same⟩ := h.cases
  · exact refl _
  · exact error same

theorem inside (step : String) (h : CheckedAlike c c') :
    CheckedAlike (Schema.inside step c) (Schema.inside step c') := by
  obtain ⟨a, rfl, rfl⟩ | ⟨m, m', rfl, rfl, same⟩ := h.cases
  · exact refl _
  · obtain ⟨path, demand⟩ := Prod.mk.inj same
    refine error ?_
    simp [Mismatch.outline, Mismatch.under, path, demand]

/-- A mismatch is described by its outline. -/
theorem describe_eq {m m' : Mismatch} (same : m.outline = m'.outline) :
    m.describe = m'.describe := by
  obtain ⟨path, demand⟩ := Prod.mk.inj same
  simp [Mismatch.describe, Mismatch.location, path, demand]

end CheckedAlike

/-- Two objects without a field, or with values there that are checked alike. -/
def AlikeAt {α : Type} (check : Value → Checked α) (es es' : Value.Entries) (name : String) :
    Prop :=
  Option.Rel (fun v v' => CheckedAlike (check v) (check v')) (es.field? name) (es'.field? name)

section

variable {α : Type} {es es' : Value.Entries} {name : String} {check : Value → Checked α}

theorem entries_alike {model : String} {f f' : Value.Entries → Checked α}
    (h : CheckedAlike (f es) (f' es')) :
    CheckedAlike (entries model (.map es) >>= f) (entries model (.map es') >>= f') := h

theorem required_alike (same : AlikeAt check es es' name) :
    CheckedAlike (required es name check) (required es' name check) := by
  unfold AlikeAt at same
  unfold required
  cases hv : es.field? name <;> cases hv' : es'.field? name <;> rw [hv, hv'] at same <;> cases same
  · exact (CheckedAlike.fail _ _ _).inside name
  · next alike => exact alike.inside name

theorem defaulted_alike {default : α} (same : AlikeAt check es es' name) :
    CheckedAlike (defaulted es name default check) (defaulted es' name default check) := by
  unfold AlikeAt at same
  unfold defaulted
  cases hv : es.field? name <;> cases hv' : es'.field? name <;> rw [hv, hv'] at same <;> cases same
  · exact CheckedAlike.refl _
  · next alike => exact alike.inside name

end

namespace Part

variable {α : Type} {part : Part} {es es' : Value.Entries} {name : String} {v v' : Value}
  {check : Value → Checked α}

/-- A field that is kept is checked alike if every part that may stand there is. -/
theorem Keeps.alikeAt (keeps : part.Keeps es es' name)
    (alike : ∀ inner, part.under? name = some inner → ∀ w w', inner.Varies w w' →
      CheckedAlike (check w) (check w')) : AlikeAt check es es' name := by
  unfold Keeps at keeps
  unfold AlikeAt
  cases hv : es.field? name <;> cases hv' : es'.field? name <;> rw [hv, hv'] at keeps <;>
    cases keeps
  · exact .none
  · next w w' kept =>
    refine .some ?_
    obtain rfl | ⟨inner, place, varies⟩ := kept
    · exact .refl _
    · exact alike inner place w w' varies

/-- A field in which a part stands. -/
theorem Keeps.nested {inner : Part} (keeps : part.Keeps es es' name)
    (place : part.under? name = some inner)
    (alike : ∀ {w w'}, inner.Varies w w' → CheckedAlike (check w) (check w')) :
    AlikeAt check es es' name :=
  keeps.alikeAt fun inner' place' w w' varies => by
    cases place.symm.trans place'
    exact alike varies

/-- A field in which no part stands. -/
theorem Keeps.leaf (keeps : part.Keeps es es' name) (place : part.under? name = none) :
    AlikeAt check es es' name :=
  keeps.alikeAt fun inner place' => by
    cases place.symm.trans place'

theorem Varies.position_alike (h : position.Varies v v') :
    CheckedAlike (Position.check v) (Position.check v') := by
  obtain ⟨es, es', rfl, rfl, keeps⟩ := h.keeps
  have line : AlikeAt natural es es' "line" := (keeps "line" (asks_name (by decide) _)).leaf rfl
  have character : AlikeAt natural es es' "character" :=
    (keeps "character" (asks_name (by decide) _)).leaf rfl
  refine entries_alike (CheckedAlike.bind (required_alike line) fun line => ?_)
  exact CheckedAlike.bind (required_alike character) fun character => .refl _

theorem Varies.range_alike (h : range.Varies v v') :
    CheckedAlike (Range.check v) (Range.check v') := by
  obtain ⟨es, es', rfl, rfl, keeps⟩ := h.keeps
  have start : AlikeAt Position.check es es' "start" :=
    (keeps "start" (asks_name (by decide) _)).nested rfl position_alike
  have stop : AlikeAt Position.check es es' "end" :=
    (keeps "end" (asks_name (by decide) _)).nested rfl position_alike
  refine entries_alike (CheckedAlike.bind (required_alike start) fun start => ?_)
  refine CheckedAlike.bind (required_alike stop) fun stop => ?_
  split
  · exact .refl _
  · exact .fail _ _ _

theorem Varies.fix_alike (h : fix.Varies v v') :
    CheckedAlike (SuggestedFix.check v) (SuggestedFix.check v') := by
  obtain ⟨es, es', rfl, rfl, keeps⟩ := h.keeps
  have replacement : AlikeAt text es es' "fix" := (keeps "fix" (asks_name (by decide) _)).leaf rfl
  have range : AlikeAt Range.check es es' "range" :=
    (keeps "range" (asks_name (by decide) _)).nested rfl range_alike
  refine entries_alike (CheckedAlike.bind (required_alike replacement) fun replacement => ?_)
  exact CheckedAlike.bind (required_alike range) fun range => .refl _

/-- A field that goes by two names is looked up under the same one, and checked alike there. -/
theorem spelled_alike {default : α} {first second : String}
    (keeps : ∀ name, part.Asks es name → part.Keeps es es' name) (documented : first ∈ part.names)
    (pair : (first, second) ∈ part.seconds)
    (alike : ∀ name, name = first ∨ name = second → part.Keeps es es' name →
      AlikeAt check es es' name) :
    CheckedAlike (defaulted es (spelling es first second) default check)
      (defaulted es' (spelling es' first second) default check) := by
  rw [spelling_eq (keeps first (asks_name documented _)) fun unnamed =>
    keeps second (asks_second pair unnamed)]
  refine defaulted_alike ?_
  unfold spelling
  split
  next => exact alike first (.inl rfl) (keeps first (asks_name documented _))
  next missing =>
    have unnamed : es.field? first = none := by
      cases hf : es.field? first with
      | none => rfl
      | some w => simp [hf] at missing
    exact alike second (.inr rfl) (keeps second (asks_second pair unnamed))

theorem Varies.record_alike (h : record.Varies v v') :
    CheckedAlike (Violation.check v) (Violation.check v') := by
  obtain ⟨es, es', rfl, rfl, keeps⟩ := h.keeps
  have leaf {α : Type} (check : Value → Checked α) (name : String)
      (documented : name ∈ record.names) (place : record.under? name = none) :
      AlikeAt check es es' name :=
    (keeps name (asks_name documented _)).leaf place
  have range : AlikeAt Range.check es es' "range" :=
    (keeps "range" (asks_name (by decide) _)).nested rfl range_alike
  have nullable_fix {w w' : Value} (varies : fix.Varies w w') :
      CheckedAlike (nullable SuggestedFix.check w) (nullable SuggestedFix.check w') := by
    have checked := varies.fix_alike
    obtain ⟨fs, fs', rfl, rfl, -⟩ := varies.keeps
    exact checked.map some
  have description : CheckedAlike
      (defaulted es (spelling es "codeDescription" "code_description") none (nullable text))
      (defaulted es' (spelling es' "codeDescription" "code_description") none (nullable text)) := by
    refine spelled_alike keeps (by decide) (by decide) ?_
    rintro name (rfl | rfl) kept
    · exact kept.leaf rfl
    · exact kept.leaf rfl
  have fixes : CheckedAlike
      (defaulted es (spelling es "suggestedfix" "suggested_fix") none (nullable SuggestedFix.check))
      (defaulted es' (spelling es' "suggestedfix" "suggested_fix") none
        (nullable SuggestedFix.check)) := by
    refine spelled_alike keeps (by decide) (by decide) ?_
    rintro name (rfl | rfl) kept
    · exact kept.nested rfl nullable_fix
    · exact kept.nested rfl nullable_fix
  refine entries_alike (CheckedAlike.bind (required_alike range) fun range => ?_)
  refine CheckedAlike.bind (required_alike (leaf _ "severity" (by decide) rfl)) fun severity => ?_
  refine CheckedAlike.bind (required_alike (leaf _ "code" (by decide) rfl)) fun code => ?_
  refine CheckedAlike.bind (required_alike (leaf _ "source" (by decide) rfl)) fun source => ?_
  refine CheckedAlike.bind (required_alike (leaf _ "message" (by decide) rfl)) fun message => ?_
  refine CheckedAlike.bind description fun description => ?_
  refine CheckedAlike.bind (defaulted_alike (leaf _ "tags" (by decide) rfl)) fun tags => ?_
  exact CheckedAlike.bind fixes fun fix => .refl _

end Part

/-- Differing in any number of keys, one after the other. -/
theorem Part.alike_of_varied {item item' : Value}
    (varied : Relation.ReflTransGen Part.record.Varies item item') :
    CheckedAlike (Violation.check item) (Violation.check item') := by
  induction varied with
  | refl => exact .refl _
  | tail _ varies alike => exact alike.trans varies.record_alike

namespace Batch

/-- Arrays whose records are checked alike give the same violations, or are refused for the same
record with the same words. -/
theorem records_eq_of_alike {items items' : List Value}
    (alike : List.Forall₂
      (fun item item' => CheckedAlike (Violation.check item) (Violation.check item')) items items')
    (index : Nat) : records index items' = records index items := by
  induction alike generalizing index with
  | nil => rfl
  | cons first _ ih =>
    obtain ⟨v, checked, checked'⟩ | ⟨m, m', checked, checked', same⟩ := first.cases
    · simp only [records, checked, checked', ih]
    · simp only [records, checked, checked', CheckedAlike.describe_eq same]

/-- Whatever keys are added to the parts of records, or taken away, or given other values, the batch
is read as before, as long as the records do not ask for them: the violations are the same, or the
same record is refused. -/
theorem parse_foreign_keys {text text' : String} {items items' : List Value}
    (decoded : Json.decode text = .ok (.list items))
    (decoded' : Json.decode text' = .ok (.list items'))
    (varied : List.Forall₂ (Relation.ReflTransGen Part.record.Varies) items items') :
    parse text' = parse text := by
  have alike := varied.imp fun _ _ => Part.alike_of_varied
  simp only [parse, decoded, decoded', records_eq_of_alike alike]

/-- The text of an array with a single record. -/
def recordText (record : Value) : String := Json.render none 0 (.list [record]) ++ "\n"

theorem decode_recordText {record : Value} (written : Json.Written record) :
    Json.decode (recordText record) = .ok (.list [record]) :=
  Json.decode_written (.list (by simpa using written))

/-- The first position of a document, with other keys. -/
def samplePosition (others : List (String × Value)) : Value :=
  .record ([("line", .int 0), ("character", .int 0)] ++ others)

/-- A warning with other keys, and a fix with other keys at the end of its range. -/
def sampleRecord (others inside : List (String × Value)) : Value :=
  .record ([("range", .record [("start", samplePosition []), ("end", samplePosition [])]),
    ("severity", .int 2), ("code", .text "c"), ("source", .text "l"), ("message", .text "m"),
    ("suggestedfix", .record [("fix", .text "x"),
      ("range", .record [("start", samplePosition []), ("end", samplePosition inside)])])] ++
    others)

theorem written_samplePosition {others : List (String × Value)}
    (each : ∀ e ∈ others, Json.Written e.2)
    (apart : (["line", "character"] ++ others.map Prod.fst).Nodup) :
    Json.Written (samplePosition others) := by
  have zero : Json.Written (.int 0) :=
    .int (Json.short_of_lt (k := 1) (by decide) (by decide) (by decide))
  refine .record ?_ (by simpa using apart)
  rw [List.forall_mem_append]
  exact ⟨by simpa using zero, each⟩

theorem written_sampleRecord {others inside : List (String × Value)}
    (each : ∀ e ∈ others ++ inside, Json.Written e.2)
    (apart : (["range", "severity", "code", "source", "message", "suggestedfix"] ++
      others.map Prod.fst).Nodup)
    (apart' : (["line", "character"] ++ inside.map Prod.fst).Nodup) :
    Json.Written (sampleRecord others inside) := by
  rw [List.forall_mem_append] at each
  have range {inside : List (String × Value)} (stop : Json.Written (samplePosition inside)) :
      Json.Written (.record [("start", samplePosition []), ("end", samplePosition inside)]) := by
    have start : Json.Written (samplePosition []) := written_samplePosition (by simp) (by simp)
    refine .record ?_ (by simp)
    simpa using ⟨start, stop⟩
  have severity : Json.Written (.int 2) :=
    .int (Json.short_of_lt (k := 1) (by decide) (by decide) (by decide))
  have fix : Json.Written (.record [("fix", .text "x"),
      ("range", .record [("start", samplePosition []), ("end", samplePosition inside)])]) := by
    refine .record ?_ (by simp)
    simpa using ⟨.text "x", range (written_samplePosition each.2 apart')⟩
  refine .record ?_ (by simpa using apart)
  simp only [List.forall_mem_append, List.forall_mem_cons]
  exact ⟨⟨range (written_samplePosition (by simp) (by simp)), severity, .text _, .text _, .text _,
    fix, by simp⟩, each.1⟩

/-- A second name beside the first and a key at the end of the fix leave the batch as it was. -/
theorem sample_foreign_keys :
    let named : List (String × Value) := [("codeDescription", .text "u")]
    let before := sampleRecord named []
    let after := sampleRecord (named ++ [("code_description", .text "v")]) [("z", .bool true)]
    Json.decode (recordText before) = .ok (.list [before]) ∧
      Json.decode (recordText after) = .ok (.list [after]) ∧
      List.Forall₂ (Relation.ReflTransGen Part.record.Varies) [before] [after] ∧
      parse (recordText after) = parse (recordText before) := by
  intro named before after
  have decoded : Json.decode (recordText before) = .ok (.list [before]) :=
    decode_recordText (written_sampleRecord (by simpa [named] using .text _) (by simp [named])
      (by simp))
  have decoded' : Json.decode (recordText after) = .ok (.list [after]) :=
    decode_recordText (written_sampleRecord
      (by simpa [named] using ⟨.text _, .text _, .bool _⟩) (by simp [named]) (by simp))
  have second : Part.record.Varies before
      (sampleRecord (named ++ [("code_description", .text "v")]) []) := by
    refine @Part.varies_put .record _ "code_description" ?_ (.text "v")
    rintro (documented | ⟨first, pair, unnamed⟩)
    · exact absurd documented (by decide)
    · obtain rfl : first = "codeDescription" := by simpa [Part.seconds] using pair
      exact Option.some_ne_none _ unnamed
  have inside : Part.record.Varies
      (sampleRecord (named ++ [("code_description", .text "v")]) []) after := by
    refine Part.varies_put_inside (rfl : Part.record.under? "suggestedfix" = some .fix) rfl ?_
    refine Part.varies_put_inside (rfl : Part.fix.under? "range" = some .range) rfl ?_
    refine Part.varies_put_inside (rfl : Part.range.under? "end" = some .position) rfl ?_
    exact @Part.varies_put .position _ "z" (by simp [Part.Asks, Part.names, Part.seconds])
      (.bool true)
  have varied : List.Forall₂ (Relation.ReflTransGen Part.record.Varies) [before] [after] :=
    .cons (.tail (.single second) inside) .nil
  exact ⟨decoded, decoded', varied, parse_foreign_keys decoded decoded' varied⟩

/-- A field under a name of its own is written behind the others. -/
theorem record_put {fields : List (String × Value)} {key : String}
    (fresh : key ∉ fields.map Prod.fst) (v : Value) : ∃ es : Value.Entries,
      Value.record fields = .map es ∧
        Value.record (fields ++ [(key, v)]) = .map (es.put (.text key) v) := by
  refine ⟨_, rfl, ?_⟩
  rw [Json.put_fresh, Value.record, List.map_append, List.map_singleton]
  rw [List.forall_mem_map]
  intro e mem
  simpa [Value.sameKey] using ne_of_mem_of_not_mem (List.mem_map_of_mem mem) fresh

/-- The second name of a field is no documented name, but it counts where the first is missing. -/
theorem second_name_counts :
    let before := sampleRecord [] []
    let after := sampleRecord [("code_description", .text "u")] []
    (∀ part : Part, "code_description" ∉ part.names) ∧
      (∃ es : Value.Entries, before = .map es ∧
        after = .map (es.put (.text "code_description") (.text "u"))) ∧
      Json.decode (recordText before) = .ok (.list [before]) ∧
      Json.decode (recordText after) = .ok (.list [after]) ∧
      (parse (recordText before)).map (List.map Violation.codeDescription) = .ok [none] ∧
      (parse (recordText after)).map (List.map Violation.codeDescription) = .ok [some "u"] := by
  intro before after
  have decoded : Json.decode (recordText before) = .ok (.list [before]) :=
    decode_recordText (written_sampleRecord (by simp) (by simp) (by simp))
  have decoded' : Json.decode (recordText after) = .ok (.list [after]) :=
    decode_recordText (written_sampleRecord (by simpa using .text _) (by simp) (by simp))
  have added : ∃ es : Value.Entries, before = .map es ∧
      after = .map (es.put (.text "code_description") (.text "u")) :=
    record_put (by decide) _
  refine ⟨by rintro (_ | _) <;> decide, added, decoded, decoded', ?_, ?_⟩
  · rw [parse, decoded]
    rfl
  · rw [parse, decoded']
    rfl

end Batch
end LintBridge
