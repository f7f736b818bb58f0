import LintBridge.Config.RuntimeState
import LintBridge.Proofs.MappingTokens
/-!
The record of a discovered linter as the text of its file. Whatever texts the record holds, what
is written of it is read back as the same record, also through the octets of the file.
-/
namespace LintBridge

theorem octets_loop (bs : ByteArray) (i : Nat) (acc : List UInt8) :
    ByteArray.toList.loop bs i acc = acc.reverse ++ bs.data.toList.drop i := by
  fun_induction ByteArray.toList.loop bs i acc with
  | case1 i acc inside ih =>
    have inside' : i < bs.data.toList.length := by simpa using inside
    have octet : bs.get! i = bs.data.toList[i] := by
      simp only [ByteArray.get!, Array.getElem_toList]
      exact getElem!_pos bs.data i (by simpa using inside)
    rw [ih, List.drop_eq_getElem_cons inside', octet]
    simp
  | case2 i acc outside =>
    have outside' : bs.data.toList.length ≤ i := by simpa using outside
    rw [List.drop_eq_nil_of_le outside', List.append_nil]

theorem Text.Utf8.encode_ofList (s : List Char) :
    encode (String.ofList s) = s.flatMap String.utf8EncodeChar := by
  rw [encode, String.toUTF8, String.toByteArray_ofList, ByteArray.toList, octets_loop,
    List.utf8Encode, List.data_toByteArray]
  rfl

/-- ASCII text has one octet for each character. -/
theorem encode_ascii {s : List Char} (ascii : ∀ c ∈ s, c.toNat < 128) :
    Text.Utf8.encode (String.ofList s) = s.map fun c => UInt8.ofNat c.toNat := by
  have octets : s.flatMap String.utf8EncodeChar = s.map fun c => UInt8.ofNat c.toNat := by
    induction s with
    | nil => rfl
    | cons c s ih =>
      obtain ⟨hc, hs⟩ := List.forall_mem_cons.mp ascii
      have small : c.val.toNat ≤ 127 := Nat.le_of_lt_succ hc
      have octet : String.utf8EncodeChar c = [UInt8.ofNat c.toNat] := by
        simp only [String.utf8EncodeChar, small, if_true]
        rfl
      rw [List.flatMap_cons, octet, ih hs]
      rfl
  rw [Text.Utf8.encode_ofList, octets]

theorem step_ascii {b : UInt8} {rest : List UInt8} (h : b.toNat < 128) :
    Text.Utf8.step (b :: rest) = .char (Char.ofNat b.toNat) rest := by
  unfold Text.Utf8.step
  simp [h]

/-- The octets of an ASCII text are read as its characters, one by one. -/
theorem strictFuel_ascii {s : List Char} (ascii : ∀ c ∈ s, c.toNat < 128) {fuel : Nat}
    (hf : s.length < fuel) (position : Nat) (acc : List Char) :
    Text.Utf8.strictFuel fuel position (s.map fun c => UInt8.ofNat c.toNat) acc =
      .ok (acc.reverse ++ s) := by
  induction s generalizing fuel position acc with
  | nil =>
    obtain ⟨fuel, rfl⟩ := Nat.exists_eq_add_one_of_ne_zero (Nat.ne_zero_of_lt hf)
    simp [Text.Utf8.strictFuel, Text.Utf8.step]
  | cons c s ih =>
    obtain ⟨fuel, rfl⟩ := Nat.exists_eq_add_one_of_ne_zero (Nat.ne_zero_of_lt hf)
    obtain ⟨hc, hs⟩ := List.forall_mem_cons.mp ascii
    have octet : (UInt8.ofNat c.toNat).toNat = c.toNat := by
      simp
      omega
    rw [List.map_cons, Text.Utf8.strictFuel, step_ascii (by rw [octet]; exact hc), octet,
      Char.ofNat_toNat]
    simp only []
    rw [ih hs (by simpa using hf)]
    simp

theorem unixLines_eq : ∀ {s : List Char}, (∀ c ∈ s, c ≠ '\r') → unixLines s = s
  | [], _ => rfl
  | c :: s, h => by
    obtain ⟨hc, hs⟩ := List.forall_mem_cons.mp h
    rw [unixLines, unixLines_eq hs]
    · exact fun _ same => absurd same hc
    · exact fun same => absurd same hc

theorem ascii_of_plainly {c : Char} (h : Yaml.isSpecial c = false) : c.toNat < 128 ∧ c ≠ '\r' := by
  simp only [Yaml.isSpecial, Bool.not_eq_false', Bool.or_eq_true, Bool.and_eq_true,
    decide_eq_true_eq] at h
  obtain rfl | ⟨low, high⟩ := h
  · decide
  · have high : c.toNat ≤ 126 := high
    refine ⟨by omega, ?_⟩
    rintro rfl
    exact absurd low (by decide)

theorem allowed_of_plainly {c : Char} (h : Yaml.isSpecial c = false) :
    Yaml.isAllowed c = true := by
  simp only [Yaml.isSpecial, Bool.not_eq_false', Bool.or_eq_true, Bool.and_eq_true,
    decide_eq_true_eq] at h
  obtain rfl | ⟨low, high⟩ := h
  · decide
  · have low : 32 ≤ c.toNat := low
    have high : c.toNat ≤ 126 := high
    simp [Yaml.isAllowed, low, high]

/-- Text without special characters survives being written and read as octets. -/
theorem decodeStream_encode {s : List Char} (plainly : ∀ c ∈ s, Yaml.isSpecial c = false) :
    decodeStream (Text.Utf8.encode (String.ofList s)) = .ok (String.ofList s) := by
  have ascii := fun c hc => (ascii_of_plainly (plainly c hc)).1
  have unix := unixLines_eq fun c hc => (ascii_of_plainly (plainly c hc)).2
  unfold decodeStream Text.Utf8.decode
  rw [encode_ascii ascii, strictFuel_ascii ascii (by simp)]
  simp [Except.map, unix]

namespace RuntimeState

open Yaml

theorem header_eq : header.toList =
    '#' :: (" AUTO-GENERATED - DO NOT EDIT MANUALLY".toList ++ '\n' ::
      '#' :: (" Written by lutels after locating the linter through foreman.toml.".toList ++ '\n' ::
        '#' :: (" Delete this file to force a fresh lookup.".toList ++ '\n' :: ['\n']))) := by
  unfold header
  simp only [String.toList_append]
  -- The characters of a literal are those that it stands for; reading them off its octets is slow.
  iterate 6 rw [String.toList_ofList]
  rfl

theorem header_plainly : ∀ c ∈ header.toList, isSpecial c = false := by
  have marks : header.toList.any isSpecial = false := by
    unfold header
    simp only [String.toList_append]
    iterate 3 rw [String.toList_ofList]
    decide +kernel
  exact fun c hc => Bool.eq_false_iff.mpr (List.any_eq_false.mp marks c hc)

theorem executableKey : PlainKey "executable_path".toList := by
  rw [String.toList_ofList]
  exact .of_all (by decide) (by decide) (by decide)

theorem directoryKey : PlainKey "toolchain_manifest_directory".toList := by
  rw [String.toList_ofList]
  exact .of_all (by decide) (by decide) (by decide)

/-- An entry is a key, a colon, a blank and the scalar, up to the end of the line. -/
theorem entryText_stands (key value : String) : ∃ w,
    (entryText key value).toList = key.toList ++ ':' :: ' ' :: (w ++ ['\n']) ∧
      (∀ c ∈ w, isSpecial c = false) ∧ Stands value w := by
  obtain ⟨w, puts, plainly, stands⟩ :=
    stands_scalar ((Pen.mk [] 0).write (key.toList ++ [':', ' '])) value
  refine ⟨w, ?_, plainly, stands⟩
  unfold Pen.Puts at puts
  simp only [entryText, Pen.newLine, puts]
  simp [Pen.write]

/-- The text of a record: the comment, and an entry for each of its parts. -/
theorem toText_stands (s : RuntimeState) : ∃ v w,
    s.toText.toList = header.toList ++ ("executable_path".toList ++ ':' :: ' ' :: (v ++ '\n' ::
      ("toolchain_manifest_directory".toList ++ ':' :: ' ' :: (w ++ '\n' :: [])))) ∧
      (∀ c ∈ s.toText.toList, isSpecial c = false) ∧
      Stands s.executablePath v ∧ Stands s.manifestDirectory w := by
  obtain ⟨v, first, plainly, stands⟩ := entryText_stands "executable_path" s.executablePath
  obtain ⟨w, second, plainly', stands'⟩ :=
    entryText_stands "toolchain_manifest_directory" s.manifestDirectory
  have text : s.toText.toList = header.toList ++ ("executable_path".toList ++ ':' :: ' ' ::
      (v ++ '\n' :: ("toolchain_manifest_directory".toList ++ ':' :: ' ' ::
        (w ++ '\n' :: [])))) := by
    simp [toText, first, second]
  refine ⟨v, w, text, ?_, stands, stands'⟩
  have keys {key : List Char} (h : PlainKey key) : ∀ c ∈ key, isSpecial c = false :=
    fun c hc => (h.visible c hc).plainly
  have marks : isSpecial ':' = false ∧ isSpecial ' ' = false ∧ isSpecial '\n' = false := by decide
  rw [text]
  simp only [List.forall_mem_append, List.forall_mem_cons]
  exact ⟨header_plainly, keys executableKey, marks.1, marks.2.1, plainly, marks.2.2,
    keys directoryKey, marks.1, marks.2.1, plainly', marks.2.2, by simp⟩

/-- The comment and the empty line behind it are passed in front of the first entry. -/
theorem toNextToken_header {l : Lexer} {s : List Char} (hr : l.cursor.rest = header.toList ++ s)
    (flow : l.flowDepth = 0) (margin : Margin s) :
    ∃ c, c.rest = s ∧ c.column = 0 ∧
      l.toNextToken (l.cursor.rest.length + 1) = { l with cursor := c, keyAllowed := true } := by
  rw [header_eq] at hr
  simp only [List.cons_append, List.append_assoc] at hr
  obtain ⟨k, hk⟩ : ∃ k, l.cursor.rest.length = k + 4 := by
    refine Nat.exists_eq_add_of_le' ?_
    simp only [hr, List.length_cons, List.length_append]
    omega
  rw [hk]
  have unbroken {line : List Char} (h : line.any isBreak = false) :
      ∀ c ∈ (String.ofList line).toList, isBreak c = false := by
    rw [String.toList_ofList]
    exact fun c hc => Bool.eq_false_iff.mpr (List.any_eq_false.mp h c hc)
  obtain ⟨c₁, rest₁, -, one⟩ := Lexer.toNextToken_comment (k + 4) hr
    (unbroken (by decide)) flow
  obtain ⟨c₂, rest₂, -, two⟩ := Lexer.toNextToken_comment (k + 3)
    (l := { l with cursor := c₁, keyAllowed := true }) rest₁ (unbroken (by decide)) flow
  obtain ⟨c₃, rest₃, -, three⟩ := Lexer.toNextToken_comment (k + 2)
    (l := { l with cursor := c₂, keyAllowed := true }) rest₂ (unbroken (by decide)) flow
  have four := Lexer.toNextToken_feed (k + 1)
    (l := { l with cursor := c₃, keyAllowed := true }) rest₃ flow
  refine ⟨c₃.next, by simp [rest₃], next_column_feed rest₃, ?_⟩
  rw [one, two, three, four, Lexer.toNextToken_here]
  simpa [rest₃] using margin.here

/-- The tokens of the text of a record. -/
theorem tokens_toText (s : RuntimeState) : ∃ p q : Bool,
    tokens s.toText.toList = .ok [.blockMappingStart,
      .key, .scalar "executable_path" true, .value, .scalar s.executablePath p,
      .key, .scalar "toolchain_manifest_directory" true, .value, .scalar s.manifestDirectory q,
      .blockEnd] ∧
    (p = true → Tag.ofPlain s.executablePath = .str) ∧
    (q = true → Tag.ofPlain s.manifestDirectory = .str) := by
  obtain ⟨v, w, text, plainly, stands, stands'⟩ := s.toText_stands
  have allowed : s.toText.toList.all isAllowed = true :=
    List.all_eq_true.mpr fun c hc => allowed_of_plainly (plainly c hc)
  have noMark : s.toText.toList.head? ≠ some '\uFEFF' := by
    rw [text, header_eq]
    simp
  obtain ⟨k, hk⟩ : ∃ k, s.toText.toList.length + 2 = k + 1 + 3 + 3 := by
    refine Nat.exists_eq_add_of_le' (m := 7) ?_
    simp only [text, List.length_cons, List.length_append]
    omega
  obtain ⟨c, rest, column, gap⟩ := toNextToken_header (l := Lexer.ofText s.toText.toList)
    ((Lexer.ofText_rest _).trans text) rfl (executableKey.margin _)
  obtain ⟨l₁, m₁, p, run₁, gap₁, margin₁, indent₁, tokens₁, kind⟩ := Lexer.run_entry
    (k + 1 + 3) executableKey stands (directoryKey.margin _) gap
    ⟨rest, column, rfl, rfl, rfl, .inl ⟨rfl, rfl⟩⟩
  have nothing : Margin [] := by simp [Margin]
  obtain ⟨l₂, m₂, q, run₂, gap₂, margin₂, indent₂, tokens₂, kind'⟩ := Lexer.run_entry
    (k + 1) directoryKey stands' nothing gap₁ margin₁
  refine ⟨p, q, ?_, kind, kind'⟩
  unfold tokens
  simp only [allowed, noMark, Bool.not_true, Bool.false_eq_true, if_false]
  rw [hk, run₁, run₂, Lexer.run_end gap₂ margin₂ indent₂, tokens₂, tokens₁]
  simp [Lexer.opening, indent₁, Lexer.ofText]

/-- The tree of a block mapping with two entries. -/
theorem documentOf_entries (k₁ v₁ k₂ v₂ : String) (p q : Bool) :
    documentOf [.blockMappingStart, .key, .scalar k₁ true, .value, .scalar v₁ p,
      .key, .scalar k₂ true, .value, .scalar v₂ q, .blockEnd] =
    .ok (some (.mapping .map [(.scalar (.ofPlain k₁) k₁, .scalar (scalarTag p v₁ none) v₁),
      (.scalar (.ofPlain k₂) k₂, .scalar (scalarTag q v₂ none) v₂)])) := by
  rfl

theorem scalarTag_str {plain : Bool} {text : String} (h : plain = true → Tag.ofPlain text = .str) :
    scalarTag plain text none = .str := by
  cases plain
  · rfl
  · simpa [scalarTag] using h rfl

/-- The value of a block mapping with two entries, all of them texts. -/
theorem build_entries {k₁ v₁ k₂ v₂ : String} (apart : k₁ ≠ k₂) :
    (Node.mapping .map [(.scalar .str k₁, .scalar .str v₁),
      (.scalar .str k₂, .scalar .str v₂)]).spread.build =
    ⟨.map [(.text k₁, .text v₁), (.text k₂, .text v₂)], []⟩ := by
  simp [Node.spread, spreadEntries, spreadEntry, spreadMerges, Node.tag, Node.build, buildEntries,
    buildEntry, buildMapping, scalarValue, Built.ofExcept, Built.lowered, Value.Entries.put,
    Value.sameKey, apart]

theorem load_toText (s : RuntimeState) : Yaml.load s.toText =
    .ok (.map [(.text "executable_path", .text s.executablePath),
      (.text "toolchain_manifest_directory", .text s.manifestDirectory)]) := by
  obtain ⟨p, q, read, kind, kind'⟩ := s.tokens_toText
  have keys : Tag.ofPlain "executable_path" = .str ∧
      Tag.ofPlain "toolchain_manifest_directory" = .str := by decide +kernel
  unfold Yaml.load Node.ofText
  simp only [read, bind, Except.bind]
  rw [documentOf_entries, keys.1, keys.2, scalarTag_str kind, scalarTag_str kind']
  simp only []
  rw [build_entries (by decide)]
  rfl

/-- A record is read back from its text. -/
theorem ofText_toText (s : RuntimeState) : ofText s.toText = some s := by
  unfold ofText
  rw [load_toText]
  rfl

/-- The text of a record survives the octets of a file. -/
theorem decodeStream_toText (s : RuntimeState) :
    decodeStream (Text.Utf8.encode s.toText) = .ok s.toText := by
  obtain ⟨_, _, _, plainly, _⟩ := s.toText_stands
  rw [← String.ofList_toList (s := s.toText)]
  exact decodeStream_encode plainly

end RuntimeState
end LintBridge
