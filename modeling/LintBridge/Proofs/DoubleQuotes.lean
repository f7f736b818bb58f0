import LintBridge.Proofs.Rereading
/-!
Double-quoted scalars read back. An escape reads as the character it was written for, whether by
a letter or by hexadecimal digits, and a line folded behind a backslash leaves nothing.
-/
namespace LintBridge.Yaml

theorem hexValue?_upperDigit {d : Nat} (h : d < 16) :
    Text.hexValue? (Nat.digitChar d).toUpper = some d ∧ Visible (Nat.digitChar d).toUpper := by
  have every : ∀ d : Fin 16, Text.hexValue? (Nat.digitChar d).toUpper = some d.val ∧
      Visible (Nat.digitChar d).toUpper := by decide
  exact every ⟨d, h⟩

/-- One digit more behind a number. -/
theorem hexNumber?_concat {digits : List Char} {n d : Nat} {c : Char}
    (front : hexNumber? digits = some n) (last : Text.hexValue? c = some d) :
    hexNumber? (digits ++ [c]) = some (n * 16 + d) := by
  unfold hexNumber? at *
  rw [List.foldl_append, front]
  simp [last]

theorem hexNumber?_zeros (k : Nat) :
    hexNumber? ((List.replicate k '0').map Char.toUpper) = some 0 := by
  induction k with
  | zero => rfl
  | succ k ih =>
    rw [List.replicate_succ', List.map_append]
    exact hexNumber?_concat (c := '0'.toUpper) (d := 0) ih (by decide)

/-- The digits of a number read back, behind any number of zeros. -/
theorem hexNumber?_toDigits (k n : Nat) :
    hexNumber? ((List.replicate k '0' ++ Nat.toDigits 16 n).map Char.toUpper) = some n ∧
      ∀ c ∈ (List.replicate k '0' ++ Nat.toDigits 16 n).map Char.toUpper, Visible c := by
  induction n using Nat.strongRecOn with
  | ind n ih =>
    by_cases small : n < 16
    · rw [Nat.toDigits_of_lt_base small, List.map_append, List.map_singleton]
      have read := hexNumber?_concat (hexNumber?_zeros k) (hexValue?_upperDigit small).1
      refine ⟨by simpa using read, ?_⟩
      intro c hc
      rcases List.mem_append.mp hc with zero | last
      · obtain ⟨z, among, rfl⟩ := List.mem_map.mp zero
        obtain rfl := List.eq_of_mem_replicate among
        decide
      · rw [List.mem_singleton.mp last]
        exact (hexValue?_upperDigit small).2
    · have last := hexValue?_upperDigit (Nat.mod_lt n (by decide : 0 < 16))
      have front := ih (n / 16) (by omega)
      rw [Nat.toDigits_of_base_le (by decide) (by omega), ← List.append_assoc, List.map_append,
        List.map_singleton]
      refine ⟨?_, ?_⟩
      · rw [hexNumber?_concat front.1 last.1]
        congr 1
        omega
      · intro c hc
        rcases List.mem_append.mp hc with hc | hc
        · exact front.2 c hc
        · rw [List.mem_singleton.mp hc]
          exact last.2

theorem upperHex_length {width n : Nat} (positive : width ≠ 0) (h : n < Nat.pow 16 width) :
    (upperHex width n).length = width := by
  have short := (Nat.length_toDigits_le_iff (b := 16) (n := n) (k := width) (by decide)
    (by omega)).mpr h
  simp only [upperHex, Text.hexPadded, List.length_map, List.length_append, List.length_replicate]
  omega

theorem hexNumber?_upperHex (width n : Nat) : hexNumber? (upperHex width n) = some n :=
  (hexNumber?_toDigits _ n).1

/-- A letter reads back as what it stands for. -/
theorem escapeLetter?_of_escapeLetter {c letter : Char} (h : escapeLetter c = some letter) :
    escapeLetter? letter = some c ∧ Visible letter := by
  unfold escapeLetter at h
  split at h
  all_goals first
    | (obtain rfl := Option.some.inj h; decide)
    | cases h

/-- A character is a code point outside the surrogates. -/
theorem codePoint (c : Char) : c.toNat < 0xD800 ∨ 0xDFFF < c.toNat ∧ c.toNat < 0x110000 := c.valid

/-- The letter and the digits of an escape without a letter of its own. -/
theorem escaped_digits {c : Char} (h : escapeLetter c = none) :
    ∃ letter width, escaped c = '\\' :: letter :: upperHex width c.toNat ∧
      escapeLetter? letter = none ∧ escapeWidth? letter = some width ∧ Visible letter ∧
        (upperHex width c.toNat).length = width := by
  have valid := codePoint c
  unfold escaped
  rw [h]
  dsimp only
  split
  next small =>
    exact ⟨'x', 2, rfl, rfl, rfl, by decide, upperHex_length (by decide) small⟩
  next =>
    split
    next middle => exact ⟨'u', 4, rfl, rfl, rfl, by decide, upperHex_length (by decide) middle⟩
    next => exact ⟨'U', 8, rfl, rfl, rfl, by decide,
      upperHex_length (by decide) (by change c.toNat < 0x100000000; omega)⟩

/-- An escape is made of visible characters. -/
theorem visible_escaped (c : Char) : ∀ d ∈ escaped c, Visible d := by
  have backslash : Visible '\\' := by decide
  cases h : escapeLetter c with
  | some letter =>
    have visible := (escapeLetter?_of_escapeLetter h).2
    simp [escaped, h, backslash, visible]
  | none =>
    obtain ⟨letter, width, spelled, -, -, visible, -⟩ := escaped_digits h
    intro d hd
    rw [spelled] at hd
    rcases List.mem_cons.mp hd with rfl | hd
    · exact backslash
    · rcases List.mem_cons.mp hd with rfl | hd
      · exact visible
      · exact (hexNumber?_toDigits _ _).2 d hd

theorem quotedEscape_letter {letter ch : Char} {w : List Char} {c : Cursor}
    (hr : c.rest = '\\' :: letter :: w) (h : escapeLetter? letter = some ch) :
    ∃ c', c'.rest = w ∧ quotedEscape c.next = .ok ([ch], c') := by
  have peek : c.next.peek = some letter := by simp [Cursor.peek, hr]
  refine ⟨c.next.next, by simp [hr], ?_⟩
  unfold quotedEscape
  simp [peek, h]

/-- An escape reads back as its character. -/
theorem quotedEscape_escaped {ch : Char} {w : List Char} {c : Cursor}
    (hr : c.rest = escaped ch ++ w) :
    ∃ c', c'.rest = w ∧ quotedEscape c.next = .ok ([ch], c') := by
  cases h : escapeLetter ch with
  | some letter =>
    simp only [escaped, h, List.cons_append, List.nil_append] at hr
    exact quotedEscape_letter hr (escapeLetter?_of_escapeLetter h).1
  | none =>
    obtain ⟨letter, width, spelled, noLetter, hexWidth, -, length⟩ := escaped_digits h
    rw [spelled] at hr
    have peek : c.next.peek = some letter := by simp [Cursor.peek, hr]
    have taken : c.next.next.rest.take width = upperHex width ch.toNat := by
      simp only [Cursor.next_rest, hr, List.cons_append, List.tail_cons]
      rw [List.take_left' length]
    have valid := codePoint ch
    have bound : ¬0x110000 ≤ ch.toNat := by omega
    refine ⟨c.next.skip (width + 1), ?_, ?_⟩
    · simp only [Cursor.skip_rest, Cursor.next_rest, hr, List.cons_append, List.tail_cons,
        List.drop_succ_cons]
      rw [List.drop_left' length]
    · unfold quotedEscape
      simp only [peek, noLetter, hexWidth, taken, length, Nat.lt_irrefl, if_false,
        hexNumber?_upperHex, bound]
      rw [if_neg (by simp; omega), Char.ofNat_toNat]

/-- A folded line leaves nothing. -/
theorem quotedEscape_fold {w : List Char} {c : Cursor}
    (hr : c.rest = '\\' :: '\n' :: ' ' :: ' ' :: w) (hw : Stops w) :
    ∃ c', c'.rest = w ∧ quotedEscape c.next = .ok ([], c') := by
  have next : c.next.rest = '\n' :: ' ' :: ' ' :: w := by simp [hr]
  have blanks : c.next.next.rest = List.replicate 0 '\n' ++ ' ' :: ' ' :: w := by simp [hr]
  have enough : 0 < c.next.rest.length + 1 := by omega
  obtain ⟨c', behind, read⟩ := quotedBreaks_feeds [] blanks hw enough
  refine ⟨c', behind, ?_⟩
  have peek : c.next.peek = some '\n' := by rw [Cursor.peek, next]; rfl
  unfold quotedEscape
  simp only [peek, escapeLetter?, escapeWidth?, Cursor.lineBreak?_feed next, read]
  rfl

section Steps

variable {s w : List Char} {fuel : Nat} {c c' : Cursor} (acc : List Char)

/-- Blanks in front of anything else are read in one step. -/
theorem quotedTail_blanks {k : Nat} (hr : c.rest = List.replicate k ' ' ++ w) (hw : Stops w)
    (filled : w ≠ []) (hf : c.rest.length < fuel) :
    ∃ c' fuel', c'.rest = w ∧ c'.rest.length < fuel' ∧
      quotedTail '"' fuel c acc = quotedTail '"' fuel' c' (List.replicate k ' ' ++ acc) := by
  cases k with
  | zero => exact ⟨c, fuel, hr, hf, rfl⟩
  | succ k =>
    have behind : (c.skip (k + 1)).rest = w := Cursor.skip_rest_append hr (by simp)
    have quote : Visible '"' := by decide
    obtain ⟨fuel', hf', stretch⟩ := quotedTail_stretch acc hr (.inl rfl) quote
      (quotedSpaces_blanks hr hw filled) behind hf
    exact ⟨c.skip (k + 1), fuel', behind, hf', by rw [stretch, List.reverse_replicate]⟩

/-- Blanks and the escape behind them are read in two steps. -/
theorem quotedTail_escape {k : Nat} {v : List Char}
    (hr : c.rest = List.replicate k ' ' ++ '\\' :: v)
    (read : ∀ c : Cursor, c.rest = '\\' :: v →
      ∃ c', c'.rest = w ∧ quotedEscape c.next = .ok (s, c'))
    (shorter : w.length ≤ v.length) (hf : c.rest.length < fuel) :
    ∃ c' fuel', c'.rest = w ∧ c'.rest.length < fuel' ∧ quotedTail '"' fuel c acc =
      quotedTail '"' fuel' c' (s.reverse ++ (List.replicate k ' ' ++ acc)) := by
  have backslash : Visible '\\' := by decide
  obtain ⟨c₁, fuel₁, rest₁, hf₁, blanks⟩ :=
    quotedTail_blanks acc hr (backslash.stops _) (by simp) hf
  obtain ⟨fuel₁, rfl⟩ := Nat.exists_eq_add_one_of_ne_zero (Nat.ne_zero_of_lt hf₁)
  obtain ⟨c', rest', escape⟩ := read c₁ rest₁
  refine ⟨c', fuel₁, rest', ?_, ?_⟩
  · rw [rest₁, List.length_cons] at hf₁
    rw [rest']
    omega
  · rw [blanks, quotedTail, rest₁]
    simp [escape, bind, Except.bind]

end Steps

/-- What is written as it stands is a blank or visible, and ends no scalar. -/
theorem direct_eq {c : Char} (h : needsEscape c = false) :
    c = ' ' ∨ Visible c ∧ c ≠ '"' ∧ c ≠ '\\' := by
  simp only [needsEscape, Bool.or_eq_false_iff, decide_eq_false_iff_not, Bool.not_eq_false',
    Bool.and_eq_true, decide_eq_true_eq] at h
  obtain ⟨⟨quote, backslash⟩, low, high⟩ := h
  by_cases blank : c = ' '
  · exact .inl blank
  · exact .inr ⟨⟨Std.lt_of_le_of_ne low (Ne.symm blank), high⟩, quote, backslash⟩

theorem escaped_cons (c : Char) : ∃ s, escaped c = '\\' :: s := by
  cases h : escapeLetter c with
  | some letter => exact ⟨[letter], by simp [escaped, h]⟩
  | none =>
    obtain ⟨letter, width, spelled, -⟩ := escaped_digits h
    exact ⟨_, spelled⟩

/-- A layout of a text that begins with no blank begins with a visible character. -/
theorem DoubleLayout.stops {s w tail : List Char} (layout : DoubleLayout s w)
    (next : s.head? ≠ some ' ') (ht : Stops tail) : Stops (w ++ tail) := by
  have backslash : Visible '\\' := by decide
  cases layout with
  | nil => exact ht
  | @plain c _ _ direct rest =>
    obtain rfl | ⟨visible, -, -⟩ := direct_eq direct
    · exact absurd rfl next
    · exact visible.stops _
  | @escape c _ _ special rest =>
    obtain ⟨s, spelled⟩ := escaped_cons c
    rw [spelled]
    exact backslash.stops _
  | fold next rest => exact backslash.stops _
  | foldBlank rest => exact backslash.stops _

/-- A layout between double quotes reads back as the text that was laid out. The induction carries
the blanks that were passed and not yet read, since the reader takes them all at once. -/
theorem quotedTail_doubleLayout {s w : List Char} (layout : DoubleLayout s w) {tail : List Char}
    {k fuel : Nat} {c : Cursor} (acc : List Char)
    (hr : c.rest = List.replicate k ' ' ++ (w ++ '"' :: tail)) (hf : c.rest.length < fuel) :
    ∃ c', c'.rest = tail ∧ quotedTail '"' fuel c acc =
      .ok (String.ofList (acc.reverse ++ List.replicate k ' ' ++ s), c') := by
  have quote : Visible '"' := by decide
  induction layout generalizing k fuel c acc with
  | nil =>
    obtain ⟨c', fuel, behind, hf', blanks⟩ :=
      quotedTail_blanks acc hr (quote.stops tail) (by simp) hf
    obtain ⟨fuel, rfl⟩ := Nat.exists_eq_add_one_of_ne_zero (Nat.ne_zero_of_lt hf')
    refine ⟨c'.next, by simp [behind], ?_⟩
    rw [blanks, quotedTail_end _ behind (by simp)]
    simp
  | @plain ch s w direct rest ih =>
    obtain rfl | ⟨visible, noQuote, noEscape⟩ := direct_eq direct
    · obtain ⟨c', behind, read⟩ := ih (k := k + 1) acc
        (by rw [hr, List.replicate_succ']; simp) hf
      exact ⟨c', behind, by rw [read, List.replicate_succ']; simp⟩
    · obtain ⟨c', fuel, behind, hf', blanks⟩ :=
        quotedTail_blanks acc hr (visible.stops _) (by simp) hf
      obtain ⟨fuel, rfl⟩ := Nat.exists_eq_add_one_of_ne_zero (Nat.ne_zero_of_lt hf')
      have next : c'.next.rest = List.replicate 0 ' ' ++ (w ++ '"' :: tail) := by simp [behind]
      have enough := Cursor.fuel_behind (a := [ch]) hf' behind (by simp) next
      obtain ⟨c'', behind', read⟩ := ih (ch :: (List.replicate k ' ' ++ acc)) next enough
      refine ⟨c'', behind', ?_⟩
      rw [blanks, quotedTail_visible _ behind visible noQuote (.inl noEscape), read]
      simp
  | @escape ch s w special rest ih =>
    obtain ⟨e, spelled⟩ := escaped_cons ch
    rw [spelled] at hr
    have line : c.rest = List.replicate k ' ' ++ '\\' :: (e ++ (w ++ '"' :: tail)) := by
      simpa using hr
    have spells (c : Cursor) (hc : c.rest = '\\' :: (e ++ (w ++ '"' :: tail))) :
        ∃ c', c'.rest = w ++ '"' :: tail ∧ quotedEscape c.next = .ok ([ch], c') :=
      quotedEscape_escaped (by rw [hc, spelled]; rfl)
    obtain ⟨c', fuel', behind, hf', escape⟩ := quotedTail_escape acc line spells (by simp) hf
    obtain ⟨c'', behind', read⟩ := ih (k := 0) _ behind hf'
    exact ⟨c'', behind', by rw [escape, read]; simp⟩
  | @fold s w next rest ih =>
    have stops := rest.stops next (quote.stops tail)
    obtain ⟨c', fuel', behind, hf', escape⟩ := quotedTail_escape acc hr
      (fun _ hc => quotedEscape_fold hc stops) (by simp; omega) hf
    obtain ⟨c'', behind', read⟩ := ih (k := 0) _ behind hf'
    exact ⟨c'', behind', by rw [escape, read]; simp⟩
  | @foldBlank s w rest ih =>
    have backslash : Visible '\\' := by decide
    have blank : escapeLetter? ' ' = some ' ' := rfl
    obtain ⟨c₁, fuel₁, rest₁, hf₁, line⟩ := quotedTail_escape acc hr
      (fun _ hc => quotedEscape_fold hc (backslash.stops _)) (by simp) hf
    obtain ⟨c', fuel', behind, hf', escape⟩ := quotedTail_escape _ (k := 0) rest₁
      (fun _ hc => quotedEscape_letter hc blank) (by simp) hf₁
    obtain ⟨c'', behind', read⟩ := ih (k := 0) _ behind hf'
    exact ⟨c'', behind', by rw [line, escape, read]; simp⟩

end LintBridge.Yaml
