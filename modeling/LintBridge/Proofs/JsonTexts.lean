import LintBridge.Json.Decode
import LintBridge.Json.Encode
import LintBridge.Fault
import Mathlib.Tactic.SplitIfs
/-!
Strings that are written are read back. Every character of a string is written so that it is read in
one step, alone or with the second half of its surrogate pair (`Json.stringTail_charText`).
-/
namespace LintBridge.Json

theorem hexValue?_digitChar {d : Nat} (h : d < 16) :
    Text.hexValue? (Nat.digitChar d) = some d := by
  have every : ∀ d : Fin 16, Text.hexValue? (Nat.digitChar d) = some d.val := by decide
  exact every ⟨d, h⟩

/-- A number in four digits. -/
theorem hexPadded_four {n : Nat} (h : n < 0x10000) : Text.hexPadded 4 n =
    [Nat.digitChar (n / 16 / 16 / 16), Nat.digitChar (n / 16 / 16 % 16),
      Nat.digitChar (n / 16 % 16), Nat.digitChar (n % 16)] := by
  have last {m : Nat} (small : m < 16) : Nat.toDigits 16 m = [Nat.digitChar m] :=
    Nat.toDigits_of_lt_base small
  have next {m : Nat} (large : 16 ≤ m) :
      Nat.toDigits 16 m = Nat.toDigits 16 (m / 16) ++ [Nat.digitChar (m % 16)] :=
    Nat.toDigits_of_base_le (by decide) large
  unfold Text.hexPadded
  by_cases one : n < 16
  · have front : n / 16 = 0 := by omega
    rw [last one, front, Nat.mod_eq_of_lt one]
    rfl
  by_cases two : n / 16 < 16
  · have front : n / 16 / 16 = 0 := by omega
    rw [next (by omega), last two, front, Nat.mod_eq_of_lt two]
    rfl
  by_cases three : n / 16 / 16 < 16
  · have front : n / 16 / 16 / 16 = 0 := by omega
    rw [next (by omega), next (by omega), last three, front, Nat.mod_eq_of_lt three]
    rfl
  · rw [next (by omega), next (by omega), next (by omega), last (by omega)]
    rfl

/-- A unit is read from its escape. -/
theorem codeUnit?_hexPadded {n : Nat} (h : n < 0x10000) (rest : List Char) :
    codeUnit? (Text.hexPadded 4 n ++ rest) = some (n, rest) := by
  have whole : ((n / 16 / 16 / 16 * 16 + n / 16 / 16 % 16) * 16 + n / 16 % 16) * 16 +
      n % 16 = n := by
    omega
  rw [hexPadded_four h]
  simp only [List.cons_append, List.nil_append, codeUnit?]
  rw [hexValue?_digitChar (by omega), hexValue?_digitChar (by omega),
    hexValue?_digitChar (by omega), hexValue?_digitChar (by omega)]
  simp only [Option.bind_eq_bind, Option.bind_some, whole]

theorem length_hexPadded {n : Nat} (h : n < 0x10000) : (Text.hexPadded 4 n).length = 4 := by
  rw [hexPadded_four h]
  rfl

/-- How a character stands inside a string: by a letter behind a backslash, for itself, or by one
code unit or two. -/
inductive Spelled (c : Char) : List Char → Prop where
  | letter {l : Char} (stands : simpleEscape? l = some c) (apart : l ≠ 'u') : Spelled c ['\\', l]
  | itself (quote : c ≠ '"') (backslash : c ≠ '\\') (visible : ¬c.toNat ≤ 0x1f) : Spelled c [c]
  | unit {n : Nat} (fits : n < 0x10000) (alone : isHighSurrogate n = false)
    (stands : unitChar n = c) : Spelled c (unitEscape n)
  | pair {high low : Nat} (fits : high < 0x10000) (fits' : low < 0x10000)
    (first : isHighSurrogate high = true) (second : isLowSurrogate low = true)
    (stands : Char.ofNat (0x10000 + (high - 0xD800) * 0x400 + (low - 0xDC00)) = c) :
    Spelled c (unitEscape high ++ unitEscape low)

theorem spelled_unit {c : Char} (fits : c.toNat < 0x10000) : Spelled c (unitEscape c.toNat) := by
  have valid : c.toNat < 0xD800 ∨ 0xDFFF < c.toNat ∧ c.toNat < 0x110000 := c.valid
  refine .unit fits ?_ ?_
  · unfold isHighSurrogate
    rw [Bool.and_eq_false_iff, decide_eq_false_iff_not, decide_eq_false_iff_not]
    omega
  · unfold unitChar
    rw [if_neg, Char.ofNat_toNat]
    rw [Bool.and_eq_true, decide_eq_true_iff, decide_eq_true_iff]
    omega

theorem spelled_pair {c : Char} (large : 0x10000 ≤ c.toNat) :
    Spelled c (unitEscape (0xD800 + (c.toNat - 0x10000) / 0x400) ++
      unitEscape (0xDC00 + (c.toNat - 0x10000) % 0x400)) := by
  have valid : c.toNat < 0xD800 ∨ 0xDFFF < c.toNat ∧ c.toNat < 0x110000 := c.valid
  have whole : 0x10000 + (0xD800 + (c.toNat - 0x10000) / 0x400 - 0xD800) * 0x400 +
      (0xDC00 + (c.toNat - 0x10000) % 0x400 - 0xDC00) = c.toNat := by omega
  refine .pair (by omega) (by omega) ?_ ?_ (by rw [whole, Char.ofNat_toNat])
  · rw [isHighSurrogate, Bool.and_eq_true, decide_eq_true_iff, decide_eq_true_iff]
    omega
  · rw [isLowSurrogate, Bool.and_eq_true, decide_eq_true_iff, decide_eq_true_iff]
    omega

theorem spelled (c : Char) : Spelled c (charText c) := by
  unfold charText
  split_ifs with quote backslash feed carriage tab back form
  · exact .letter (by rw [quote]; rfl) (by decide)
  · exact .letter (by rw [backslash]; rfl) (by decide)
  · exact .letter (by rw [feed]; rfl) (by decide)
  · exact .letter (by rw [carriage]; rfl) (by decide)
  · exact .letter (by rw [tab]; rfl) (by decide)
  · exact .letter (by rw [back]; rfl) (by decide)
  · exact .letter (by rw [form]; rfl) (by decide)
  · dsimp only
    split_ifs with visible fits
    · exact .itself quote backslash (by omega)
    · exact spelled_unit fits
    · exact spelled_pair (by omega)

theorem Spelled.ne_nil {c : Char} {s : List Char} (h : Spelled c s) : s ≠ [] := by
  cases h <;> simp [unitEscape]

theorem unicodeEscape_unit {n : Nat} (fits : n < 0x10000) (alone : isHighSurrogate n = false)
    {rest : List Char} (more : rest ≠ []) :
    unicodeEscape (Text.hexPadded 4 n ++ rest) = .ok (unitChar n, rest) := by
  have some_ := List.length_pos_iff.mpr more
  have length : ¬(Text.hexPadded 4 n ++ rest).length ≤ 4 := by
    rw [List.length_append, length_hexPadded fits]
    omega
  rw [unicodeEscape, if_neg length, codeUnit?_hexPadded fits]
  simp only [alone, Bool.false_and, Bool.false_eq_true, if_false]

theorem unicodeEscape_pair {high low : Nat} (fits : high < 0x10000) (fits' : low < 0x10000)
    (first : isHighSurrogate high = true) (second : isLowSurrogate low = true)
    {rest : List Char} (more : rest ≠ []) :
    unicodeEscape (Text.hexPadded 4 high ++ '\\' :: 'u' :: (Text.hexPadded 4 low ++ rest)) =
      .ok (Char.ofNat (0x10000 + (high - 0xD800) * 0x400 + (low - 0xDC00)), rest) := by
  have some_ := List.length_pos_iff.mpr more
  have behind : 6 < ('\\' :: 'u' :: (Text.hexPadded 4 low ++ rest)).length := by
    rw [List.length_cons, List.length_cons, List.length_append, length_hexPadded fits']
    omega
  have length : ¬(Text.hexPadded 4 high ++
      '\\' :: 'u' :: (Text.hexPadded 4 low ++ rest)).length ≤ 4 := by
    rw [List.length_append, length_hexPadded fits]
    omega
  rw [unicodeEscape, if_neg length, codeUnit?_hexPadded fits]
  simp only [first, behind, decide_true, Bool.and_true, if_true, codeUnit?_hexPadded fits', second]

theorem stringTail_unicode (start fuel : Nat) {c : Char} {digits rest : List Char}
    (reads : unicodeEscape digits = .ok (c, rest)) (acc : List Char) :
    stringTail start (fuel + 1) ('\\' :: 'u' :: digits) acc =
      stringTail start fuel rest (c :: acc) := by
  simp [stringTail, reads]

/-- A character inside a string is read in one step. -/
theorem stringTail_charText (start fuel : Nat) (c : Char) {rest : List Char} (more : rest ≠ [])
    (acc : List Char) :
    stringTail start (fuel + 1) (charText c ++ rest) acc =
      stringTail start fuel rest (c :: acc) := by
  have how := spelled c
  generalize charText c = s at how
  cases how with
  | letter stands apart => simp [stringTail, stands]
  | itself quote backslash visible => simp [stringTail, quote, backslash, visible]
  | @unit n fits alone stands =>
    rw [← stands]
    exact stringTail_unicode start fuel (unicodeEscape_unit fits alone more) acc
  | @pair high low fits fits' first second stands =>
    rw [← stands, List.append_assoc]
    exact stringTail_unicode start fuel (unicodeEscape_pair fits fits' first second more) acc

theorem stringTail_text (start : Nat) {fuel : Nat} {s : List Char} (enough : s.length < fuel)
    (rest acc : List Char) :
    stringTail start fuel (s.flatMap charText ++ '"' :: rest) acc =
      .ok (String.ofList (acc.reverse ++ s), rest) := by
  induction s generalizing fuel acc with
  | nil =>
    obtain ⟨fuel, rfl⟩ := Nat.exists_eq_add_one_of_ne_zero (Nat.ne_zero_of_lt enough)
    simp [stringTail]
  | cons c s ih =>
    obtain ⟨fuel, rfl⟩ := Nat.exists_eq_add_one_of_ne_zero (Nat.ne_zero_of_lt enough)
    rw [List.flatMap_cons, List.append_assoc, stringTail_charText start fuel c (by simp),
      ih (by simpa using enough)]
    simp

/-- A string is read from behind its opening quote. -/
theorem string_text (s : String) (rest : List Char) :
    string (s.toList.flatMap charText ++ '"' :: rest) = .ok (s, rest) := by
  have lengths (cs : List Char) : cs.length ≤ (cs.flatMap charText).length := by
    induction cs with
    | nil => simp
    | cons c cs ih =>
      have some_ := List.length_pos_iff.mpr (spelled c).ne_nil
      rw [List.flatMap_cons, List.length_append, List.length_cons]
      omega
  have enough := lengths s.toList
  rw [string, stringTail_text _ (by rw [List.length_append]; omega), List.reverse_nil,
    List.nil_append, String.ofList_toList]

theorem stringText_toList (s : String) :
    (stringText s).toList = '"' :: (s.toList.flatMap charText ++ ['"']) := by
  simp [stringText]

end LintBridge.Json
