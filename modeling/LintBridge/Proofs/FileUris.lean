import LintBridge.Proofs.Folders
import LintBridge.Proofs.StateText
import Mathlib.Data.List.TakeWhile
import Mathlib.Tactic.SplitIfs
/-!
Paths as URIs of files. The URI of a path names the path again, whatever characters it has, unless
it looks like one with a drive (`Uri.filePath?_ofPath`); so a folder that is given by the URI of its
path is that folder.
-/
namespace LintBridge

namespace Text.Utf8

section
variable {b₀ b₁ b₂ b₃ : UInt8} {rest : List UInt8}

theorem step_two (lead : 194 ≤ b₀.toNat ∧ b₀.toNat < 224) (h₁ : isTail b₁ = true) :
    step (b₀ :: b₁ :: rest) =
      .char (Char.ofNat ((b₀.toNat - 192) * 64 + tailBits b₁)) rest := by
  have big : ¬b₀.toNat < 128 := by omega
  have high : ¬b₀.toNat < 194 := by omega
  simp only [step, big, high, lead.2, h₁, if_true, if_false]

theorem step_three (lead : 224 ≤ b₀.toNat ∧ b₀.toNat < 240)
    (h₁ : inRange (secondRange b₀.toNat) b₁ = true) (h₂ : isTail b₂ = true) :
    step (b₀ :: b₁ :: b₂ :: rest) =
      .char (Char.ofNat (((b₀.toNat - 224) * 64 + tailBits b₁) * 64 + tailBits b₂)) rest := by
  have big : ¬b₀.toNat < 128 := by omega
  have high : ¬b₀.toNat < 194 := by omega
  have long : ¬b₀.toNat < 224 := by omega
  simp only [step, big, high, long, lead.2, h₁, h₂, if_true, if_false, Bool.not_true,
    Bool.false_eq_true]

theorem step_four (lead : 240 ≤ b₀.toNat ∧ b₀.toNat < 245)
    (h₁ : inRange (secondRange b₀.toNat) b₁ = true) (h₂ : isTail b₂ = true)
    (h₃ : isTail b₃ = true) :
    step (b₀ :: b₁ :: b₂ :: b₃ :: rest) =
      .char (Char.ofNat ((((b₀.toNat - 240) * 64 + tailBits b₁) * 64 + tailBits b₂) * 64 +
        tailBits b₃)) rest := by
  have big : ¬b₀.toNat < 128 := by omega
  have high : ¬b₀.toNat < 194 := by omega
  have long : ¬b₀.toNat < 224 := by omega
  have longer : ¬b₀.toNat < 240 := by omega
  simp only [step, big, high, long, longer, lead.2, h₁, h₂, h₃, if_true, if_false, Bool.not_true,
    Bool.false_eq_true]

end

theorem toNat_octet {n : Nat} (h : n < 256) : (UInt8.ofNat n).toNat = n := by
  rw [UInt8.toNat_ofNat', Nat.mod_eq_of_lt h]

theorem isTail_octet (n : Nat) : isTail (UInt8.ofNat (n % 64 + 128)) = true := by
  have octet := toNat_octet (n := n % 64 + 128) (by omega)
  rw [isTail, octet, Bool.and_eq_true, decide_eq_true_iff, decide_eq_true_iff]
  omega

theorem tailBits_octet (n : Nat) : tailBits (UInt8.ofNat (n % 64 + 128)) = n % 64 := by
  have octet := toNat_octet (n := n % 64 + 128) (by omega)
  unfold tailBits
  omega

/-- The octets of a character are read as that character. -/
theorem step_encodeChar (c : Char) (rest : List UInt8) :
    step (String.utf8EncodeChar c ++ rest) = .char c rest := by
  have valid : c.toNat < 0xD800 ∨ 0xDFFF < c.toNat ∧ c.toNat < 0x110000 := c.valid
  have same : Char.ofNat c.toNat = c := Char.ofNat_toNat c
  have value : c.val.toNat = c.toNat := rfl
  simp only [String.utf8EncodeChar, value]
  generalize c.toNat = v at valid same
  split_ifs with one two three
  · have octet := toNat_octet (n := v) (by omega)
    rw [List.singleton_append, step_ascii (by omega), octet, same]
  · have lead := toNat_octet (n := v / 64 % 32 + 192) (by omega)
    rw [List.cons_append, List.singleton_append, step_two (by omega) (isTail_octet v), lead,
      tailBits_octet, ← same]
    congr 2
    omega
  · have lead := toNat_octet (n := v / 4096 % 16 + 224) (by omega)
    have second := toNat_octet (n := v / 64 % 64 + 128) (by omega)
    have fits : inRange (secondRange (v / 4096 % 16 + 224)) (UInt8.ofNat (v / 64 % 64 + 128)) =
        true := by
      rw [inRange, second, Bool.and_eq_true, decide_eq_true_iff, decide_eq_true_iff]
      unfold secondRange
      split_ifs <;> dsimp only <;> omega
    rw [List.cons_append, List.cons_append, List.singleton_append,
      step_three (by omega) (by rw [lead]; exact fits) (isTail_octet v), lead, tailBits_octet,
      tailBits_octet, ← same]
    congr 2
    omega
  · have lead := toNat_octet (n := v / 262144 % 8 + 240) (by omega)
    have second := toNat_octet (n := v / 4096 % 64 + 128) (by omega)
    have fits : inRange (secondRange (v / 262144 % 8 + 240)) (UInt8.ofNat (v / 4096 % 64 + 128)) =
        true := by
      rw [inRange, second, Bool.and_eq_true, decide_eq_true_iff, decide_eq_true_iff]
      unfold secondRange
      split_ifs <;> dsimp only <;> omega
    rw [List.cons_append, List.cons_append, List.cons_append, List.singleton_append,
      step_four (by omega) (by rw [lead]; exact fits) (isTail_octet _) (isTail_octet v), lead,
      tailBits_octet, tailBits_octet, tailBits_octet, ← same]
    congr 2
    omega

theorem lenientFuel_encode {s : List Char} {fuel : Nat} (enough : s.length < fuel)
    (acc : List Char) :
    lenientFuel fuel (s.flatMap String.utf8EncodeChar) acc = acc.reverse ++ s := by
  induction s generalizing fuel acc with
  | nil =>
    obtain ⟨fuel, rfl⟩ := Nat.exists_eq_add_one_of_ne_zero (Nat.ne_zero_of_lt enough)
    simp [lenientFuel, step]
  | cons c s ih =>
    obtain ⟨fuel, rfl⟩ := Nat.exists_eq_add_one_of_ne_zero (Nat.ne_zero_of_lt enough)
    rw [List.flatMap_cons, lenientFuel, step_encodeChar]
    dsimp only
    rw [ih (by simpa using enough)]
    simp

/-- The octets of a text are read as that text. -/
theorem decodeLenient_encode (s : String) : decodeLenient (encode s) = s := by
  obtain ⟨s, rfl⟩ : ∃ cs, s = String.ofList cs := ⟨s.toList, by simp⟩
  have octets (cs : List Char) : cs.length ≤ (cs.flatMap String.utf8EncodeChar).length := by
    induction cs with
    | nil => simp
    | cons c cs ih =>
      have some_ : 1 ≤ (String.utf8EncodeChar c).length := by
        unfold String.utf8EncodeChar
        dsimp only
        split_ifs <;> simp
      rw [List.flatMap_cons, List.length_append, List.length_cons]
      omega
  have enough : s.length < (s.flatMap String.utf8EncodeChar).length + 1 :=
    Nat.lt_succ_of_le (octets s)
  rw [decodeLenient, encode_ofList, lenientFuel_encode enough]
  rfl

end Text.Utf8

namespace Uri

/-- A character that stands for itself in a URI: none that ends a part of it or is left out. -/
def isInert (c : Char) : Bool :=
  isAscii c && c ≠ '#' && c ≠ '?' && c ≠ '\t' && c ≠ '\n' && c ≠ '\r'

theorem upperHexDigit_spec {d : Nat} (h : d < 16) :
    Text.hexValue? (upperHexDigit d) = some d ∧ isInert (upperHexDigit d) = true := by
  have every : ∀ d : Fin 16, Text.hexValue? (upperHexDigit d) = some d.val ∧
      isInert (upperHexDigit d) = true := by decide +kernel
  exact every ⟨d, h⟩

/-- An octet that stands for itself, as a character. -/
theorem plain_spec {b : UInt8} (h : isPlain b = true) :
    (Char.ofNat b.toNat).toNat = b.toNat ∧ Char.ofNat b.toNat ≠ '%' ∧
      isInert (Char.ofNat b.toNat) = true := by
  have every : ∀ n : Fin 128, isPlain (UInt8.ofNat n) = true → (Char.ofNat n).toNat = n ∧
      Char.ofNat n ≠ '%' ∧ isInert (Char.ofNat n) = true := by decide +kernel
  have small : b.toNat < 128 := by
    unfold isPlain at h
    simp only [Bool.and_eq_true, decide_eq_true_eq] at h
    exact h.1
  have same : UInt8.ofNat b.toNat = b := UInt8.ofNat_toNat
  exact every ⟨b.toNat, small⟩ (by rw [same]; exact h)

/-- An octet's escape is undone. -/
theorem unescape_escapeOctet (b : UInt8) (rest : List Char) :
    unescape (escapeOctet b ++ rest) = b :: unescape rest := by
  unfold escapeOctet
  split
  next plain =>
    obtain ⟨value, apart, -⟩ := plain_spec plain
    rw [List.singleton_append, unescape, value, UInt8.ofNat_toNat]
    rintro - - - same -
    exact apart same
  next =>
    have small : b.toNat < 256 := b.toNat_lt
    obtain ⟨high, -⟩ := upperHexDigit_spec (d := b.toNat / 16) (by omega)
    obtain ⟨low, -⟩ := upperHexDigit_spec (d := b.toNat % 16) (Nat.mod_lt _ (by decide))
    have whole : b.toNat / 16 * 16 + b.toNat % 16 = b.toNat := Nat.div_add_mod' _ _
    simp only [List.cons_append, List.nil_append, unescape, high, low, whole, UInt8.ofNat_toNat]

theorem inert_escapeOctet (b : UInt8) : ∀ c ∈ escapeOctet b, isInert c = true := by
  unfold escapeOctet
  split
  next plain => simpa using (plain_spec plain).2.2
  next =>
    have small : b.toNat < 256 := b.toNat_lt
    have high := (upperHexDigit_spec (d := b.toNat / 16) (by omega)).2
    have low := (upperHexDigit_spec (d := b.toNat % 16) (Nat.mod_lt _ (by decide))).2
    have mark : isInert '%' = true := by decide
    simp [high, low, mark]

/-- The text of a path inside a URI. -/
def escaped (path : String) : List Char := (Text.Utf8.encode path).flatMap escapeOctet

theorem inert_escaped (path : String) : ∀ c ∈ escaped path, isInert c = true := by
  intro c hc
  obtain ⟨b, -, among⟩ := List.mem_flatMap.mp hc
  exact inert_escapeOctet b c among

theorem unescape_escaped (path : String) : unescape (escaped path) = Text.Utf8.encode path := by
  unfold escaped
  induction Text.Utf8.encode path with
  | nil => rfl
  | cons b octets ih => rw [List.flatMap_cons, unescape_escapeOctet, ih]

/-- The escapes of ASCII characters are undone all at once. -/
theorem decodeEscapes_of_unescape {s : List Char} {text : String}
    (ascii : ∀ c ∈ s, isAscii c = true) (undone : unescape s = Text.Utf8.encode text) :
    decodeEscapes s = text.toList := by
  unfold decodeEscapes
  cases s with
  | nil =>
    have read := Text.Utf8.decodeLenient_encode text
    rw [← undone] at read
    exact congrArg String.toList read
  | cons c s =>
    have all : (c :: s).takeWhile isAscii = c :: s := List.takeWhile_eq_self_iff.mpr ascii
    have none_ : (c :: s).dropWhile isAscii = [] := List.dropWhile_eq_nil_iff.mpr ascii
    rw [decodeRuns, if_pos (ascii c List.mem_cons_self), all, none_, undone,
      Text.Utf8.decodeLenient_encode]
    cases s <;> simp [decodeRuns]

/-- The escapes of a path are undone. -/
theorem decodeEscapes_escaped (path : String) : decodeEscapes (escaped path) = path.toList := by
  refine decodeEscapes_of_unescape (fun c hc => ?_) (unescape_escaped path)
  have inert := inert_escaped path c hc
  unfold isInert at inert
  simp only [Bool.and_eq_true] at inert
  exact inert.1.1.1.1.1

theorem escaped_slash {path : String} (absolute : Path.isAbsolute path.toList = true) :
    ∃ s, escaped path = '/' :: s := by
  obtain ⟨s, hs⟩ : ∃ s, path.toList = '/' :: s := by
    unfold Path.isAbsolute at absolute
    exact List.head?_eq_some_iff.mp (of_decide_eq_true absolute)
  have text : path = String.ofList ('/' :: s) := by rw [← hs]; simp
  refine ⟨(s.flatMap String.utf8EncodeChar).flatMap escapeOctet, ?_⟩
  rw [escaped, text, Text.Utf8.encode_ofList, List.flatMap_cons, List.flatMap_append]
  have slash : (String.utf8EncodeChar '/').flatMap escapeOctet = ['/'] := by decide +kernel
  rw [slash]
  rfl

/-- Nothing is left out of the URI of a path. -/
theorem kept_ofPath (path : String) :
    ((ofPath path).toList.dropWhile fun c => c.toNat ≤ 32).filter (fun c =>
      c ≠ '\t' && c ≠ '\n' && c ≠ '\r') = ['f', 'i', 'l', 'e', ':', '/', '/'] ++ escaped path := by
  have text : (ofPath path).toList = 'f' :: (['i', 'l', 'e', ':', '/', '/'] ++ escaped path) := by
    simp [ofPath, escaped]
  rw [text, List.dropWhile_cons_of_neg (by decide), ← List.cons_append, List.filter_append]
  have back : (escaped path).filter (fun c => c ≠ '\t' && c ≠ '\n' && c ≠ '\r') =
      escaped path := by
    rw [List.filter_eq_self]
    intro c hc
    have inert := inert_escaped path c hc
    simp only [isInert, Bool.and_eq_true] at inert ⊢
    exact ⟨⟨inert.1.1.2, inert.1.2⟩, inert.2⟩
  rw [back]
  rfl

/-- The parts of the URI of an absolute path. -/
theorem parts_ofPath {path : String} (absolute : Path.isAbsolute path.toList = true) :
    parts (ofPath path) = ⟨['f', 'i', 'l', 'e'], [], escaped path⟩ := by
  have whole : (escaped path).takeWhile (fun c => c ≠ '#' && c ≠ '?') = escaped path := by
    rw [List.takeWhile_eq_self_iff]
    intro c hc
    have inert := inert_escaped path c hc
    simp only [isInert, Bool.and_eq_true] at inert ⊢
    exact ⟨inert.1.1.1.1.2, inert.1.1.1.2⟩
  obtain ⟨s, slash⟩ := escaped_slash absolute
  have noHost : (escaped path).takeWhile (!isAuthorityEnd ·) = [] ∧
      (escaped path).dropWhile (!isAuthorityEnd ·) = escaped path := by
    rw [slash]
    exact ⟨rfl, rfl⟩
  have scheme : splitScheme (['f', 'i', 'l', 'e', ':', '/', '/'] ++ escaped path) =
      (['f', 'i', 'l', 'e'], '/' :: '/' :: escaped path) := rfl
  simp only [parts, kept_ofPath, scheme, noHost, whole]

/-- Does a path begin like one with a drive? -/
def beginsLikeDrive : List Char → Bool
  | '/' :: c :: ':' :: _ => c.isAlpha
  | _ => false

/-- The URI of a path names the path, unless it begins like one with a drive. -/
theorem filePath?_ofPath {path : String} (absolute : Path.isAbsolute path.toList = true)
    (noDrive : beginsLikeDrive path.toList = false) : filePath? (ofPath path) = some path := by
  have file : decodeEscapes ['f', 'i', 'l', 'e'] = ['f', 'i', 'l', 'e'] := by decide +kernel
  unfold filePath?
  rw [parts_ofPath absolute]
  have noHost : decodeEscapes [] = [] := rfl
  have text : String.ofList path.toList = path := String.ofList_toList
  simp only [file, noHost, decodeEscapes_escaped, List.isEmpty_nil, Bool.not_true,
    Bool.false_and, Bool.false_eq_true, if_false]
  rw [if_neg (by decide)]
  split
  next drive rest spelled =>
    rw [spelled] at noDrive
    have letter : drive.isAlpha = false := noDrive
    rw [letter, if_neg Bool.false_ne_true, text]
  next => rw [text]

/-- The URI of an absolute path has no host that could be wrong, and leads back to the path. -/
theorem checkedPath?_ofPath {path : String} (absolute : Path.isAbsolute path.toList = true)
    (noDrive : beginsLikeDrive path.toList = false) :
    checkedPath? (ofPath path) = .ok (some path) := by
  have noFault : hostFault? [] = none := by decide +kernel
  rw [checkedPath?, parts_ofPath absolute]
  simp only [noFault, filePath?_ofPath absolute noDrive]

end Uri

/-- Evaluating pairs of points makes no new components. -/
theorem FilePath.normal_resolved {p : FilePath} (normal : p.Normal)
    (absolute : p.isAbsolute = true) (cwd : FilePath) :
    (p.resolved cwd).Normal ∧ (p.resolved cwd).isAbsolute = true := by
  refine ⟨⟨Nat.le_succ 1, ?_⟩, rfl⟩
  have whole : cwd.join p = p := if_pos absolute
  have stack : ∀ c ∈ (p.parts.foldl (Path.climb true) []), c ≠ [] ∧ c ≠ ['.'] ∧ '/' ∉ c := by
    refine List.foldlRecOn
      (motive := fun stack => ∀ c ∈ stack, c ≠ [] ∧ c ≠ ['.'] ∧ '/' ∉ c) p.parts _ (by simp) ?_
    intro stack clean part hp
    have fine := normal.parts part hp
    unfold Path.climb
    split
    · exact List.forall_mem_cons.mpr ⟨fine, clean⟩
    · split
      · simp
      · split
        · exact List.forall_mem_cons.mpr ⟨fine, clean⟩
        · exact (List.forall_mem_cons.mp clean).2
  intro c hc
  rw [resolved, whole] at hc
  exact stack c (List.mem_reverse.mp hc)

/-- The folder of the URI of a path is the path. -/
theorem Server.folderRoot?_ofPath {p : FilePath} (normal : p.Normal)
    (absolute : p.isAbsolute = true) (noDrive : Uri.beginsLikeDrive p.text.toList = false) :
    folderRoot? (Uri.ofPath p.text) = .ok (some p) := by
  have slash : Path.isAbsolute p.text.toList = true := by
    obtain ⟨slashes, parts⟩ := p
    obtain ⟨n, rfl⟩ : ∃ n, slashes = n + 1 :=
      Nat.exists_eq_add_one_of_ne_zero (by simpa [FilePath.isAbsolute] using absolute)
    simp [FilePath.text, Path.assemble, Path.isAbsolute, List.replicate_succ]
  have filled : p.text.isEmpty = false := by simpa using p.text_ne_empty
  rw [folderRoot?, Uri.checkedPath?_ofPath slash noDrive]
  simp only [filled, Bool.false_eq_true, if_false, FilePath.ofText_text normal absolute]

end LintBridge
