/-!
Blank characters and trimming. Two classes are used: the white space of Unicode,
around numbers, and that class with the four information separators, around
free text.
-/
namespace LintBridge.Text

/-- The characters with the Unicode property White_Space. -/
def isSpace (c : Char) : Bool :=
  let n := c.toNat
  (9 ≤ n && n ≤ 13) || n == 32 || n == 133 || n == 160 || n == 5760 ||
    (8192 ≤ n && n ≤ 8202) || n == 8232 || n == 8233 || n == 8239 || n == 8287 || n == 12288

/-- White space and the information separators U+001C to U+001F. -/
def isBlank (c : Char) : Bool :=
  isSpace c || (28 ≤ c.toNat && c.toNat ≤ 31)

/-- Drop characters of a class from the right end. -/
def trimRight (p : Char → Bool) (s : List Char) : List Char :=
  (s.reverse.dropWhile p).reverse

/-- Drop characters of a class from both ends. -/
def trim (p : Char → Bool) (s : List Char) : List Char :=
  trimRight p (s.dropWhile p)

@[simp] theorem trim_nil (p : Char → Bool) : trim p [] = [] := rfl

/-- A text without its leading and trailing blanks. -/
def stripped (s : String) : String := String.ofList (trim isBlank s.toList)

end LintBridge.Text
