/-!
UTF-8 as a grammar over octets. `step` reads one character or says how many octets
form the longest beginning of a sequence that cannot be completed, so that the strict
reading, which fails, and the lenient reading, which puts U+FFFD for each such
beginning, are two folds over one function.
-/
namespace LintBridge.Text.Utf8

/-- Why octets are no character. -/
inductive Flaw where
  | start | continuation | truncated
  deriving DecidableEq, Repr

/-- One reading step. -/
inductive Step where
  | done
  | char (c : Char) (rest : List UInt8)
  | bad (octets : List UInt8) (flaw : Flaw) (rest : List UInt8)

/-- The low six bits of a continuation octet. -/
def tailBits (b : UInt8) : Nat := b.toNat - 128

def isTail (b : UInt8) : Bool := 128 ≤ b.toNat && b.toNat ≤ 191

/-- The octets that may follow a leading octet of three or four octets. -/
def secondRange (lead : Nat) : Nat × Nat :=
  if lead = 224 then (160, 191)
  else if lead = 237 then (128, 159)
  else if lead = 240 then (144, 191)
  else if lead = 244 then (128, 143)
  else (128, 191)

def inRange (range : Nat × Nat) (b : UInt8) : Bool :=
  range.1 ≤ b.toNat && b.toNat ≤ range.2

/-- Read one character, or the longest beginning of one that cannot be completed. -/
def step : List UInt8 → Step
  | [] => .done
  | b₀ :: rest =>
    let n := b₀.toNat
    if n < 128 then .char (Char.ofNat n) rest
    else if n < 194 then .bad [b₀] .start rest
    else if n < 224 then
      match rest with
      | [] => .bad [b₀] .truncated []
      | b₁ :: rest₁ =>
        if isTail b₁ then .char (Char.ofNat ((n - 192) * 64 + tailBits b₁)) rest₁
        else .bad [b₀] .continuation rest
    else if n < 240 then
      match rest with
      | [] => .bad [b₀] .truncated []
      | b₁ :: rest₁ =>
        if !inRange (secondRange n) b₁ then .bad [b₀] .continuation rest
        else match rest₁ with
          | [] => .bad [b₀, b₁] .truncated []
          | b₂ :: rest₂ =>
            if isTail b₂ then
              .char (Char.ofNat (((n - 224) * 64 + tailBits b₁) * 64 + tailBits b₂)) rest₂
            else .bad [b₀, b₁] .continuation rest₁
    else if n < 245 then
      match rest with
      | [] => .bad [b₀] .truncated []
      | b₁ :: rest₁ =>
        if !inRange (secondRange n) b₁ then .bad [b₀] .continuation rest
        else match rest₁ with
          | [] => .bad [b₀, b₁] .truncated []
          | b₂ :: rest₂ =>
            if !isTail b₂ then .bad [b₀, b₁] .continuation rest₁
            else match rest₂ with
              | [] => .bad [b₀, b₁, b₂] .truncated []
              | b₃ :: rest₃ =>
                if isTail b₃ then
                  .char (Char.ofNat
                    ((((n - 240) * 64 + tailBits b₁) * 64 + tailBits b₂) * 64 + tailBits b₃)) rest₃
                else .bad [b₀, b₁, b₂] .continuation rest₂
    else .bad [b₀] .start rest

/-- The character put in place of octets that are none. -/
def replacement : Char := Char.ofNat 0xFFFD

def lenientFuel : Nat → List UInt8 → List Char → List Char
  | 0, _, acc => acc.reverse
  | fuel + 1, octets, acc =>
    match step octets with
    | .done => acc.reverse
    | .char c rest => lenientFuel fuel rest (c :: acc)
    | .bad _ _ rest => lenientFuel fuel rest (replacement :: acc)

/-- Decode, with U+FFFD for each maximal part that is no character. -/
def decodeLenient (octets : List UInt8) : String :=
  String.ofList (lenientFuel (octets.length + 1) octets [])

/-- Octets that are no UTF-8: where they begin, which they are, and why. -/
structure Undecodable where
  position : Nat
  octets : List UInt8
  flaw : Flaw
  deriving DecidableEq, Repr

def strictFuel : Nat → Nat → List UInt8 → List Char → Except Undecodable (List Char)
  | 0, _, _, acc => .ok acc.reverse
  | fuel + 1, position, octets, acc =>
    match step octets with
    | .done => .ok acc.reverse
    | .char c rest => strictFuel fuel (position + (octets.length - rest.length)) rest (c :: acc)
    | .bad bad flaw _ => .error ⟨position, bad, flaw⟩

/-- Decode, or say which octets are at fault. -/
def decode (octets : List UInt8) : Except Undecodable String :=
  (strictFuel (octets.length + 1) 0 octets []).map String.ofList

/-- The octets of a text. -/
def encode (s : String) : List UInt8 := s.toUTF8.toList

def Flaw.reason : Flaw → String
  | .start => "invalid start byte"
  | .continuation => "invalid continuation byte"
  | .truncated => "unexpected end of data"

def hexDigit (n : Nat) : Char := (Nat.toDigits 16 n).getLastD '0'

/-- Two lower-case hexadecimal digits. -/
def hexOctet (b : UInt8) : String :=
  String.ofList [hexDigit (b.toNat / 16), hexDigit (b.toNat % 16)]

def Undecodable.message (u : Undecodable) : String :=
  let what := match u.octets with
    | [b] => s!"byte 0x{hexOctet b} in position {u.position}"
    | bs => s!"bytes in position {u.position}-{u.position + bs.length - 1}"
  s!"'utf-8' codec can't decode {what}: {u.flaw.reason}"

end LintBridge.Text.Utf8
