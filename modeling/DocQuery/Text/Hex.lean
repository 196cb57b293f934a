/-!
# Digits of base sixteen and sixty-four

Bytes as two hexadecimal digits each, and groups of three bytes as four characters of base sixty-four.
-/

namespace DocQuery.Hex

/-! ## Algorithm -/

def digit (n : Nat) : Char := if n < 10 then Char.ofNat (48 + n) else Char.ofNat (87 + n)

/-- The last `width` hexadecimal digits of a number. -/
def ofNat : Nat → Nat → List Char
  | 0, _ => []
  | width + 1, n => ofNat width (n / 16) ++ [digit (n % 16)]

/-- The hexadecimal digits of a number, without zeros in front. -/
def short (n : Nat) : List Char := Nat.toDigits 16 n

def digitValue? (c : Char) : Option Nat :=
  if '0' ≤ c ∧ c ≤ '9' then some (c.toNat - 48)
  else if 'a' ≤ c ∧ c ≤ 'f' then some (c.toNat - 87)
  else if 'A' ≤ c ∧ c ≤ 'F' then some (c.toNat - 55)
  else none

/-- The number that hexadecimal digits write; at least one digit, and digits only. -/
def toNat? (s : List Char) : Option Nat :=
  if s.isEmpty then none
  else s.foldl (fun acc c => acc.bind fun n => (digitValue? c).map fun d => n * 16 + d) (some 0)

/-- Two digits for each byte. -/
def ofBytes (bytes : List UInt8) : List Char := bytes.flatMap fun b => ofNat 2 b.toNat

/-- The bytes that pairs of digits write. -/
def toBytes? : List Char → Option (List UInt8)
  | [] => some []
  | a :: b :: rest => do
    let n ← toNat? [a, b]
    let bytes ← toBytes? rest
    some (UInt8.ofNat n :: bytes)
  | _ => none

example : toBytes? (ofBytes [0, 171, 255]) = some [0, 171, 255] := by decide +kernel

end DocQuery.Hex

namespace DocQuery.Base64

/-! ## Algorithm -/

def digit (n : Nat) : Char :=
  if n < 26 then Char.ofNat (65 + n)
  else if n < 52 then Char.ofNat (71 + n)
  else if n < 62 then Char.ofNat (n - 4)
  else if n = 62 then '+' else '/'

/-- Four characters for three bytes; a short last group is filled up with `=`. -/
def encode : List UInt8 → List Char
  | a :: b :: c :: rest =>
    let n := a.toNat * 65536 + b.toNat * 256 + c.toNat
    digit (n / 262144) :: digit (n / 4096 % 64) :: digit (n / 64 % 64) :: digit (n % 64) :: encode rest
  | [a, b] =>
    let n := a.toNat * 65536 + b.toNat * 256
    [digit (n / 262144), digit (n / 4096 % 64), digit (n / 64 % 64), '=']
  | [a] =>
    let n := a.toNat * 65536
    [digit (n / 262144), digit (n / 4096 % 64), '=', '=']
  | [] => []

example : encode [77, 97, 110, 77] = ['T', 'W', 'F', 'u', 'T', 'Q', '=', '='] := by decide +kernel

end DocQuery.Base64
