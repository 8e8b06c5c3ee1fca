/-
UTF-8, the encoding in which the texts of this library meet the byte strings of a file system.
`encode` writes scalar values as bytes and `decode?` reads them back; `scan` also says where a byte
string stops being UTF-8: it yields the characters in order and one `none` for every maximal
malformed chunk, and `decodeLossy` shows each chunk as U+FFFD.
-/

namespace UsbInventory.Text.Utf8

/-! ## Writing -/

/-- The bytes of one scalar value, shortest form. -/
def encodeChar (c : Char) : List UInt8 :=
  let v := c.toNat
  if v < 0x80 then [UInt8.ofNat v]
  else if v < 0x800 then [UInt8.ofNat (0xC0 + v / 64), UInt8.ofNat (0x80 + v % 64)]
  else if v < 0x10000 then
    [UInt8.ofNat (0xE0 + v / 4096), UInt8.ofNat (0x80 + v / 64 % 64), UInt8.ofNat (0x80 + v % 64)]
  else
    [UInt8.ofNat (0xF0 + v / 262144), UInt8.ofNat (0x80 + v / 4096 % 64),
      UInt8.ofNat (0x80 + v / 64 % 64), UInt8.ofNat (0x80 + v % 64)]

/-- The bytes of a sequence of scalar values. -/
def encode (cs : List Char) : List UInt8 :=
  cs.flatMap encodeChar

@[simp] theorem encode_nil : encode [] = [] := rfl

@[simp] theorem encode_cons (c : Char) (cs : List Char) :
    encode (c :: cs) = encodeChar c ++ encode cs := rfl

@[simp] theorem encode_append (cs ds : List Char) : encode (cs ++ ds) = encode cs ++ encode ds := by
  simp [encode]

/-! ## Reading -/

/-- A character of which some bytes are still to come: how many, the range of the next one, and the
bits read so far. -/
structure Pending where
  need : Nat
  low : Nat
  high : Nat
  bits : Nat

/-- What a byte does where a character may begin. -/
inductive Opening where
  | char (c : Char)
  | pending (p : Pending)
  | malformed

/-- The role of a byte at the start of a character. The range of the second byte rules out
over-long forms, surrogates and values above U+10FFFF. -/
def opening (b : Nat) : Opening :=
  if b < 0x80 then .char (Char.ofNat b)
  else if b < 0xC2 then .malformed
  else if b < 0xE0 then .pending ⟨1, 0x80, 0xBF, b - 0xC0⟩
  else if b = 0xE0 then .pending ⟨2, 0xA0, 0xBF, 0⟩
  else if b = 0xED then .pending ⟨2, 0x80, 0x9F, 0xD⟩
  else if b < 0xF0 then .pending ⟨2, 0x80, 0xBF, b - 0xE0⟩
  else if b = 0xF0 then .pending ⟨3, 0x90, 0xBF, 0⟩
  else if b < 0xF4 then .pending ⟨3, 0x80, 0xBF, b - 0xF0⟩
  else if b = 0xF4 then .pending ⟨3, 0x80, 0x8F, 4⟩
  else .malformed

/-- Reads bytes into characters, with `none` for each maximal malformed chunk. A byte that breaks an
unfinished character ends that chunk and is then read afresh. -/
def scan : Option Pending → List UInt8 → List (Option Char)
  | none, [] => []
  | some _, [] => [none]
  | none, b :: rest =>
    match opening b.toNat with
    | .char c => some c :: scan none rest
    | .pending p => scan (some p) rest
    | .malformed => none :: scan none rest
  | some p, b :: rest =>
    if p.low ≤ b.toNat ∧ b.toNat ≤ p.high then
      let bits := p.bits * 64 + (b.toNat - 0x80)
      if p.need ≤ 1 then some (Char.ofNat bits) :: scan none rest
      else scan (some ⟨p.need - 1, 0x80, 0xBF, bits⟩) rest
    else
      match opening b.toNat with
      | .char c => none :: some c :: scan none rest
      | .pending q => none :: scan (some q) rest
      | .malformed => none :: none :: scan none rest

/-- The characters of a byte string, if all of it is UTF-8. -/
def decode? (bytes : List UInt8) : Option (List Char) :=
  (scan none bytes).mapM id

/-- The characters of a byte string, with U+FFFD for every malformed chunk. -/
def decodeLossy (bytes : List UInt8) : List Char :=
  (scan none bytes).map (·.getD '\uFFFD')

end UsbInventory.Text.Utf8
