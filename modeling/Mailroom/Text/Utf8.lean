/-!
# UTF-8

Reading bytes as text. `decode?` takes well-formed UTF-8 only; `decodeWith` puts a mark for each
longest broken start of a character (Unicode, "substitution of maximal subparts"), and `decode` does
so with U+FFFD.
-/

namespace Mailroom.Text.Utf8

/-- The bytes of a text. -/
def encode (cs : List Char) : List UInt8 := cs.flatMap String.utf8EncodeChar

/-- Reads `n` trailing bytes of a character onto the bits read so far; the first of them has a range
of its own. -/
def tails (low high : Nat) : Nat → Nat → List UInt8 → Option Nat × List UInt8
  | 0, bits, rest => (some bits, rest)
  | _ + 1, _, [] => (none, [])
  | n + 1, bits, b :: rest =>
      if low ≤ b.toNat ∧ b.toNat ≤ high then
        tails 0x80 0xBF n (bits * 64 + (b.toNat - 0x80)) rest
      else (none, b :: rest)

private theorem length_tails_le (low high n bits : Nat) (bytes : List UInt8) :
    (tails low high n bits bytes).2.length ≤ bytes.length := by
  induction n generalizing low high bits bytes with
  | zero => simp [tails]
  | succ n ih =>
      cases bytes with
      | nil => simp [tails]
      | cons b rest =>
          simp only [tails]
          split
          · exact Nat.le_succ_of_le (ih ..)
          · simp

/-- The code point that starts with the byte `b`, if the bytes after it complete one, and the bytes
left over. -/
def front (b : UInt8) (rest : List UInt8) : Option Nat × List UInt8 :=
  let n := b.toNat
  if n < 0x80 then (some n, rest)
  else if 0xC2 ≤ n ∧ n ≤ 0xDF then tails 0x80 0xBF 1 (n - 0xC0) rest
  else if n = 0xE0 then tails 0xA0 0xBF 2 0 rest
  else if n = 0xED then tails 0x80 0x9F 2 0xD rest
  else if 0xE1 ≤ n ∧ n ≤ 0xEF then tails 0x80 0xBF 2 (n - 0xE0) rest
  else if n = 0xF0 then tails 0x90 0xBF 3 0 rest
  else if 0xF1 ≤ n ∧ n ≤ 0xF3 then tails 0x80 0xBF 3 (n - 0xF0) rest
  else if n = 0xF4 then tails 0x80 0x8F 3 4 rest
  else (none, rest)

private theorem length_front_le (b : UInt8) (rest : List UInt8) :
    (front b rest).2.length ≤ rest.length := by
  unfold front
  grind [length_tails_le]

/-- The text of a byte string, with a mark in place of each broken start. -/
def decodeWith (mark : Char) : List UInt8 → List Char
  | [] => []
  | b :: rest =>
      have := length_front_le b rest
      (match (front b rest).1 with
        | some n => Char.ofNat n
        | none => mark) :: decodeWith mark (front b rest).2
termination_by bytes => bytes.length
decreasing_by simp; omega

/-- The text of a byte string, each broken start replaced. -/
def decode (bytes : List UInt8) : List Char := decodeWith '\uFFFD' bytes

/-- The text of a byte string that is well-formed throughout. -/
def decode? : List UInt8 → Option (List Char)
  | [] => some []
  | b :: rest =>
      have := length_front_le b rest
      match (front b rest).1 with
      | some n => (decode? (front b rest).2).map (Char.ofNat n :: ·)
      | none => none
termination_by bytes => bytes.length
decreasing_by simp; omega

end Mailroom.Text.Utf8
