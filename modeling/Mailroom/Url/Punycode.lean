/-!
# Punycode

A label of a host name in ASCII: its ASCII characters, a hyphen if there are any, and then the
others in ascending order, each as the distance from the one before in code points and places. A
distance is written in base 36, low digits first, with a threshold for each digit that follows the
sizes of the distances so far.
-/

namespace Mailroom.Url.Punycode

/-! ## Digits and thresholds -/

/-- The character of a digit below 36. -/
def digitChar (d : Nat) : Char := Char.ofNat (if d < 26 then 97 + d else 22 + d)

/-- The value of a digit. -/
def digitValue? (c : Char) : Option Nat :=
  let n := c.toNat
  if 97 ≤ n ∧ n ≤ 122 then some (n - 97)
  else if 65 ≤ n ∧ n ≤ 90 then some (n - 65)
  else if 48 ≤ n ∧ n ≤ 57 then some (n - 22)
  else none

/-- The threshold at place `k`. -/
def threshold (k bias : Nat) : Nat :=
  if k ≤ bias then 1 else if bias + 26 ≤ k then 26 else k - bias

private theorem threshold_bounds (k bias : Nat) : 1 ≤ threshold k bias ∧ threshold k bias ≤ 26 := by
  unfold threshold
  grind

/-- Scales a distance down to the range of one digit. -/
def shrink (delta k : Nat) : Nat :=
  if 455 < delta then shrink (delta / 35) (k + 36) else k + 36 * delta / (delta + 38)
termination_by delta
decreasing_by omega

/-- The bias after a distance, with `count` characters in place. -/
def adapt (delta count : Nat) (first : Bool) : Nat :=
  let scaled := if first then delta / 700 else delta / 2
  shrink (scaled + scaled / count) 0

/-! ## Writing -/

/-- A distance in digits from place `k` on. -/
def writeNumber (bias k q : Nat) : List Char :=
  let t := threshold k bias
  if q < t then [digitChar q]
  else digitChar (t + (q - t) % (36 - t)) :: writeNumber bias (k + 36) ((q - t) / (36 - t))
termination_by q
decreasing_by
  have bounds := threshold_bounds k bias
  have := Nat.div_le_self (q - threshold k bias) (36 - threshold k bias)
  omega

/-- What has been written: the digits, the distance so far, the bias, and the number of characters
in place. -/
structure Writer where
  digits : List Char
  delta : Nat
  bias : Nat
  placed : Nat

/-- Goes past a character while those with code point `m` are being placed. -/
def Writer.pass (ascii m : Nat) (w : Writer) (c : Char) : Writer :=
  if c.toNat < m then { w with delta := w.delta + 1 }
  else if c.toNat = m then
    { digits := w.digits ++ writeNumber w.bias 36 w.delta
      delta := 0
      bias := adapt w.delta (w.placed + 1) (w.placed = ascii)
      placed := w.placed + 1 }
  else w

/-- Places the characters with the code points given in ascending order, counting from `n`. -/
def placeAll (label : List Char) (ascii : Nat) : List Nat → Nat → Writer → Writer
  | [], _, w => w
  | m :: rest, n, w =>
      let w := label.foldl (Writer.pass ascii m)
        { w with delta := w.delta + (m - n) * (w.placed + 1) }
      placeAll label ascii rest (m + 1) { w with delta := w.delta + 1 }

/-- Whether a character is ASCII. -/
def isAscii (c : Char) : Bool := c.toNat < 0x80

/-- A label in Punycode. -/
def encode (label : List Char) : List Char :=
  let ascii := label.filter isAscii
  let others := ((label.filter fun c => !isAscii c).map Char.toNat).mergeSort.eraseDups
  ascii ++ (if ascii.isEmpty then [] else ['-']) ++
    (placeAll label ascii.length others 0x80 ⟨[], 0, 72, ascii.length⟩).digits

/-! ## Reading -/

/-- What has been read: the label, the code point and the place reached, the bias, and the number
being read with its start, its place and the weight of its next digit. -/
structure Read where
  label : List Char
  point : Nat
  index : Nat
  bias : Nat
  start : Nat
  place : Nat
  weight : Nat

/-- The largest number that may come up in reading. -/
def largest : Nat := 1 <<< 32 - 1

/-- Puts the character of a number that is complete into the label. -/
def Read.insert (s : Read) : Option Read :=
  let count := s.label.length + 1
  let point := s.point + s.index / count
  if point < 0xD800 ∨ 0xDFFF < point ∧ point < 0x110000 then
    let index := s.index % count
    some {
      label := s.label.take index ++ Char.ofNat point :: s.label.drop index
      point
      index := index + 1
      bias := adapt (s.index - s.start) count (s.start = 0)
      start := index + 1
      place := 36
      weight := 1 }
  else none

/-- Reads digits to the end, which has to come between two numbers; none of them, nor any weight of
a digit, may be too large. -/
def readAll (s : Read) : List Char → Option (List Char)
  | [] => if s.place = 36 then some s.label else none
  | c :: rest =>
      match digitValue? c with
      | none => none
      | some d =>
          let t := threshold s.place s.bias
          let s := { s with index := s.index + d * s.weight }
          if largest < s.index then none
          else if d < t then
            match s.insert with
            | some s => readAll s rest
            | none => none
          else if largest < s.weight * (36 - t) then none
          else readAll { s with place := s.place + 36, weight := s.weight * (36 - t) } rest

/-- The label that a text in Punycode stands for. -/
def decode? (cs : List Char) : Option (List Char) :=
  let digits := (cs.reverse.takeWhile (· ≠ '-')).reverse
  let ascii := cs.take (cs.length - digits.length - 1)
  let digits := if ascii = [] then cs else digits
  readAll ⟨ascii, 0x80, 0, 72, 0, 36, 1⟩ digits

end Mailroom.Url.Punycode
