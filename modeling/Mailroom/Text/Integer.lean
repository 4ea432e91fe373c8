/-!
# Decimal integers

How integers are written (`digits`: no leading zero, `0` for zero) and how a text is read as one:
an optional sign, then at least one ASCII digit, and nothing else. A reader for a fixed width
refuses a text whose value does not fit.
-/

namespace Mailroom.Text

/-- The character of a digit below ten. -/
def digitChar (d : Nat) : Char := Char.ofNat (48 + d)

/-- The decimal digits of a number, most significant first. -/
def digits (n : Nat) : List Char :=
  if n < 10 then [digitChar n] else digits (n / 10) ++ [digitChar (n % 10)]
termination_by n
decreasing_by omega

/-- The value of a digit character. -/
def digitValue (c : Char) : Nat := c.toNat - 48

/-- The value of a run of digit characters. -/
def value (cs : List Char) : Nat := cs.foldl (fun acc c => 10 * acc + digitValue c) 0

theorem digitValue_digitChar : ∀ d, d < 10 → digitValue (digitChar d) = d := by decide

private theorem isDigit_digitChar : ∀ d, d < 10 → (digitChar d).isDigit = true := by decide

theorem value_digits (n : Nat) : value (digits n) = n := by
  rw [digits]
  split
  · next h => simp [value, digitValue_digitChar n h]
  · have ih := value_digits (n / 10)
    simp only [value] at ih ⊢
    rw [List.foldl_append, ih]
    simp [digitValue_digitChar (n % 10) (by omega)]
    omega
termination_by n
decreasing_by omega

theorem isDigit_of_mem_digits (n : Nat) : ∀ c ∈ digits n, c.isDigit = true := by
  intro c hc
  rw [digits] at hc
  split at hc
  · next h => simp at hc; subst hc; exact isDigit_digitChar n h
  · rcases List.mem_append.1 hc with h | h
    · exact isDigit_of_mem_digits (n / 10) c h
    · simp at h; subst h; exact isDigit_digitChar (n % 10) (by omega)
termination_by n
decreasing_by omega

theorem digits_ne_nil (n : Nat) : digits n ≠ [] := by
  rw [digits]; split <;> simp

/-- A nonempty run of ASCII digits, read as a number. -/
def natural? (cs : List Char) : Option Nat :=
  if cs ≠ [] ∧ cs.all Char.isDigit then some (value cs) else none

@[simp] theorem natural?_digits (n : Nat) : natural? (digits n) = some n := by
  have hall : (digits n).all Char.isDigit = true :=
    List.all_eq_true.2 (isDigit_of_mem_digits n)
  simp [natural?, digits_ne_nil, hall, value_digits]

/-- The value of a hexadecimal digit, in either case. -/
def hexValue? (c : Char) : Option Nat :=
  let n := c.toNat
  if 48 ≤ n ∧ n ≤ 57 then some (n - 48)
  else if 97 ≤ n ∧ n ≤ 102 then some (n - 87)
  else if 65 ≤ n ∧ n ≤ 70 then some (n - 55)
  else none

/-- The number that hexadecimal digits stand for. -/
def hexNumber? (cs : List Char) : Option Nat :=
  cs.foldlM (fun acc c => (hexValue? c).map (acc * 16 + ·)) 0

/-- An optional sign before a natural number. -/
def integer? : List Char → Option Int
  | '-' :: r => (natural? r).map fun n => -(n : Int)
  | '+' :: r => (natural? r).map fun n => (n : Int)
  | cs => (natural? cs).map fun n => (n : Int)

/-- A natural number with an optional plus sign. -/
def unsigned? : List Char → Option Nat
  | '+' :: r => natural? r
  | cs => natural? cs

/-- The text of an integer: a minus sign for the negative ones, then the digits. -/
def ofInt (n : Int) : List Char :=
  if n < 0 then '-' :: digits n.natAbs else digits n.natAbs

/-- `n`, written with at least `width` digits. -/
def padded (width n : Nat) : List Char :=
  let ds := digits n
  List.replicate (width - ds.length) '0' ++ ds

end Mailroom.Text

namespace Mailroom

/-- The decimal text of a number. -/
def natText (n : Nat) : String := String.ofList (Text.digits n)

/-- The decimal text of an integer. -/
def intText (n : Int) : String := String.ofList (Text.ofInt n)

/-- An integer as a signed 64-bit word, if it is one. -/
def int64OfInt? (n : Int) : Option Int64 :=
  if Int64.minValue.toInt ≤ n ∧ n ≤ Int64.maxValue.toInt then some (Int64.ofInt n) else none

theorem int64OfInt?_toInt (n : Int64) : int64OfInt? n.toInt = some n := by
  have low := Int64.minValue_le_toInt n
  have high := Int64.toInt_le n
  unfold int64OfInt?
  rw [if_pos ⟨low, high⟩, Int64.ofInt_toInt]

/-- A number as an unsigned 64-bit word, if it is one. -/
def uint64OfInt? (n : Int) : Option UInt64 :=
  if 0 ≤ n ∧ n < UInt64.size then some (UInt64.ofNat n.toNat) else none

/-- A text as a signed 64-bit word. -/
def int64OfText? (s : String) : Option Int64 := (Text.integer? s.toList).bind int64OfInt?

/-- A text as an unsigned 64-bit word. -/
def uint64OfText? (s : String) : Option UInt64 :=
  (Text.unsigned? s.toList).bind fun n => uint64OfInt? n

end Mailroom
