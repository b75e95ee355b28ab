namespace GroupPolicy.Text

/-- The number that a non-empty run of decimal digits stands for; leading zeros are allowed. -/
def readNat? (s : List Char) : Option Nat :=
  if s ≠ [] ∧ s.all Char.isDigit then some (Nat.ofDigitChars 10 s 0) else none

/-- A number of at most `max`, which may carry a plus sign in front. -/
def readUpTo? (max : Nat) (s : List Char) : Option Nat :=
  let digits :=
    match s with
    | '+' :: r => r
    | _ => s
  (readNat? digits).filter (· ≤ max)

/-- The decimal digits of a number. -/
def decimal (n : Nat) : List Char :=
  Nat.toDigits 10 n

theorem decimal_ne_nil (n : Nat) : decimal n ≠ [] :=
  Nat.toDigits_ne_nil

theorem isDigit_of_mem_decimal {n : Nat} {c : Char} (h : c ∈ decimal n) : c.isDigit = true :=
  Nat.isDigit_of_mem_toDigits (by decide) (by decide) h

/-- A character that is not a digit occurs in no written number. -/
theorem not_mem_decimal {c : Char} (h : c.isDigit = false) (n : Nat) : c ∉ decimal n := by
  intro hc
  rw [isDigit_of_mem_decimal hc] at h
  exact absurd h (by decide)

@[simp]
theorem readNat?_decimal (n : Nat) : readNat? (decimal n) = some n := by
  have hall : (decimal n).all Char.isDigit = true := by
    rw [List.all_eq_true]
    exact fun c hc => isDigit_of_mem_decimal hc
  have hvalue : Nat.ofDigitChars 10 (decimal n) 0 = n :=
    Nat.ofDigitChars_toDigits (by decide) (by decide)
  rw [readNat?, if_pos ⟨decimal_ne_nil n, hall⟩, hvalue]

/-- A number is read back from its digits, unless it is above the bound. -/
theorem readUpTo?_decimal_eq (max n : Nat) :
    readUpTo? max (decimal n) = if n ≤ max then some n else none := by
  have hplus : ∀ r, decimal n ≠ '+' :: r := by
    intro r hr
    exact not_mem_decimal (c := '+') (by decide) n (by simp [hr])
  unfold readUpTo?
  split
  next r hr => exact absurd hr (hplus r)
  next => simp [Option.filter]

theorem readUpTo?_decimal {max n : Nat} (h : n ≤ max) : readUpTo? max (decimal n) = some n := by
  rw [readUpTo?_decimal_eq, if_pos h]

end GroupPolicy.Text
