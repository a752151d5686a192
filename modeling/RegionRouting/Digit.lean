/-
  Region routing — digits.

  Numbers appear in several radices up to sixteen: keys and escapes in
  hexadecimal, numbers of a configuration in that and three more.  Letters
  count as digits in either case, and are written in lower case.
-/

namespace RegionRouting.Digit

/-- The value of a digit. -/
def value? (c : Char) : Option Nat :=
  if '0' ≤ c ∧ c ≤ '9' then some (c.toNat - '0'.toNat)
  else if 'a' ≤ c ∧ c ≤ 'f' then some (c.toNat - 'a'.toNat + 10)
  else if 'A' ≤ c ∧ c ≤ 'F' then some (c.toNat - 'A'.toNat + 10)
  else none

/-- Is the character a digit of a radix? -/
def isOf (radix : Nat) (c : Char) : Bool :=
  (value? c).any (· < radix)

/-- The number that digits write in a radix. -/
def number (radix : Nat) (digits : List Char) : Nat :=
  digits.foldl (fun number digit => radix * number + (value? digit).getD 0) 0

/-- The number that characters write in hexadecimal, if all of them are such
    digits. -/
def hexNumber? (cs : List Char) : Option Nat :=
  if cs.all (isOf 16) then some (number 16 cs) else none

/-- The two hexadecimal digits of a number below 256. -/
def hexPair (n : Nat) : List Char :=
  [Nat.digitChar (n / 16), Nat.digitChar (n % 16)]

end RegionRouting.Digit
