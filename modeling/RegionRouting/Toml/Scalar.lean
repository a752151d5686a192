/-
  Region routing — the numbers, dates and words of TOML.

  A value that is neither a string nor a collection is one word without
  blanks (a date may be followed by one blank and the time of day).  Each kind
  of word is described by a predicate on its characters.

  * `Scalar.ofWord?` tells what a word stands for;
  * an integer has a sign or a radix mark at most, no leading zeros and no
    empty side around an underscore, and fits a signed 64-bit word;
  * a float must not be so great that it rounds to infinity;
  * a date must be a day of the calendar.
-/
import RegionRouting.Digit

namespace RegionRouting.Toml

/-- A value of one word.  Nothing is kept of a float or date but its kind. -/
inductive Scalar where
  | int (value : Int)
  | float
  | bool (value : Bool)
  | dateTime
  deriving DecidableEq

/-! ## Digits -/

/-- Digits of a radix with single underscores between them, without the
    underscores. -/
def digits? (radix : Nat) : List Char → Option (List Char)
  | [] => none
  | [c] => if Digit.isOf radix c then some [c] else none
  | c :: '_' :: rest => if Digit.isOf radix c then (digits? radix rest).map (c :: ·) else none
  | c :: rest => if Digit.isOf radix c then (digits? radix rest).map (c :: ·) else none

/-- Takes a sign off a word: is it a minus? -/
def unsigned : List Char → Bool × List Char
  | '-' :: rest => (true, rest)
  | '+' :: rest => (false, rest)
  | rest => (false, rest)

/-- The number that decimal digits write behind a sign. -/
def signed (minus : Bool) (digits : List Char) : Int :=
  if minus then -Digit.number 10 digits else Digit.number 10 digits

/-! ## Integers -/

/-- An integer in another radix, past the mark that says which. -/
def unmarked? (radix : Nat) (word : List Char) : Option Int :=
  (digits? radix word).map fun digits => Digit.number radix digits

/-- The digits of a decimal number without a sign: no zero leads another
    digit. -/
def decimal? (word : List Char) : Option (List Char) :=
  match word with
  | '0' :: _ :: _ => none
  | word => digits? 10 word

/-- An integer, of whatever size. -/
def integer? (word : List Char) : Option Int :=
  match word with
  | '0' :: 'x' :: rest => unmarked? 16 rest
  | '0' :: 'o' :: rest => unmarked? 8 rest
  | '0' :: 'b' :: rest => unmarked? 2 rest
  | word =>
    let (minus, rest) := unsigned word
    (decimal? rest).map (signed minus)

/-- An integer that fits a signed 64-bit word. -/
def int64? (word : List Char) : Option Int := do
  let n ← integer? word
  if Int64.minValue.toInt ≤ n ∧ n ≤ Int64.maxValue.toInt then some n else none

/-! ## Floats -/

/-- Does a mantissa, times a power of ten, round to infinity as a double?  The
    least number that does is halfway between the greatest double and the power
    of two above it.  The number of digits settles all but the close cases. -/
def overflows (mantissa : Nat) (exponent : Int) : Bool :=
  let magnitude := (Nat.toDigits 10 mantissa).length + exponent
  if mantissa = 0 ∨ magnitude < 300 then
    false
  else if 320 < magnitude then
    true
  else
    let limit := (1 <<< 1024) - (1 <<< 970)
    if 0 ≤ exponent then
      limit ≤ mantissa * Nat.pow 10 exponent.toNat
    else
      limit * Nat.pow 10 (-exponent).toNat ≤ mantissa

/-- The value of an exponent, or of none. -/
def exponent? (word : List Char) : Option Int :=
  match word with
  | [] => some 0
  | e :: rest =>
    let (minus, rest) := unsigned rest
    if e = 'e' ∨ e = 'E' then (digits? 10 rest).map (signed minus) else none

/-- Is the word a finite float, with a fraction or an exponent or both? -/
def isFiniteFloat (word : List Char) : Bool :=
  let isExponentMark (c : Char) : Bool := c = 'e' || c = 'E'
  let (minus, rest) := unsigned word
  let whole := rest.takeWhile fun c => c != '.' && !isExponentMark c
  let tail := rest.drop whole.length
  let accepted : Option Bool := do
    let wholeDigits ← decimal? whole
    match tail with
    | [] => none
    | '.' :: rest =>
      let fraction := rest.takeWhile (!isExponentMark ·)
      let fractionDigits ← digits? 10 fraction
      let exponent ← exponent? (rest.drop fraction.length)
      return minus || !overflows (Digit.number 10 (wholeDigits ++ fractionDigits))
        (exponent - fractionDigits.length)
    | tail =>
      let exponent ← exponent? tail
      return minus || !overflows (Digit.number 10 wholeDigits) exponent
  accepted.getD false

/-- Is the word infinity or not a number, with or without a sign? -/
def isSpecialFloat (word : List Char) : Bool :=
  let (_, rest) := unsigned word
  rest = "inf".toList || rest = "nan".toList

/-! ## Dates and times -/

def isLeapYear (year : Nat) : Bool :=
  year % 4 = 0 && (year % 100 != 0 || year % 400 = 0)

/-- The number of days in a month. -/
def daysIn (year month : Nat) : Nat :=
  if month = 2 then
    if isLeapYear year then 29 else 28
  else if month = 4 ∨ month = 6 ∨ month = 9 ∨ month = 11 then
    30
  else
    31

/-- Is the word the date of a day, such as `1979-05-27`? -/
def isDate (word : List Char) : Bool :=
  match word with
  | [y₁, y₂, y₃, y₄, '-', m₁, m₂, '-', d₁, d₂] =>
    let year := Digit.number 10 [y₁, y₂, y₃, y₄]
    let month := Digit.number 10 [m₁, m₂]
    let day := Digit.number 10 [d₁, d₂]
    [y₁, y₂, y₃, y₄, m₁, m₂, d₁, d₂].all Char.isDigit &&
      1 ≤ month && month ≤ 12 && 1 ≤ day && day ≤ daysIn year month
  | _ => false

/-- Is this an hour and a minute? -/
def isHourMinute (h₁ h₂ m₁ m₂ : Char) : Bool :=
  [h₁, h₂, m₁, m₂].all Char.isDigit && Digit.number 10 [h₁, h₂] ≤ 23 &&
    Digit.number 10 [m₁, m₂] ≤ 59

/-- The rest of a word after a time of day such as `07:32:00.5`; a minute may
    have a leap second. -/
def afterTime? (word : List Char) : Option (List Char) :=
  match word with
  | h₁ :: h₂ :: ':' :: m₁ :: m₂ :: ':' :: s₁ :: s₂ :: rest =>
    if isHourMinute h₁ h₂ m₁ m₂ && [s₁, s₂].all Char.isDigit && Digit.number 10 [s₁, s₂] ≤ 60 then
      match rest with
      | '.' :: fraction =>
        if (fraction.takeWhile Char.isDigit).isEmpty then none
        else some (fraction.dropWhile Char.isDigit)
      | rest => some rest
    else
      none
  | _ => none

/-- Is this an offset from universal time, or nothing? -/
def isOffset (word : List Char) : Bool :=
  match word with
  | [] => true
  | [z] => z = 'Z' || z = 'z'
  | [sign, h₁, h₂, ':', m₁, m₂] => (sign = '+' || sign = '-') && isHourMinute h₁ h₂ m₁ m₂
  | _ => false

/-- Is the word a time of day? -/
def isTime (word : List Char) : Bool :=
  afterTime? word = some []

/-- Is the word a time of day, with or without an offset? -/
def isOffsetTime (word : List Char) : Bool :=
  (afterTime? word).any isOffset

/-- Is the word a date, a time of day, or a date with a time of day? -/
def isDateTime (word : List Char) : Bool :=
  isDate word || isTime word ||
    (isDate (word.take 10) &&
      match word.drop 10 with
      | t :: rest => (t = 'T' || t = 't') && isOffsetTime rest
      | [] => false)

/-! ## Words -/

/-- What a word stands for. -/
def Scalar.ofWord? (word : List Char) : Option Scalar :=
  if word = "true".toList then some (bool true)
  else if word = "false".toList then some (bool false)
  else if isDateTime word then some dateTime
  else if isFiniteFloat word || isSpecialFloat word then some float
  else (int64? word).map int

end RegionRouting.Toml
