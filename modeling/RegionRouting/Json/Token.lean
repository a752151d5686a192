/-
  Region routing — the tokens of JSON.

  The text of a JSON document is a sequence of tokens with blanks in between.

  * `Token.text` writes a token, `Token.scan` reads the tokens of a text;
  * a number is an integer if it is written as one, without a sign before zero
    and without a fraction or exponent; any other number keeps its text;
  * a string is written with as few escapes as possible.  It is read as UTF-16
    escapes allow: a surrogate without its partner is no character, and such a
    string has no text.
-/
import RegionRouting.Digit

namespace RegionRouting.Json

/-- What a string literal spells, or nothing if it holds half a surrogate
    pair. -/
abbrev Literal := Option String

inductive Token where
  | openObject
  | closeObject
  | openArray
  | closeArray
  | colon
  | comma
  | null
  | bool (value : Bool)
  | int (value : Int)
  /-- a number that is not written as an integer -/
  | real (numeral : String)
  | str (text : Literal)
  deriving DecidableEq

/-! ## Characters -/

def isBlank (c : Char) : Bool :=
  c = ' ' || c = '\n' || c = '\t' || c = '\r'

/-- Is the character part of a number or of a word such as `true`? -/
def isWordChar (c : Char) : Bool :=
  c.isAlphanum || c = '-' || c = '+' || c = '.'

namespace Token

/-! ## Writing -/

/-- A character within a string literal. -/
def escape (c : Char) : List Char :=
  match c with
  | '"' => ['\\', '"']
  | '\\' => ['\\', '\\']
  | '\x08' => ['\\', 'b']
  | '\t' => ['\\', 't']
  | '\n' => ['\\', 'n']
  | '\x0c' => ['\\', 'f']
  | '\r' => ['\\', 'r']
  | c =>
    if c.toNat < 0x20 then
      '\\' :: 'u' :: '0' :: '0' :: Digit.hexPair c.toNat
    else
      [c]

/-- A string literal.  One without a text is written as half a pair. -/
def quote : Literal → List Char
  | some text => '"' :: text.toList.flatMap escape ++ ['"']
  | none => "\"\\ud800\"".toList

/-- The text of a token. -/
def text : Token → List Char
  | openObject => ['\x7b']
  | closeObject => ['\x7d']
  | openArray => ['[']
  | closeArray => [']']
  | colon => [':']
  | comma => [',']
  | null => "null".toList
  | bool true => "true".toList
  | bool false => "false".toList
  | int value => (toString value).toList
  | real numeral => numeral.toList
  | str text => quote text

/-! ## Reading numbers and words -/

/-- Is this an exponent, or nothing? -/
def isExponent (cs : List Char) : Bool :=
  match cs with
  | [] => true
  | e :: cs =>
    let digits := match cs with
      | '+' :: digits | '-' :: digits => digits
      | digits => digits
    (e = 'e' || e = 'E') && !digits.isEmpty && digits.all Char.isDigit

/-- Is this a fraction and an exponent, either of which may be missing? -/
def isFraction (cs : List Char) : Bool :=
  match cs with
  | '.' :: cs =>
    !(cs.takeWhile Char.isDigit).isEmpty && isExponent (cs.dropWhile Char.isDigit)
  | cs => isExponent cs

/-- Is this a number without a sign? -/
def isNumeral (cs : List Char) : Bool :=
  match cs with
  | '0' :: cs => isFraction cs
  | c :: cs => c.isDigit && isFraction (cs.dropWhile Char.isDigit)
  | [] => false

/-- A number, integer or not. -/
def ofNumeral? (word : List Char) : Option Token :=
  match word with
  | '-' :: digits =>
    if !isNumeral digits then none
    else if digits.all Char.isDigit && digits != ['0'] then some (int (-Digit.number 10 digits))
    else some (real (String.ofList word))
  | digits =>
    if !isNumeral digits then none
    else if digits.all Char.isDigit then some (int (Digit.number 10 digits))
    else some (real (String.ofList word))

/-- The token that a word of number and letter characters makes. -/
def ofWord? (word : List Char) : Option Token :=
  if word = "null".toList then some null
  else if word = "true".toList then some (bool true)
  else if word = "false".toList then some (bool false)
  else ofNumeral? word

/-! ## Reading strings -/

/-- The character that a one-letter escape stands for. -/
def unescape? (c : Char) : Option Char :=
  match c with
  | '"' => some '"'
  | '\\' => some '\\'
  | '/' => some '/'
  | 'b' => some '\x08'
  | 'f' => some '\x0c'
  | 'n' => some '\n'
  | 'r' => some '\r'
  | 't' => some '\t'
  | _ => none

/-- Reads a string literal past its opening quote: the code points and UTF-16
    units in it, and what follows its closing quote. -/
def readUnits : List Char → Option (List Nat × List Char)
  | [] => none
  | '"' :: rest => some ([], rest)
  | '\\' :: 'u' :: a :: b :: c :: d :: rest => do
    let unit ← Digit.hexNumber? [a, b, c, d]
    let (units, after) ← readUnits rest
    return (unit :: units, after)
  | '\\' :: e :: rest => do
    let c ← unescape? e
    let (units, after) ← readUnits rest
    return (c.toNat :: units, after)
  | c :: rest =>
    if c.toNat < 0x20 then
      none
    else do
      let (units, after) ← readUnits rest
      return (c.toNat :: units, after)

def isHighSurrogate (unit : Nat) : Bool :=
  0xD800 ≤ unit && unit < 0xDC00

def isLowSurrogate (unit : Nat) : Bool :=
  0xDC00 ≤ unit && unit < 0xE000

/-- Joins surrogate pairs, unless one half is missing. -/
def joinPairs : List Nat → Option (List Char)
  | [] => some []
  | [unit] =>
    if isHighSurrogate unit || isLowSurrogate unit then none else some [Char.ofNat unit]
  | unit :: next :: rest =>
    if isLowSurrogate unit then
      none
    else if isHighSurrogate unit then
      if isLowSurrogate next then
        (joinPairs rest).map
          (Char.ofNat (0x10000 + 0x400 * (unit - 0xD800) + (next - 0xDC00)) :: ·)
      else
        none
    else
      (joinPairs (next :: rest)).map (Char.ofNat unit :: ·)

/-- What follows a string literal is shorter than what its opening quote is
    followed by. -/
theorem length_of_readUnits {cs after : List Char} {units : List Nat}
    (h : readUnits cs = some (units, after)) : after.length < cs.length := by
  fun_induction readUnits cs generalizing units with
  | case1 => cases h
  | case2 rest =>
    cases h
    simp
  | case3 a b c d rest ih =>
    simp only [bind, Option.bind_eq_some_iff, pure, Option.some.injEq, Prod.mk.injEq] at h
    obtain ⟨_, _, ⟨_, _⟩, read, _, rfl⟩ := h
    have shorter := ih read
    simp only [List.length_cons] at shorter ⊢
    omega
  | case4 e rest _ ih =>
    simp only [bind, Option.bind_eq_some_iff, pure, Option.some.injEq, Prod.mk.injEq] at h
    obtain ⟨_, _, ⟨_, _⟩, read, _, rfl⟩ := h
    have shorter := ih read
    simp only [List.length_cons] at shorter ⊢
    omega
  | case5 => cases h
  | case6 c rest _ _ _ _ ih =>
    simp only [bind, Option.bind_eq_some_iff, pure, Option.some.injEq, Prod.mk.injEq] at h
    obtain ⟨⟨_, _⟩, read, _, rfl⟩ := h
    have shorter := ih read
    simp only [List.length_cons] at shorter ⊢
    omega

/-! ## Reading a text -/

/-- The token of a single character. -/
def ofPunctuation? (c : Char) : Option Token :=
  match c with
  | '\x7b' => some openObject
  | '\x7d' => some closeObject
  | '[' => some openArray
  | ']' => some closeArray
  | ':' => some colon
  | ',' => some comma
  | _ => none

/-- Reads the tokens of a text. -/
def scan (cs : List Char) : Option (List Token) :=
  match cs with
  | [] => some []
  | c :: rest =>
    if isBlank c then
      scan rest
    else if c = '"' then
      match _ : readUnits rest with
      | none => none
      | some (units, after) =>
        (scan after).map (str ((joinPairs units).map String.ofList) :: ·)
    else if isWordChar c then do
      let token ← ofWord? (c :: rest.takeWhile isWordChar)
      (scan (rest.dropWhile isWordChar)).map (token :: ·)
    else do
      let token ← ofPunctuation? c
      (scan rest).map (token :: ·)
  termination_by cs.length
  decreasing_by
    · simp
    · have := length_of_readUnits ‹readUnits rest = some (units, after)›
      simp only [List.length_cons]
      omega
    · have := (List.dropWhile_sublist isWordChar (l := rest)).length_le
      simp only [List.length_cons]
      omega
    · simp

end Token
end RegionRouting.Json
