/-
  Region routing — the characters and strings of TOML.

  A string stands between quotation marks, where a backslash begins an escape,
  or between apostrophes, where every character stands for itself.  Three
  marks instead of one open a string of several lines: a line break right
  after them is no part of it, and up to two marks may stand before the three
  that close it.
-/
import RegionRouting.Digit

namespace RegionRouting.Toml

/-! ## Characters -/

def isBlank (c : Char) : Bool :=
  c = ' ' || c = '\t'

/-- May the character stand within a line?  Tabs are the only controls that
    may. -/
def isPlain (c : Char) : Bool :=
  c = '\t' || (' ' ≤ c && c != '\x7f')

/-- Drops blanks. -/
def skipBlanks (cs : List Char) : List Char :=
  cs.dropWhile isBlank

/-- Drops a comment, if one starts here, up to the end of its line. -/
def skipComment (cs : List Char) : List Char :=
  match cs with
  | '#' :: rest => rest.dropWhile isPlain
  | cs => cs

/-- Drops a line break, if one starts here. -/
def skipNewline (cs : List Char) : List Char :=
  match cs with
  | '\n' :: rest => rest
  | '\r' :: '\n' :: rest => rest
  | cs => cs

/-- Does a line break start here? -/
def startsNewline : List Char → Bool
  | '\n' :: _ | '\r' :: '\n' :: _ => true
  | _ => false

/-- Drops blanks and line breaks. -/
def skipSpace : List Char → List Char
  | '\r' :: '\n' :: rest => skipSpace rest
  | c :: rest => if isBlank c || c = '\n' then skipSpace rest else c :: rest
  | [] => []

theorem length_skipSpace_le (cs : List Char) : (skipSpace cs).length ≤ cs.length := by
  fun_induction skipSpace cs <;> grind

/-! ## Escapes -/

/-- The character that a one-letter escape stands for. -/
def unescape? (c : Char) : Option Char :=
  match c with
  | 'b' => some '\x08'
  | 't' => some '\t'
  | 'n' => some '\n'
  | 'f' => some '\x0c'
  | 'r' => some '\r'
  | '"' => some '"'
  | '\\' => some '\\'
  | _ => none

/-- The character whose code hexadecimal digits write; half a surrogate pair
    is none. -/
def codePoint? (digits : List Char) : Option Char := do
  let code ← Digit.hexNumber? digits
  if code.isValidChar then some (Char.ofNat code) else none

/-- Reads an escape past its backslash. -/
def readEscape : List Char → Option (Char × List Char)
  | 'u' :: a :: b :: c :: d :: rest => do
    return (← codePoint? [a, b, c, d], rest)
  | 'U' :: a :: b :: c :: d :: e :: f :: g :: h :: rest => do
    return (← codePoint? [a, b, c, d, e, f, g, h], rest)
  | e :: rest => do
    return (← unescape? e, rest)
  | [] => none

/-- What follows an escape is shorter. -/
theorem length_of_readEscape {cs rest : List Char} {c : Char}
    (h : readEscape cs = some (c, rest)) : rest.length < cs.length := by
  unfold readEscape at h
  split at h
  · simp only [bind, Option.bind_eq_some_iff, pure, Option.some.injEq, Prod.mk.injEq] at h
    obtain ⟨_, _, _, rfl⟩ := h
    simp only [List.length_cons]
    omega
  · simp only [bind, Option.bind_eq_some_iff, pure, Option.some.injEq, Prod.mk.injEq] at h
    obtain ⟨_, _, _, rfl⟩ := h
    simp only [List.length_cons]
    omega
  · simp only [bind, Option.bind_eq_some_iff, pure, Option.some.injEq, Prod.mk.injEq] at h
    obtain ⟨_, _, _, rfl⟩ := h
    simp
  · cases h

/-! ## Strings of one line -/

/-- Reads a string past its opening quotation mark. -/
def readQuoted (cs : List Char) : Option (List Char × List Char) :=
  match cs with
  | [] => none
  | '"' :: rest => some ([], rest)
  | '\\' :: rest =>
    match _ : readEscape rest with
    | none => none
    | some (c, after) => (readQuoted after).map fun (text, after) => (c :: text, after)
  | c :: rest =>
    if isPlain c then (readQuoted rest).map fun (text, after) => (c :: text, after) else none
  termination_by cs.length
  decreasing_by
    · have := length_of_readEscape ‹readEscape rest = some (c, after)›
      simp only [List.length_cons]
      omega
    · simp

/-- Reads a string past its opening apostrophe. -/
def readLiteral : List Char → Option (List Char × List Char)
  | [] => none
  | '\x27' :: rest => some ([], rest)
  | c :: rest =>
    if isPlain c then (readLiteral rest).map fun (text, after) => (c :: text, after) else none

/-! ## Strings of several lines -/

/-- Splits off the marks that a text begins with. -/
def splitMarks (mark : Char) (cs : List Char) : Nat × List Char :=
  ((cs.takeWhile (· = mark)).length, cs.dropWhile (· = mark))

/-- Reads marks within a string of several lines: fewer than three are part of
    it, and more close it, with the ones in front part of it. -/
def closeMarks (mark : Char) (cs : List Char) : Option (List Char × Option (List Char)) :=
  let (marks, rest) := splitMarks mark cs
  if marks < 3 then some (List.replicate marks mark, none)
  else if marks ≤ 5 then some (List.replicate (marks - 3) mark, some rest)
  else none

/-- Reads a string of several lines past its opening quotation marks.  A
    backslash at the end of a line drops all space up to the next character. -/
def readQuotedLines (cs : List Char) : Option (List Char × List Char) :=
  match cs with
  | [] => none
  | '"' :: rest =>
    match closeMarks '"' cs with
    | none => none
    | some (text, some after) => some (text, after)
    | some (_, none) => (readQuotedLines rest).map fun (text, after) => ('"' :: text, after)
  | '\\' :: rest =>
    if startsNewline (skipBlanks rest) then
      readQuotedLines (skipSpace rest)
    else
      match _ : readEscape rest with
      | none => none
      | some (c, after) => (readQuotedLines after).map fun (text, after) => (c :: text, after)
  | '\r' :: '\n' :: rest => (readQuotedLines rest).map fun (text, after) => ('\n' :: text, after)
  | c :: rest =>
    if isPlain c || c = '\n' then
      (readQuotedLines rest).map fun (text, after) => (c :: text, after)
    else
      none
  termination_by cs.length
  decreasing_by
    · simp
    · have := length_skipSpace_le rest
      simp only [List.length_cons]
      omega
    · have := length_of_readEscape ‹readEscape rest = some (c, after)›
      simp only [List.length_cons]
      omega
    · simp only [List.length_cons]
      omega
    · simp

/-- Reads a string of several lines past its opening apostrophes. -/
def readLiteralLines (cs : List Char) : Option (List Char × List Char) :=
  match cs with
  | [] => none
  | '\x27' :: rest =>
    match closeMarks '\x27' cs with
    | none => none
    | some (text, some after) => some (text, after)
    | some (_, none) => (readLiteralLines rest).map fun (text, after) => ('\x27' :: text, after)
  | '\r' :: '\n' :: rest => (readLiteralLines rest).map fun (text, after) => ('\n' :: text, after)
  | c :: rest =>
    if isPlain c || c = '\n' then
      (readLiteralLines rest).map fun (text, after) => (c :: text, after)
    else
      none

/-! ## Any string -/

/-- Reads a string of one line, as it may stand for a key. -/
def readLine? : List Char → Option (String × List Char)
  | '"' :: rest => (readQuoted rest).map fun (text, after) => (String.ofList text, after)
  | '\x27' :: rest => (readLiteral rest).map fun (text, after) => (String.ofList text, after)
  | _ => none

/-- Reads a string. -/
def readString? : List Char → Option (String × List Char)
  | '"' :: '"' :: '"' :: rest =>
    (readQuotedLines (skipNewline rest)).map fun (text, after) => (String.ofList text, after)
  | '\x27' :: '\x27' :: '\x27' :: rest =>
    (readLiteralLines (skipNewline rest)).map fun (text, after) => (String.ofList text, after)
  | cs => readLine? cs

end RegionRouting.Toml
