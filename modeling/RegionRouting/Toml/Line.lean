/-
  Region routing — the lines of a TOML document.

  A document is a sequence of lines.  A line sets a key to a value, or opens a
  table, or adds a table to an array of tables, or is blank; a comment may end
  it.  Arrays and some strings go over several lines of text.

  * `Line.readAll` reads the lines of a text;
  * keys have less than `depthLimit` parts, and collections are nested to less
    than that depth.

  An inline table is made when it is read, since nothing can be added to it
  from outside.
-/
import RegionRouting.Toml.Scalar
import RegionRouting.Toml.Table
import RegionRouting.Toml.Text

namespace RegionRouting.Toml

/-- No key has this many parts, and no collection is nested this deep. -/
def depthLimit : Nat := 80

/-! ## Lists of things -/

variable {α : Type}

/-- Reads things with a mark between any two of them, at least one. -/
def readSeparated (mark : Char) (read : List Char → Option (α × List Char)) (cs : List Char) :
    Option (List α × List Char) := do
  let (first, rest) ← read cs
  match rest with
  | c :: after =>
    if c = mark ∧ after.length < cs.length then
      let (others, rest) ← readSeparated mark read after
      return (first :: others, rest)
    else
      return ([first], rest)
  | [] => return ([first], [])
  termination_by cs.length

/-! ## Keys -/

/-- May the character stand in a key that is not a string? -/
def isBareKeyChar (c : Char) : Bool :=
  c.isAlphanum || c = '-' || c = '_'

/-- Reads one part of a key, with the blanks around it. -/
def readKeyPart (cs : List Char) : Option (String × List Char) :=
  let start := skipBlanks cs
  let part := match readLine? start with
    | some found => some found
    | none =>
      let bare := start.takeWhile isBareKeyChar
      if bare.isEmpty then none else some (String.ofList bare, start.drop bare.length)
  part.map fun (name, rest) => (name, skipBlanks rest)

/-- Reads a key: parts with dots in between. -/
def readKey (cs : List Char) : Option (List String × List Char) := do
  let (parts, rest) ← readSeparated '.' readKeyPart cs
  if parts.length < depthLimit then some (parts, rest) else none

/-- Reads a key and a value with an equals sign in between. -/
def readEntry (readValue : List Char → Option (Value × List Char)) (cs : List Char) :
    Option ((List String × Value) × List Char) := do
  match ← readKey cs with
  | (key, '=' :: rest) =>
    let (value, rest) ← readValue (skipBlanks rest)
    return ((key, value), skipBlanks rest)
  | _ => none

/-! ## Values -/

/-- May the character stand in a number, date or word? -/
def isWordChar (c : Char) : Bool :=
  isBareKeyChar c || c = '+' || c = '.' || c = ':'

/-- Reads a number, a date or a word.  After a date, one blank and a digit are
    the start of the time of day. -/
def readScalar (cs : List Char) : Option (Scalar × List Char) :=
  let word := cs.takeWhile isWordChar
  match isDate word, cs.drop word.length with
  | true, ' ' :: rest =>
    if rest.head?.any Char.isDigit then
      let time := rest.takeWhile isWordChar
      if isOffsetTime time then some (.dateTime, rest.drop time.length) else none
    else
      some (.dateTime, ' ' :: rest)
  | _, rest => (Scalar.ofWord? word).map (·, rest)

/-- Drops blanks, line breaks and comments, which may stand between the items
    of an array.  `commented` says that a comment has begun. -/
def skipVoid (commented : Bool) : List Char → List Char
  | '\r' :: '\n' :: rest => skipVoid false rest
  | '\n' :: rest => skipVoid false rest
  | c :: rest =>
    if commented then
      if isPlain c then skipVoid true rest else c :: rest
    else if isBlank c then
      skipVoid false rest
    else if c = '#' then
      skipVoid true rest
    else
      c :: rest
  | [] => []

/-- Reads the items of an array past its opening bracket. -/
def readItems (readValue : List Char → Option (Value × List Char)) (cs : List Char) :
    Option (List Value × List Char) :=
  match skipVoid false cs with
  | ']' :: rest => some ([], rest)
  | start => do
    let (item, rest) ← readValue start
    match skipVoid false rest with
    | ']' :: rest => return ([item], rest)
    | ',' :: rest =>
      if rest.length < cs.length then
        let (items, rest) ← readItems readValue rest
        return (item :: items, rest)
      else
        none
    | _ => none
  termination_by cs.length

/-- Reads an inline table past its opening brace. -/
def readInline (readValue : List Char → Option (Value × List Char)) (cs : List Char) :
    Option (Value × List Char) :=
  match skipBlanks cs with
  | '\x7d' :: rest => some (.table .inline [], rest)
  | start => do
    match ← readSeparated ',' (readEntry readValue) start with
    | (entries, '\x7d' :: rest) => return (.table .inline (← Entries.setAll entries []), rest)
    | _ => none

/-- Reads a value that holds collections nested to a depth. -/
def readValue : Nat → List Char → Option (Value × List Char)
  | depth + 1, '[' :: rest =>
    (readItems (readValue depth) rest).map fun (items, rest) => (.array items, rest)
  | depth + 1, '\x7b' :: rest => readInline (readValue depth) rest
  | _, cs =>
    match cs with
    | '"' :: _ | '\x27' :: _ => (readString? cs).map fun (text, rest) => (.string text, rest)
    | _ => (readScalar cs).map fun (scalar, rest) => (.scalar scalar, rest)

/-! ## Lines -/

/-- What a line does. -/
inductive Line where
  | blank
  /-- sets a key of the current table -/
  | entry (key : List String) (value : Value)
  /-- opens a table -/
  | header (path : List String)
  /-- adds a table to an array of tables, and opens it -/
  | arrayHeader (path : List String)

/-- Reads a header past its opening brackets; there are as many that close it. -/
def readHeader (brackets : List Char) (cs : List Char) : Option (List String × List Char) := do
  let (path, rest) ← readKey cs
  if brackets.isPrefixOf rest then some (path, rest.drop brackets.length) else none

/-- Reads what stands on a line. -/
def Line.readBody (cs : List Char) : Option (Line × List Char) :=
  match cs with
  | [] | '#' :: _ | '\n' :: _ | '\r' :: _ => some (blank, cs)
  | '[' :: '[' :: rest =>
    (readHeader [']', ']'] rest).map fun (path, rest) => (arrayHeader path, rest)
  | '[' :: rest => (readHeader [']'] rest).map fun (path, rest) => (header path, rest)
  | cs =>
    (readEntry (readValue (depthLimit - 1)) cs).map fun ((key, value), rest) =>
      (entry key value, rest)

/-- Reads a line up to the start of the next. -/
def Line.read (cs : List Char) : Option (Line × List Char) := do
  let (line, rest) ← Line.readBody (skipBlanks cs)
  let rest := skipComment (skipBlanks rest)
  if rest.isEmpty || startsNewline rest then some (line, skipNewline rest) else none

/-- Reads the lines of a text. -/
def Line.readAll (cs : List Char) : Option (List Line) := do
  if cs.isEmpty then
    return []
  let (line, rest) ← Line.read cs
  if rest.length < cs.length then
    return line :: (← Line.readAll rest)
  else
    none
  termination_by cs.length

end RegionRouting.Toml
