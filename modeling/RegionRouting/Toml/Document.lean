/-
  Region routing — TOML documents.

  * `Document.parse?` reads a text: its lines are cut into sections, each a
    header with the keys that are set below it, and the sections are put into
    the table of the whole document one after the other.
-/
import RegionRouting.Toml.Line

namespace RegionRouting.Toml

/-- A header, and the keys that are set in the table that it opens. -/
structure Section where
  path : List String
  isItem : Bool
  lines : List (List String × Value)

namespace Document

/-- Cuts lines into the keys before the first header, and sections. -/
def sections : List Line → List (List String × Value) × List Section
  | [] => ([], [])
  | line :: lines =>
    let (entries, rest) := sections lines
    match line with
    | .blank => (entries, rest)
    | .entry key value => ((key, value) :: entries, rest)
    | .header path => ([], ⟨path, false, entries⟩ :: rest)
    | .arrayHeader path => ([], ⟨path, true, entries⟩ :: rest)

/-- Puts a section into the table of the document. -/
def addSection (document : Entries) (part : Section) : Option Entries :=
  let change := if part.isItem then Entries.openItem part.lines else Entries.openTable part.lines
  document.changeAt change part.path

/-- Reads a document.  A byte order mark may stand before it. -/
def parse? (text : String) : Option Entries := do
  let cs := match text.toList with
    | '\ufeff' :: rest => rest
    | cs => cs
  let (entries, rest) := sections (← Line.readAll cs)
  rest.foldlM addSection (← Entries.setAll entries [])

end Document
end RegionRouting.Toml
