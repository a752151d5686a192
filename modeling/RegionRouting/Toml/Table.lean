/-
  Region routing — the tables of TOML.

  A table is a list of entries with distinct keys.  How a table came to be
  says what may still be added to it:

  * a table that was opened by a header is complete, and cannot be opened again;
  * one that is only part of a header's path is implied, and may still be
    opened once;
  * one that is part of a key with dots takes more such keys, and no header;
  * one written inline takes nothing.

  `Entries.set` sets a key with dots, `Entries.openTable` opens the table of a
  header, and `Entries.openItem` adds a table to an array of tables.
-/
import RegionRouting.Toml.Scalar

namespace RegionRouting.Toml

/-- How a table came to be. -/
inductive Origin where
  | opened
  | implied
  | dotted
  | inline
  deriving DecidableEq

/-- A value of a document; `tables` is an array of tables, each added by a
    header. -/
inductive Value where
  | string (text : String)
  | scalar (scalar : Scalar)
  | array (items : List Value)
  | table (origin : Origin) (entries : List (String × Value))
  | tables (items : List (List (String × Value)))

/-- The entries of a table, in order. -/
abbrev Entries := List (String × Value)

namespace Entries

/-- Puts a value under a key, in the place of an older one. -/
def put (key : String) (value : Value) : Entries → Entries
  | [] => [(key, value)]
  | (k, v) :: entries =>
    if k = key then (key, value) :: entries else (k, v) :: put key value entries

/-- Changes the last table of an array of tables. -/
def changeLast (change : Entries → Option Entries) (items : List Entries) :
    Option (List Entries) :=
  match items.reverse with
  | [] => none
  | last :: others => (change last).map fun last => (last :: others).reverse

/-- Sets the key at the end of a path of tables to a value.  Tables on the path
    that are missing are made; the last of them takes no keys but such. -/
def set (path : List String) (key : String) (value : Value) (entries : Entries) :
    Option Entries :=
  match path with
  | [] => if (entries.lookup key).isSome then none else some (entries ++ [(key, value)])
  | name :: rest =>
    match entries.lookup name with
    | none => (set rest key value []).map fun inner => entries.put name (.table .dotted inner)
    | some (.table .dotted inner) =>
      (set rest key value inner).map fun inner => entries.put name (.table .dotted inner)
    | some (.table .implied inner) =>
      if rest.isEmpty then none
      else (set rest key value inner).map fun inner => entries.put name (.table .implied inner)
    | some (.tables items) =>
      if rest.isEmpty then none
      else (changeLast (set rest key value) items).map fun items => entries.put name (.tables items)
    | some _ => none

/-- Sets keys with dots one after the other. -/
def setAll (lines : List (List String × Value)) (entries : Entries) : Option Entries :=
  lines.foldlM
    (fun entries (parts, value) => do set parts.dropLast (← parts.getLast?) value entries) entries

/-- Changes what stands at the end of a header's path; `change` is given what
    is there so far.  Tables on the path that are missing are implied. -/
def changeAt (change : Option Value → Option Value) (path : List String) (entries : Entries) :
    Option Entries :=
  match path with
  | [] => none
  | [name] => (change (entries.lookup name)).map fun value => entries.put name value
  | name :: rest =>
    match entries.lookup name with
    | none => (changeAt change rest []).map fun inner => entries.put name (.table .implied inner)
    | some (.table .inline _) => none
    | some (.table origin inner) =>
      (changeAt change rest inner).map fun inner => entries.put name (.table origin inner)
    | some (.tables items) =>
      (changeLast (changeAt change rest) items).map fun items => entries.put name (.tables items)
    | some _ => none

/-- Opens the table of a header and sets keys in it. -/
def openTable (lines : List (List String × Value)) : Option Value → Option Value
  | none => (setAll lines []).map (.table .opened)
  | some (.table .implied entries) => (setAll lines entries).map (.table .opened)
  | some _ => none

/-- Adds a table to an array of tables and sets keys in it. -/
def openItem (lines : List (List String × Value)) : Option Value → Option Value
  | none => (setAll lines []).map fun item => .tables [item]
  | some (.tables items) => (setAll lines []).map fun item => .tables (items ++ [item])
  | some _ => none

end Entries
end RegionRouting.Toml
