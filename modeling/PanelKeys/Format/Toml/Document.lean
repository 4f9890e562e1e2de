import PanelKeys.Format.Toml.Value

/-!
# TOML documents

A document is read line by line into statements, and the statements are carried out in their order:
a header opens a table, and an assignment adds to the table that was opened last.

* `Statement` — what a line says;
* `statements?` — the statements of a text;
* `Document.perform` — one statement.  **A table is opened once**, though it may have been implied
  before;
* `document?` — the entries of a whole text.
-/

namespace PanelKeys.Toml

/-- What a line says. -/
inductive Statement where
  | openTable (path : KeyPath)
  | openItem (path : KeyPath)
  | assign (path : KeyPath) (value : TomlValue)

/-! ## Lines -/

/-- One statement at the front of a line, up to the end of the line. -/
def statement? (length : Nat) (cs : List Char) : Option (Statement × List Char) :=
  match cs with
  | '[' :: '[' :: rest => do
      let (path, rest) ← keyPath? rest
      some (.openItem path, ← lineEnd? (← mark? ']' (← mark? ']' rest)))
  | '[' :: rest => do
      let (path, rest) ← keyPath? rest
      some (.openTable path, ← lineEnd? (← mark? ']' rest))
  | cs => do
      let (path, rest) ← keyPath? cs
      let (value, rest) ← valueAt? length (dropBlanks (← mark? '=' rest))
      some (.assign path value, ← lineEnd? rest)

/-- The lines that say something; the others hold blanks and comments only. -/
def lines? (length fuel : Nat) (cs : List Char) : Option (List Statement) :=
  match fuel with
  | 0 => none
  | fuel + 1 =>
      match dropBlanks cs with
      | [] => some []
      | c :: rest =>
          if c = '#' || c = '\n' || c = '\r' then do lines? length fuel (← lineEnd? (c :: rest))
          else do
            let (s, rest) ← statement? length (c :: rest)
            some (s :: (← lines? length fuel rest))

/-- The statements of a text; a byte order mark may precede them. -/
def statements? (cs : List Char) : Option (List Statement) :=
  let cs := match cs with
    | '\ufeff' :: rest => rest
    | cs => cs
  lines? cs.length (cs.length + 1) cs

/-! ## Tables -/

/-- What has been read so far, and the path of the table that is open. -/
structure Document where
  entries : Entries := []
  current : List String := []

/-- Opens a table that is not there yet, or was only implied. -/
def openTable (key : String) (entries : Entries) : Option Entries :=
  match find? key entries with
  | none => some (entries ++ [(key, .table .header [])])
  | some (.table .implied sub) => some (replace key (.table .header sub) entries)
  | some _ => none

/-- Opens the next item of an array of tables. -/
def openItem (key : String) (entries : Entries) : Option Entries :=
  let item : TomlValue := .table .header []
  match find? key entries with
  | none => some (entries ++ [(key, .array .header [item])])
  | some (.array .header items) => some (replace key (.array .header (items ++ [item])) entries)
  | some _ => none

namespace Document

def ofEntries (entries : Entries) (path : KeyPath) : Document := ⟨entries, path.way ++ [path.key]⟩

/-- Carries out a statement. -/
def perform (d : Document) : Statement → Option Document
  | .openTable path =>
      (within .header (openTable path.key) path.way d.entries).map fun es => ofEntries es path
  | .openItem path =>
      (within .header (openItem path.key) path.way d.entries).map fun es => ofEntries es path
  | .assign path value =>
      (within .header (assign path value) d.current d.entries).map fun es =>
        { d with entries := es }

end Document

/-- The entries of a whole text. -/
def document? (s : String) : Option Entries := do
  let d ← (← statements? s.toList).foldlM Document.perform {}
  some d.entries

end PanelKeys.Toml
