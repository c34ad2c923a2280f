import Postroom.Toml.Statement

namespace Postroom.Toml

/-!
# TOML documents

The statements of a document are gathered into sections, one for each header
and one in front of the first. A section fills one table; no table is begun
twice, and no key is entered twice.
-/

/-- What a section of a document fills. -/
inductive Target where
  | root
  | table (path : List String) (name : String)
  | tableElement (path : List String) (name : String)

/-- A header with the entries behind it. -/
structure Section where
  target : Target
  entries : List (List String × String × Value)

/-- The sections of some statements, the first of which continues a given one. -/
def sections (current : Section) : List Statement → List Section
  | [] =>
      [current]
  | .entry path name content :: rest =>
      sections
        { current with
          entries := current.entries ++ [(path, name, content)] }
        rest
  | .table path name :: rest =>
      current :: sections ⟨.table path name, []⟩ rest
  | .tableElement path name :: rest =>
      current :: sections ⟨.tableElement path name, []⟩ rest

/-- Enter the entries of a section into its table. -/
def Section.fill?
    (source : Section)
    (start : Entries) :
    Option Entries :=
  source.entries.foldlM
    (fun entries (path, name, content) =>
      entries.enter? path name content)
    start

/-- Change the table that some names lead to, making tables on the way. -/
def Entries.change?
    (entries : Entries)
    (path : List String)
    (change : Entries → Option Entries) :
    Option Entries :=
  match path with
  | [] =>
      change entries
  | first :: rest =>
      match List.lookup first entries with
      | none => do
          let inner ← Entries.change? [] rest change
          return entries ++ [(first, .table .implied inner)]
      | some (.table origin inner) => do
          let changed ← Entries.change? inner rest change
          return entries.replace first (.table origin changed)
      | some (.tables current earlier) => do
          let changed ← Entries.change? current rest change
          return entries.replace first (.tables changed earlier)
      | some (.value _) =>
          none

/-- Fill the table of a section. -/
def Entries.addSection?
    (root : Entries)
    (source : Section) :
    Option Entries :=
  match source.target with
  | .root =>
      source.fill? root
  | .table path name =>
      root.change? path fun parent =>
        match List.lookup name parent with
        | none => do
            return parent ++
              [(name, .table .header (← source.fill? []))]
        | some (.table .implied inner) => do
            return parent.replace name
              (.table .header (← source.fill? inner))
        | some _ =>
            none
  | .tableElement path name =>
      root.change? path fun parent =>
        match List.lookup name parent with
        | none => do
            return parent ++ [(name, .tables (← source.fill? []) [])]
        | some (.tables current earlier) => do
            return parent.replace name
              (.tables (← source.fill? []) (current :: earlier))
        | some _ =>
            none

/-- The root table of a document, if the text is one. -/
def ofText? (text : String) : Option (List (String × Value)) := do
  let characters :=
    match text.toList with
    | '\uFEFF' :: rest =>
        rest
    | characters =>
        characters
  let statements ← readStatements? (characters.length + 1) characters
  let root ←
    (sections ⟨.root, []⟩ statements).foldlM Entries.addSection? []
  return finishEntries root

end Postroom.Toml
