/-!
# TOML values and tables

What a TOML document holds, and how its tables grow line by line. A table is opened by a header,
implied by a longer header, or made by a dotted key, and that decides what may still be added to it.

## Main definitions

* `Toml.Value`: a value as it can be written after an equals sign
* `Toml.Item`: what stands under a key while a document is read
* `Toml.Entries.insert`, `Toml.Entries.openTable`, `Toml.Entries.openElement`: what a line adds
* `Toml.Item.value`: the value that an item is in the end
-/

namespace Dialogue

namespace Toml

/-- A value. A date or a time is kept by its normal spelling. -/
inductive Value where
  | string (text : String)
  | integer (value : Int64)
  | float (value : Float)
  | boolean (value : Bool)
  | datetime (spelling : String)
  | array (items : List Value)
  | table (entries : List (String × Value))

/-- How a table came about. -/
inductive Origin where
  /-- By a header of its own, or as an element of an array of tables. -/
  | header
  /-- By the header of a table inside it. -/
  | implied
  /-- By a dotted key. -/
  | dotted
  deriving DecidableEq, Repr

/-- What stands under a key. -/
inductive Item where
  /-- A value, to which nothing can be added. -/
  | leaf (value : Value)
  | table (origin : Origin) (entries : List (String × Item))
  /-- An array of tables, the newest one last. -/
  | elements (tables : List (List (String × Item)))

/-- The items of a table by their keys. -/
abbrev Entries := List (String × Item)

namespace Entries

/-- Puts an item in the place of the one under a key. -/
def replace (entries : Entries) (key : String) (item : Item) : Entries :=
  entries.map fun entry => if entry.1 == key then (key, item) else entry

/-- Changes the table at the end of a path. Tables on the way are made if they are missing, with
origin `fresh`; a dotted path does not lead through a table with a header. An array of tables leads
on to its newest element. -/
def update (fresh : Origin) (change : Origin → Entries → Option Entries) :
    List String → Origin → Entries → Option Entries
  | [], origin, entries => change origin entries
  | key :: path, _, entries =>
    match entries.lookup key with
    | none =>
      (update fresh change path fresh []).map fun inner => entries ++ [(key, .table fresh inner)]
    | some (.leaf _) => none
    | some (.table origin inner) =>
      -- Implied tables are let through here; `insert` refuses them at the end of the path.
      if fresh = .dotted && origin = .header then none else
      (update fresh change path origin inner).map fun inner =>
        replace entries key (.table origin inner)
    | some (.elements tables) =>
      match tables.getLast? with
      | none => none
      | some inner =>
        (update fresh change path .header inner).map fun inner =>
          replace entries key (.elements (tables.dropLast ++ [inner]))

/-- Adds an item under a new key. -/
def add (entries : Entries) (key : String) (item : Item) : Option Entries :=
  match entries.lookup key with
  | none => some (entries ++ [(key, item)])
  | some _ => none

/-- Adds a value under a key that may be dotted. The tables that a dotted key adds to are made by
dotted keys. -/
def insert (entries : Entries) (path : List String) (key : String) (value : Value) :
    Option Entries :=
  update .dotted (fun origin inner =>
    if path = [] || origin = .dotted then inner.add key (.leaf value) else none)
    path .header entries

/-- Opens the table of a header. It must be new, or only implied so far; it then stands last. -/
def openTable (entries : Entries) (path : List String) (key : String) : Option Entries :=
  update .implied (fun _ inner =>
    match inner.lookup key with
    | none => some (inner ++ [(key, .table .header [])])
    | some (.table .implied content) =>
      some (inner.filter (·.1 != key) ++ [(key, .table .header content)])
    | some _ => none) path .header entries

/-- Opens a new element of an array of tables. -/
def openElement (entries : Entries) (path : List String) (key : String) : Option Entries :=
  update .implied (fun _ inner =>
    match inner.lookup key with
    | none => some (inner ++ [(key, .elements [[]])])
    | some (.elements tables) => some (inner.replace key (.elements (tables ++ [[]])))
    | some _ => none) path .header entries

/-- Adds a value under a key of the table that was opened last. -/
def insertUnder (entries : Entries) (header : List String) (path : List String) (key : String)
    (value : Value) : Option Entries :=
  update .implied (fun _ inner => inner.insert path key value) header .header entries

end Entries

mutual

/-- The value that an item is in the end. -/
def Item.value : Item → Value
  | .leaf value => value
  | .table _ entries => .table (Item.entryValues entries)
  | .elements tables => .array (Item.tableValues tables)

/-- The values of the items of a table. -/
def Item.entryValues : List (String × Item) → List (String × Value)
  | [] => []
  | (key, item) :: entries => (key, item.value) :: Item.entryValues entries

/-- The values of the tables of an array. -/
def Item.tableValues : List (List (String × Item)) → List Value
  | [] => []
  | entries :: tables => .table (Item.entryValues entries) :: Item.tableValues tables

end

end Toml

end Dialogue
