import Tollgate.Config.Node

/-!
# Tables under construction

The lines of a TOML file fill tables bit by bit. A table remembers how it came about, because that
decides what may still be added to it: a table that has its own header is never opened again, one
that only longer headers have mentioned may still get its own, and one made by dotted keys may grow
by dotted keys in the same place.
-/

namespace Tollgate.Toml

open Config (Node)

/-- How a table came about. -/
inductive Origin where
  /-- It has a header of its own, or is the whole file. -/
  | header
  /-- It is on the way to a table with a header. -/
  | mention
  /-- It is on the way to a setting. -/
  | dotted
  deriving DecidableEq

/-- What a key stands for. -/
inductive Item where
  | value (node : Node)
  | table (origin : Origin) (entries : List (String × Item))
  /-- Tables with the same header, the last one first. -/
  | tables (all : List Item)

namespace Item

def empty (origin : Origin) : Item := .table origin []

def get? (key : String) : Item → Option Item
  | .table _ entries => entries.lookup key
  | _ => none

/-- Entries in which a key has a new item. -/
def replaced (key : String) (new : Item) : List (String × Item) → List (String × Item)
  | [] => [(key, new)]
  | (k, item) :: rest => if k = key then (k, new) :: rest else (k, item) :: replaced key new rest

/-- A table in which a key has a new item. -/
def set? (table : Item) (key : String) (new : Item) : Option Item :=
  match table with
  | .table origin entries => some (.table origin (replaced key new entries))
  | _ => none

/-- Changes the table at the end of a path. Tables on the way come about as needed; the last table
with a header is entered where there are several. Dotted keys do not enter a table with a header. -/
def change? (dotted : Bool) (f : Item → Option Item) : List String → Item → Option Item
  | [], item => f item
  | key :: path, item =>
    match item.get? key with
    | none => do
      let new ← change? dotted f path (empty (if dotted then .dotted else .mention))
      item.set? key new
    | some (.table origin entries) =>
      if dotted && origin = .header then none
      else do
        let new ← change? dotted f path (.table origin entries)
        item.set? key new
    | some (.tables (last :: others)) => do
      let new ← change? dotted f path last
      item.set? key (.tables (new :: others))
    | some _ => none

/-- Adds a setting behind a path of dotted keys. A path must end in a table that dotted keys have
made, and a key without a path stands in a table that has a header. No key comes twice. -/
def addValue? (path : List String) (key : String) (node : Node) : Item → Option Item :=
  change? true (fun table =>
    match table with
    | .table origin entries =>
      if (origin ≠ .dotted ↔ path = []) && (entries.lookup key).isNone then
        some (.table origin (replaced key (.value node) entries))
      else none
    | _ => none) path

def addTable? (path : List String) (key : String) : Item → Option Item :=
  change? false (fun parent =>
    match parent.get? key with
    | none => parent.set? key (empty .header)
    | some (.table .mention entries) => parent.set? key (.table .header entries)
    | some _ => none) path

/-- Begins one more table of a header that may come several times. -/
def addElement? (path : List String) (key : String) : Item → Option Item :=
  change? false (fun parent =>
    match parent.get? key with
    | none => parent.set? key (.tables [empty .header])
    | some (.tables all) => parent.set? key (.tables (empty .header :: all))
    | some _ => none) path

mutual

def node : Item → Node
  | .value node => node
  | .table _ entries => .table (entryNodes entries)
  | .tables all => .list (nodes all).reverse

def nodes : List Item → List Node
  | [] => []
  | item :: items => item.node :: nodes items

def entryNodes : List (String × Item) → List (String × Node)
  | [] => []
  | (key, item) :: rest => (key, item.node) :: entryNodes rest

end

end Item

end Tollgate.Toml
