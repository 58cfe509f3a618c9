import Tollgate.Text.Decimal

/-!
# The tree of a configuration file

Both file formats are read into one kind of tree. What a plain scalar means depends on what is
expected where it stands, so it is kept as it was written.
-/

namespace Tollgate.Config

inductive Node where
  | text (value : String)
  /-- A scalar without quotes: text, a number, a truth value or nothing. -/
  | plain (value : String)
  | integer (value : Int)
  | boolean (value : Bool)
  /-- A date or a time, which no setting takes. -/
  | moment
  /-- Values that may stand for the settings of a section, in their order. -/
  | list (items : List Node)
  | table (entries : List (String × Node))
  /-- Any other value that no setting takes. -/
  | other

namespace Node

/-! ## Plain scalars -/

def isNothing (value : String) : Bool := ["", "~", "null", "Null", "NULL"].contains value

private def digitsOf (base : Nat) (digits : List Char) : Option Nat := Text.natural? base digits

private def based? : List Char → Option Nat
  | '0' :: 'x' :: digits => digitsOf 16 digits
  | '0' :: 'o' :: digits => digitsOf 8 digits
  | '0' :: 'b' :: digits => digitsOf 2 digits
  | _ => none

/-- A number in base ten; zeros in front are not allowed. -/
private def decimal? : List Char → Option Nat
  | ['0'] => some 0
  | '0' :: _ => none
  | digits => digitsOf 10 digits

private def magnitude? (digits : List Char) : Option Nat := based? digits <|> decimal? digits

/-- The whole number that a plain scalar spells. -/
def plainInt? (value : String) : Option Int :=
  match value.toList with
  | '-' :: digits => (magnitude? digits).map fun n => -(n : Int)
  | '+' :: digits => (magnitude? digits).map fun n => (n : Int)
  | digits => (magnitude? digits).map fun n => (n : Int)

/-- The truth value that a plain scalar spells. -/
def plainBool? (value : String) : Option Bool :=
  if ["true", "True", "TRUE"].contains value then some true
  else if ["false", "False", "FALSE"].contains value then some false
  else none

/-! ## What a node is taken for -/

def text? : Node → Option String
  | .text value | .plain value => some value
  | _ => none

def bool? : Node → Option Bool
  | .boolean value => some value
  | .plain value => plainBool? value
  | _ => none

def int? : Node → Option Int
  | .integer value => some value
  | .plain value => plainInt? value
  | _ => none

def int64? (node : Node) : Option Int64 :=
  (node.int?.filter Text.fitsInt64).map Int64.ofInt

/-- A 64-bit natural number. A sign in front of it is not a number, unless it is a plus sign. -/
def uint64? (node : Node) : Option UInt64 :=
  match node with
  | .plain value => if value.toList.head? = some '-' then none else bounded node
  | _ => bounded node
where
  bounded (node : Node) : Option UInt64 :=
    (node.int?.filter fun n => 0 ≤ n && n ≤ (Text.maxUInt64 : Int)).map
      fun n => UInt64.ofNat n.toNat

/-- A node that may be nothing, and otherwise is read. -/
def optional? {α : Type} (read : Node → Option α) (node : Node) : Option (Option α) :=
  match node with
  | .plain value => if isNothing value then some none else (read node).map some
  | _ => (read node).map some

/-- What a section gives of some settings. A table names them, each at most once, a list has them in
order, and an empty section gives none. -/
def settings? (names : List String) : Node → Option (List (String × Node))
  | .table entries =>
    let known := entries.filter (names.contains ·.1)
    if (known.map (·.1)).Nodup then some known else none
  | .list items => some (names.zip items)
  | .plain value => if value = "" then some [] else none
  | .moment => some []
  | _ => none

end Node

end Tollgate.Config
