import Tollgate.Text.Percent
import Tollgate.Text.Split
import Tollgate.Text.Utf8

/-!
# Query strings

A query string is a list of `name=value` pairs joined by `&`. Empty pairs are skipped, a pair
without `=` has an empty value, `+` is a space, and both sides are percent-decoded.
-/

namespace Tollgate.Text.Form

def unescape (bytes : Octets) : String :=
  let spaced := bytes.map fun byte => if byte = 0x2B then 0x20 else byte
  String.ofList (Utf8.decodeLossy (Percent.decode spaced))

def pair (bytes : Octets) : String × String :=
  match cut 0x3D bytes with
  | some (name, value) => (unescape name, unescape value)
  | none => (unescape bytes, "")

/-- The pairs of a query string in order. -/
def pairs (query : String) : List (String × String) :=
  ((split 0x26 (Octets.ofText query)).filter (!·.isEmpty)).map pair

/-- The last value that a name is given. -/
def last? (name : String) (query : List (String × String)) : Option String :=
  (query.reverse.find? (·.1 = name)).map (·.2)

end Tollgate.Text.Form
