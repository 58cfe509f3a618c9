/-!
# Quoted text in JSON

Quotes, backslashes and control characters are escaped; all other characters stand for themselves.
-/

namespace Tollgate.Json

private def unicodeEscape (n : Nat) : List Char :=
  ['\\', 'u', '0', '0', Nat.digitChar (n / 16), Nat.digitChar (n % 16)]

/-- The characters that stand for a character between quotes. -/
def escape (c : Char) : List Char :=
  match c with
  | '"' => ['\\', '"']
  | '\\' => ['\\', '\\']
  | '\x08' => ['\\', 'b']
  | '\t' => ['\\', 't']
  | '\n' => ['\\', 'n']
  | '\x0c' => ['\\', 'f']
  | '\r' => ['\\', 'r']
  | c => if c.toNat < 0x20 then unicodeEscape c.toNat else [c]

def quote (text : String) : String :=
  String.ofList ('"' :: text.toList.flatMap escape ++ ['"'])

/-- An object of fields whose values are written already. -/
def object (fields : List (String × String)) : String :=
  "\x7b" ++ ",".intercalate (fields.map fun (name, value) => quote name ++ ":" ++ value) ++ "\x7d"

/-- An array of values that are written already. -/
def array (values : List String) : String := "[" ++ ",".intercalate values ++ "]"

end Tollgate.Json
