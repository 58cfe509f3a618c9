import Tollgate.Text.Reader
import Tollgate.Toml.Scalar
import Tollgate.Toml.Table

/-!
# Reading TOML

A file is a sequence of lines: a setting, the header of a table, or nothing. Values may go over
several lines where they are arrays or long strings. Nothing is read of a file with a mistake in it.
-/

namespace Tollgate.Toml

open Config (Node)
open Text (Reader)
open Text.Reader

/-- How deep arrays and inline tables may be nested. -/
def maxDepth : Nat := 79

def isBlank (c : Char) : Bool := c = ' ' || c = '\t'

/-- Whether a character may stand in a comment. -/
def isCommentChar (c : Char) : Bool :=
  c = '\t' || (' ' ≤ c && c ≠ '\x7f')

def blanks : Reader Unit := do let _ ← run isBlank

def newline : Reader Unit := do
  match ← get with
  | '\n' :: rest | '\r' :: '\n' :: rest => set rest
  | _ => failure

def comment : Reader Unit := do
  if (← peek) = some '#' then
    let _ ← run isCommentChar

/-- Takes what may stand behind a value, to the end of the line. -/
def lineEnd : Reader Unit := do
  blanks
  comment
  if (← peek).isSome then newline

/-- Takes blanks, comments and line breaks. -/
def space : (steps : Nat) → Reader Unit
  | 0 => failure
  | steps + 1 => do
    blanks
    comment
    match ← peek with
    | some '\n' | some '\r' => newline; space steps
    | _ => return

/-- Takes blanks, comments and line breaks, as far as they go. -/
def anySpace : Reader Unit := do space ((← get).length + 1)

/-! ## Strings -/

/-- The character of a hexadecimal number of some digits. -/
def codePoint (width : Nat) : Reader Char := do
  let digits := (← get).take width
  skip width
  match Text.natural? 16 digits with
  | some n => if digits.length = width ∧ n.isValidChar then return Char.ofNat n else failure
  | none => failure

/-- The character that an escape stands for; its backslash is taken. -/
def escaped : Reader Char := do
  let mark ← peek
  skip 1
  match mark with
  | some 'b' => return '\x08'
  | some 't' => return '\t'
  | some 'n' => return '\n'
  | some 'f' => return '\x0c'
  | some 'r' => return '\r'
  | some '"' => return '"'
  | some '\\' => return '\\'
  | some 'u' => codePoint 4
  | some 'U' => codePoint 8
  | _ => failure

/-- Whether a backslash is followed by the end of its line. -/
def joinsLines (text : List Char) : Bool :=
  match text.dropWhile isBlank with
  | '\n' :: _ | '\r' :: '\n' :: _ => true
  | _ => false

/-- Takes a string on one line, whose opening quote is taken. -/
def line (quote : Char) : (steps : Nat) → Reader (List Char)
  | 0 => failure
  | steps + 1 => do
    match ← get with
    | [] => failure
    | c :: rest =>
      set rest
      if c = quote then return []
      else if c = '\\' && quote = '"' then
        let char ← escaped
        return char :: (← line quote steps)
      else if isCommentChar c then return c :: (← line quote steps)
      else failure

/-- Takes a string that may go over several lines, whose opening quotes are taken. Up to two of its
quotes may stand next to one another. -/
def lines (quote : Char) : (steps : Nat) → Reader (List Char)
  | 0 => failure
  | steps + 1 => do
    match ← get with
    | [] => failure
    | '\r' :: '\n' :: rest =>
      set rest
      return '\n' :: (← lines quote steps)
    | c :: rest =>
      if c = quote then
        let quotes ← run (· = quote)
        if quotes.length < 3 then return quotes ++ (← lines quote steps)
        else if quotes.length ≤ 5 then return quotes.drop 3
        else failure
      else
        set rest
        if c = '\\' && quote = '"' then
          if joinsLines rest then
            let _ ← run fun c => isBlank c || c = '\n' || c = '\r'
            lines quote steps
          else
            let char ← escaped
            return char :: (← lines quote steps)
        else if c = '\n' || isCommentChar c then return c :: (← lines quote steps)
        else failure

/-- Takes a string in one pair of quotes. -/
def lineString (quote : Char) : Reader String := do
  skip 1
  return String.ofList (← line quote ((← get).length + 1))

/-- Takes a string in single or threefold quotes. -/
def string (quote : Char) : Reader String := do
  if ← ahead [quote, quote, quote] then
    skip 3
    if ← ahead ['\r', '\n'] then skip 2
    else if ← ahead ['\n'] then skip 1
    return String.ofList (← lines quote ((← get).length + 1))
  else lineString quote

/-! ## Keys -/

def isBareKeyChar (c : Char) : Bool := c.isAlphanum || c = '_' || c = '-'

def key : Reader String := do
  match ← peek with
  | some '"' => lineString '"'
  | some '\'' => lineString '\''
  | _ => return String.ofList (← run1 isBareKeyChar)

/-- Takes keys with dots between them. -/
def keys : (steps : Nat) → Reader (List String)
  | 0 => failure
  | steps + 1 => do
    blanks
    let first ← key
    blanks
    if (← peek) = some '.' then
      skip 1
      return first :: (← keys steps)
    else return [first]

/-- Takes a dotted key: the path to its table, and its last part. -/
def dottedKey : Reader (List String × String) := do
  let all ← keys ((← get).length + 1)
  match all.getLast? with
  | some last => return (all.dropLast, last)
  | none => failure

/-! ## Values -/

/-- Takes a number, a date or a word. A date may be followed by a blank and its time. -/
def bare : Reader Node := do
  let token ← run isBareValueChar
  if isDate token then
    match ← get with
    | ' ' :: c :: _ =>
      if c.isDigit then
        skip 1
        if isZonedTime (← run isBareValueChar) then return .moment else failure
    | _ => pure ()
  bareValue? token

mutual

def value (depth : Nat) : (steps : Nat) → Reader Node
  | 0 => failure
  | steps + 1 => do
    match ← peek with
    | some '"' => return .text (← string '"')
    | some '\'' => return .text (← string '\'')
    | some '[' =>
      if depth = 0 then failure
      skip 1
      return .list (← elements (depth - 1) steps)
    | some '\x7b' =>
      if depth = 0 then failure
      skip 1
      blanks
      if (← peek) = some '\x7d' then
        skip 1
        return .table []
      else return (← members (depth - 1) (Item.empty .header) steps).node
    | _ => bare

/-- Takes the elements of an array and its end. -/
def elements (depth : Nat) : (steps : Nat) → Reader (List Node)
  | 0 => failure
  | steps + 1 => do
    anySpace
    if (← peek) = some ']' then
      skip 1
      return []
    let first ← value depth steps
    anySpace
    match ← peek with
    | some ',' =>
      skip 1
      return first :: (← elements depth steps)
    | some ']' =>
      skip 1
      return [first]
    | _ => failure

/-- Takes the entries of an inline table, one at least, and its end. -/
def members (depth : Nat) (table : Item) : (steps : Nat) → Reader Item
  | 0 => failure
  | steps + 1 => do
    let (path, last) ← dottedKey
    expect '='
    blanks
    let node ← value depth steps
    blanks
    let table ← table.addValue? path last node
    match ← peek with
    | some ',' =>
      skip 1
      members depth table steps
    | some '\x7d' =>
      skip 1
      return table
    | _ => failure

end

/-! ## Lines -/

/-- Takes the header of a table, and says where the table is. -/
def header (root : Item) : Reader (List String × Item) := do
  skip 1
  let several := (← peek) = some '['
  if several then skip 1
  let (path, last) ← dottedKey
  expect ']'
  if several then expect ']'
  lineEnd
  let root ← if several then root.addElement? path last else root.addTable? path last
  return (path ++ [last], root)

/-- Takes a setting of the table at a place. -/
def setting (place : List String) (root : Item) : Reader Item := do
  let (path, last) ← dottedKey
  expect '='
  blanks
  let node ← value maxDepth ((← get).length + 1)
  lineEnd
  root.change? false (Item.addValue? path last node) place

/-- Takes all lines and fills the tables. -/
def document : (steps : Nat) → (place : List String) → (root : Item) → Reader Item
  | 0, _, _ => failure
  | steps + 1, place, root => do
    blanks
    match ← peek with
    | none => return root
    | some '#' | some '\n' | some '\r' =>
      lineEnd
      document steps place root
    | some '[' =>
      let (place, root) ← header root
      document steps place root
    | some _ =>
      let root ← setting place root
      document steps place root

def parse? (text : String) : Option Node := do
  let chars := match text.toList with
    | '\uFEFF' :: rest => rest
    | chars => chars
  let (root, _) ← StateT.run (document (chars.length + 1) [] (.empty .header)) chars
  return root.node

end Tollgate.Toml
