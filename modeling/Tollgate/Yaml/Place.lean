import Tollgate.Config.Node

/-!
# Places in YAML texts

A reader knows the column that it is in, and whether a block may begin there. It also keeps the
nodes that were given names. Blanks, comments and line breaks between nodes are skipped here.
-/

namespace Tollgate.Yaml

open Config (Node)

/-- How far a text is read. -/
structure Place where
  rest : List Char
  /-- The column of the next character. -/
  column : Nat
  /-- Whether a block may begin here: only blanks and dashes are in front of it on its line. -/
  fresh : Bool
  /-- The nodes that have names. -/
  anchors : List (String × Node)

/-- Takes from a text, or fails. -/
abbrev Reader := StateT Place Option

/-! ## Characters -/

/-- Characters between words on a line. -/
def isBlank (c : Char) : Bool := c = ' ' || c = '\t'

def wordEnds : List Char → Bool
  | [] => true
  | c :: _ => isBlank c || c = '\n'

/-- Characters with a meaning between brackets. -/
def isFlowMark (c : Char) : Bool :=
  c = ',' || c = '[' || c = ']' || c = '\x7b' || c = '\x7d'

/-- Whether a text begins with the mark of a new or an ended document. -/
def isMark (c : Char) : List Char → Bool
  | a :: b :: d :: tail => a = c && b = c && d = c && wordEnds tail
  | _ => false

/-- Characters that may stand in a text at all. -/
def isPrintable (c : Char) : Bool :=
  c = '\t' || c = '\n' || c = '\r' || (' ' ≤ c && c ≤ '~') || c = '\x85'
    || ('\xA0' ≤ c && c ≠ '\uFEFF' && c ≠ '\uFFFE' && c ≠ '\uFFFF')

/-- A text in which every line break is a line feed. -/
def normalized : List Char → List Char
  | '\r' :: '\n' :: rest => '\n' :: normalized rest
  | '\r' :: rest | '\x85' :: rest => '\n' :: normalized rest
  | c :: rest => c :: normalized rest
  | [] => []

namespace Reader

def skip (count : Nat) : Reader Unit :=
  modify fun place =>
    { place with rest := place.rest.drop count, column := place.column + count, fresh := false }

def breakLine : Reader Unit :=
  modify fun place => { place with rest := place.rest.drop 1, column := 0, fresh := true }

/-- What has not been taken. -/
def rest : Reader (List Char) := return (← get).rest

def column : Reader Nat := return (← get).column

def peek : Reader (Option Char) := return (← get).rest.head?

def atEnd : Reader Bool := do
  let place ← get
  return place.rest.isEmpty
    || (place.column = 0 && (isMark '-' place.rest || isMark '.' place.rest))

/-- Takes blanks, comments and line breaks. Tabs do not indent a block. -/
def space (flow : Bool) : (steps : Nat) → Reader Unit
  | 0 => return
  | steps + 1 => do
    let place ← get
    match place.rest with
    | ' ' :: _ =>
      skip 1
      modify ({ · with fresh := place.fresh })
      space flow steps
    | '\t' :: _ =>
      if place.fresh && !flow then failure
      skip 1
      space flow steps
    | '#' :: _ =>
      skip (place.rest.takeWhile (· ≠ '\n')).length
      space flow steps
    | '\n' :: _ =>
      breakLine
      space flow steps
    | _ => return

/-- Takes blanks, comments and line breaks, as far as they go. -/
def anySpace (flow : Bool) : Reader Unit := do space flow (← rest).length

end Reader

end Tollgate.Yaml
