/-!
# Readers of text

A reader takes characters off the front of a text, or fails.
-/

namespace Tollgate.Text

/-- A reader that gives a value. -/
abbrev Reader := StateT (List Char) Option

namespace Reader

/-- The next character, which stays. -/
def peek : Reader (Option Char) := return (← get).head?

def skip (count : Nat) : Reader Unit := modify (·.drop count)

/-- Takes a character that has to come next. -/
def expect (c : Char) : Reader Unit := do
  match ← get with
  | next :: rest => if next = c then set rest else failure
  | [] => failure

/-- Takes the longest run of a class. -/
def run (p : Char → Bool) : Reader (List Char) := do
  let text ← get
  set (text.dropWhile p)
  return text.takeWhile p

/-- Takes the longest run of a class, which has to be one character or more. -/
def run1 (p : Char → Bool) : Reader (List Char) := do
  let taken ← run p
  if taken.isEmpty then failure else return taken

def ahead (start : List Char) : Reader Bool := return start.isPrefixOf (← get)

end Reader

end Tollgate.Text
