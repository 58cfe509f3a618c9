import Tollgate.Text.Blank
import Tollgate.Text.Decimal
import Tollgate.Yaml.Place

/-!
# Scalars in YAML texts

A plain scalar ends where its line cannot go on, one in quotes at the closing quote, and a block
scalar with its column. In the first two, and in folded blocks, a line break stands for a blank, and
one more line break stands for itself.
-/

namespace Tollgate.Yaml.Reader

/-- The part of a line that belongs to a plain scalar. -/
private def plainPart (flow : Bool) : (afterBlank : Bool) → List Char → List Char
  | _, [] => []
  | afterBlank, c :: tail =>
    if c = '\n' || (c = '#' && afterBlank) || (c = ':' && wordEnds tail) || (flow && isFlowMark c)
    then []
    else c :: plainPart flow (isBlank c) tail

/-- The same without the blanks at its end. -/
def plainLine (flow : Bool) (text : List Char) : List Char :=
  Text.dropEndWhile isBlank (plainPart flow true text)

def startsPlain (flow : Bool) : List Char → Bool
  | [] => false
  | c :: tail =>
    if c = '-' then !wordEnds tail
    else if c = '?' || c = ':' then !flow && !wordEnds tail
    else !(isBlank c || c = '\n' || isFlowMark c || "#&*!|>'\"%@`".toList.contains c)

/-- What stands for line breaks between two words: a blank for one, and one less for several. -/
private def folded (breaks : Nat) : List Char :=
  if breaks = 1 then [' '] else List.replicate (breaks - 1) '\n'

/-- Takes line breaks and the blanks around them, and counts the breaks. Tabs may not stand in front
of a column. -/
private def lineBreaks (least : Nat) : (steps : Nat) → (breaks : Nat) → Reader Nat
  | 0, breaks => return breaks
  | steps + 1, breaks => do
    match ← peek with
    | some ' ' =>
      skip 1
      lineBreaks least steps breaks
    | some '\t' =>
      if 0 < breaks && (← column) < least then failure
      skip 1
      lineBreaks least steps breaks
    | some '\n' =>
      breakLine
      lineBreaks least steps (breaks + 1)
    | _ => return breaks

/-- Takes a plain scalar. In a block it goes on as long as its lines start in some column or behind
it. -/
def plain (flow : Bool) (least : Nat) : (steps : Nat) → Reader (List Char)
  | 0 => failure
  | steps + 1 => do
    let part := plainLine flow (← rest)
    skip part.length
    let here ← get
    let breaks ← lineBreaks least steps 0
    let goesOn := 0 < breaks && !(← atEnd) && (flow || least ≤ (← column))
      && (← peek) ≠ some '#' && !(plainLine flow (← rest)).isEmpty
    if goesOn then return part ++ folded breaks ++ (← plain flow least steps)
    set here
    if flow then
      match here.rest with
      | ':' :: c :: _ => if isFlowMark c || c = '?' then failure
      | _ => pure ()
    return part

private def codePoint (width : Nat) : Reader Char := do
  let digits := (← rest).take width
  skip width
  match Text.natural? 16 digits with
  | some n => if digits.length = width ∧ n.isValidChar then return Char.ofNat n else failure
  | none => failure

/-- The character that an escape stands for; its backslash is taken. -/
private def escaped : Reader Char := do
  let mark ← peek
  skip 1
  match mark with
  | some '0' => return '\x00'
  | some 'a' => return '\x07'
  | some 'b' => return '\x08'
  | some 't' | some '\t' => return '\t'
  | some 'n' => return '\n'
  | some 'v' => return '\x0b'
  | some 'f' => return '\x0c'
  | some 'r' => return '\r'
  | some 'e' => return '\x1b'
  | some ' ' => return ' '
  | some '"' => return '"'
  | some '/' => return '/'
  | some '\\' => return '\\'
  | some 'N' => return '\x85'
  | some '_' => return '\xA0'
  | some 'L' => return '\u2028'
  | some 'P' => return '\u2029'
  | some 'x' => codePoint 2
  | some 'u' => codePoint 4
  | some 'U' => codePoint 8
  | _ => failure

/-- Takes a scalar in quotes, whose opening quote is taken. -/
def quoted (quote : Char) : (steps : Nat) → Reader (List Char)
  | 0 => failure
  | steps + 1 => do
    match ← rest with
    | [] => failure
    | c :: tail =>
      if c = quote then
        skip 1
        if quote = '\'' && tail.head? = some '\'' then
          skip 1
          return '\'' :: (← quoted quote steps)
        else return []
      else if c = '\\' && quote = '"' then
        skip 1
        if tail.head? = some '\n' then
          let breaks ← lineBreaks 0 steps 0
          return List.replicate (breaks - 1) '\n' ++ (← quoted quote steps)
        else
          let char ← escaped
          return char :: (← quoted quote steps)
      else if isBlank c || c = '\n' then
        let blanks := (← rest).takeWhile isBlank
        let breaks ← lineBreaks 0 steps 0
        if ← atEnd then failure
        let between := if breaks = 0 then blanks else folded breaks
        return between ++ (← quoted quote steps)
      else
        skip 1
        return c :: (← quoted quote steps)

/-- Takes the line breaks before the next line of a block scalar and the blanks in front of it, and
gives the breaks and the furthest column. If the column of the scalar is known, no more blanks are
taken than there are in front of it. -/
private def blockBreaks (indent : Option Nat) :
    (steps : Nat) → (breaks widest : Nat) → Reader (Nat × Nat)
  | 0, breaks, widest => return (breaks, widest)
  | steps + 1, breaks, widest => do
    let inFront := indent.all ((← column) < ·)
    match ← peek with
    | some ' ' =>
      if inFront then
        skip 1
        blockBreaks indent steps breaks widest
      else return (breaks, max widest (← column))
    | some '\t' => if inFront then failure else return (breaks, max widest (← column))
    | some '\n' =>
      let widest := max widest (← column)
      breakLine
      blockBreaks indent steps (breaks + 1) widest
    | _ => return (breaks, max widest (← column))

/-- What happens to the line breaks at the end of a block scalar. -/
private inductive Chomping where
  | strip
  | clip
  | keep

/-- Takes the lines of a block scalar. `breaks` line breaks are in front of the next one, the first
of them at the end of a line that began with a blank or not. -/
private def blockLines (fold : Bool) (chomping : Chomping) (indent : Nat) :
    (steps : Nat) → (breaks : Nat) → (first indented : Bool) → Reader (List Char)
  | 0, _, _, _ => failure
  | steps + 1, breaks, first, indented => do
    let text ← rest
    if (← column) = indent && !text.isEmpty then
      let line := text.takeWhile (· ≠ '\n')
      let blankAhead := (line.head?).any isBlank
      let between :=
        if first then List.replicate breaks '\n'
        else if fold && !indented && !blankAhead then folded breaks
        else List.replicate breaks '\n'
      skip line.length
      if (← rest).isEmpty then return between ++ line
      breakLine
      let (more, _) ← blockBreaks (some indent) steps 0 0
      let later ← blockLines fold chomping indent steps (more + 1) false blankAhead
      return between ++ line ++ later
    else
      modify ({ · with fresh := true })
      match chomping with
      | .strip => return []
      | .clip => return if first then [] else ['\n']
      | .keep => return List.replicate breaks '\n'

/-- How a block scalar ends, and how far it is indented, as its first line says. -/
private def blockHeader : List Char → Option (Chomping × Option Nat)
  | [] => some (.clip, none)
  | ['-'] => some (.strip, none)
  | ['+'] => some (.keep, none)
  | [d] => (digit d).map fun n => (.clip, some n)
  | ['-', d] | [d, '-'] => (digit d).map fun n => (.strip, some n)
  | ['+', d] | [d, '+'] => (digit d).map fun n => (.keep, some n)
  | _ => none
where
  digit (c : Char) : Option Nat := (Text.digit? c).filter (0 < ·)

/-- Takes a block scalar whose lines start in some column or behind it. -/
def block (least : Nat) : Reader (List Char) := do
  let fold := (← peek) = some '>'
  skip 1
  let header := (← rest).takeWhile fun c => c.isDigit || c = '-' || c = '+'
  skip header.length
  skip ((← rest).takeWhile isBlank).length
  if (← peek) = some '#' then skip ((← rest).takeWhile (· ≠ '\n')).length
  let (chomping, width) ← blockHeader header
  let steps := (← rest).length + 1
  match ← peek with
  | none => return []
  | some '\n' => breakLine
  | some _ => failure
  let fixed := width.map fun n => least - 1 + n
  let (breaks, widest) ← blockBreaks fixed steps 0 0
  let indent := fixed.getD (max widest (max least 1))
  blockLines fold chomping indent steps breaks true false

end Tollgate.Yaml.Reader
