import Tollgate.Text.Decimal

/-!
# Writing TOML strings

A string has many written forms. The first that needs no escapes is taken: double quotes, single
quotes, then the same threefold. A string that fits none of them is written with escapes.
-/

namespace Tollgate.Toml.Quoted

def longestRun (c : Char) (text : List Char) : Nat :=
  (text.foldl (fun (longest, current) next =>
    let current := if next = c then current + 1 else 0
    (max longest current, current)) (0, 0)).1

/-- Control characters other than tabs and line feeds, which cannot be written as they are. -/
def isHidden (c : Char) : Bool := (c < ' ' && c ≠ '\t' && c ≠ '\n') || c = '\x7f'

/-- Quotes of a kind around a text. A long form begins with a line break if there is one in it. -/
def enclose (quotes text : List Char) : List Char :=
  let lead := if quotes.length = 3 && text.contains '\n' then ['\n'] else []
  quotes ++ lead ++ text ++ quotes

def hexDigit (n : Nat) : Char := (Nat.digitChar n).toUpper

/-- A character as it is written where there are escapes. -/
def escape (long : Bool) (c : Char) : List Char :=
  match c with
  | '\x08' => ['\\', 'b']
  | '\t' => ['\\', 't']
  | '\n' => if long then ['\n'] else ['\\', 'n']
  | '\x0c' => ['\\', 'f']
  | '\r' => ['\\', 'r']
  | '\\' => ['\\', '\\']
  | c =>
    if isHidden c then ['\\', 'u', '0', '0', hexDigit (c.toNat / 16), hexDigit (c.toNat % 16)]
    else [c]

/-- A text with escapes. In the long form two quotes in a row may stay, in the short form none. -/
def escaped (long : Bool) : (quotes : Nat) → List Char → List Char
  | _, [] => []
  | quotes, c :: rest =>
    if c = '"' then
      if long && quotes < 2 then '"' :: escaped long (quotes + 1) rest
      else '\\' :: '"' :: escaped long 0 rest
    else escape long c ++ escaped long 0 rest

def write (text : List Char) : List Char :=
  let plain := !text.any isHidden
  let long := text.contains '\n'
  let doubles := longestRun '"' text
  let singles := longestRun '\'' text
  let threefold := List.replicate 3
  if plain && !text.contains '\\' && doubles = 0 && !long then
    enclose ['"'] (escaped false 0 text)
  else if plain && singles = 0 && !long then enclose ['\''] text
  else if plain && !text.contains '\\' && doubles ≤ 2 then
    enclose (threefold '"') (escaped true 0 text)
  else if plain && singles ≤ 2 then enclose (threefold '\'') text
  else if long then enclose (threefold '"') (escaped true 0 text)
  else enclose ['"'] (escaped false 0 text)

end Tollgate.Toml.Quoted
