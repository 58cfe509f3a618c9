import Tollgate.Config.Node

/-!
# Bare values in TOML

Numbers, dates and words stand without quotes. Digits may be separated by single underscores, and
numbers in base ten have no zeros in front. Whole numbers have 64 bits.
-/

namespace Tollgate.Toml

open Config (Node)

def isBareValueChar (c : Char) : Bool :=
  c.isAlphanum || c = '+' || c = '-' || c = '.' || c = ':' || c = '_'

/-- Digits of a base without the underscores between them. -/
def digits? (base : Nat) : List Char → Option (List Char)
  | [] => none
  | [c] => if (Text.digitOf? base c).isSome then some [c] else none
  | c :: '_' :: rest =>
    if (Text.digitOf? base c).isSome then (digits? base rest).map (c :: ·) else none
  | c :: rest =>
    if (Text.digitOf? base c).isSome then (digits? base rest).map (c :: ·) else none

/-- Digits of base ten without zeros in front. -/
def decimalDigits? : List Char → Option (List Char)
  | ['0'] => some ['0']
  | '0' :: _ => none
  | text => digits? 10 text

def signed (text : List Char) : Bool × List Char :=
  match text with
  | '-' :: rest => (true, rest)
  | '+' :: rest => (false, rest)
  | _ => (false, text)

/-- A whole number. Only numbers in base ten have a sign. -/
def integer? (text : List Char) : Option Int :=
  let value : Option Int :=
    match text with
    | '0' :: 'x' :: rest => natural 16 (digits? 16 rest)
    | '0' :: 'o' :: rest => natural 8 (digits? 8 rest)
    | '0' :: 'b' :: rest => natural 2 (digits? 2 rest)
    | _ =>
      let (negative, rest) := signed text
      (natural 10 (decimalDigits? rest)).map fun n => if negative then -n else n
  value.filter Text.fitsInt64
where
  natural (base : Nat) (digits : Option (List Char)) : Option Int :=
    (digits.bind (Text.natural? base)).map fun n => (n : Int)

private def isExponent (text : List Char) : Bool := (digits? 10 (signed text).2).isSome

private def isExponentMark (c : Char) : Bool := c = 'e' || c = 'E'

/-- Whether a text is a number with a fraction or an exponent, or not a number at all. -/
def isFloat (text : List Char) : Bool :=
  let rest := (signed text).2
  if rest = ['i', 'n', 'f'] || rest = ['n', 'a', 'n'] then true
  else
    let whole := rest.takeWhile fun c => c ≠ '.' && !isExponentMark c
    (decimalDigits? whole).isSome &&
      match rest.drop whole.length with
      | '.' :: tail =>
        let fraction := tail.takeWhile (!isExponentMark ·)
        (digits? 10 fraction).isSome &&
          match tail.drop fraction.length with
          | [] => true
          | _ :: exponent => isExponent exponent
      | _ :: exponent => isExponent exponent
      | [] => false

/-! ## Dates and times -/

def field? (width : Nat) (text : List Char) : Option Nat :=
  if text.length = width then text.foldlM (fun n c => (Text.digit? c).map (n * 10 + ·)) 0
  else none

private def isLeap (year : Nat) : Bool := year % 4 = 0 && (year % 100 ≠ 0 || year % 400 = 0)

private def daysOf (year month : Nat) : Nat :=
  if month = 2 then (if isLeap year then 29 else 28)
  else if [4, 6, 9, 11].contains month then 30 else 31

/-- Whether a text is a day, as in `1979-05-27`. -/
def isDate (text : List Char) : Bool :=
  (do
    let year ← field? 4 (text.take 4)
    let month ← field? 2 ((text.drop 5).take 2)
    let day ← field? 2 (text.drop 8)
    return text[4]? = some '-' && text[7]? = some '-' && 1 ≤ month && month ≤ 12
      && 1 ≤ day && day ≤ daysOf year month).getD false

private def isHourMinute (text : List Char) : Bool :=
  (do
    let hour ← field? 2 (text.take 2)
    let minute ← field? 2 (text.drop 3)
    return text[2]? = some ':' && hour ≤ 23 && minute ≤ 59).getD false

/-- Whether a text is a time of day, as in `07:32:00.5`. -/
def isTime (text : List Char) : Bool :=
  isHourMinute (text.take 5) && text[5]? = some ':'
    && (field? 2 ((text.drop 6).take 2)).any (· ≤ 60)
    && match text.drop 8 with
      | [] => true
      | '.' :: fraction => !fraction.isEmpty && fraction.all Char.isDigit
      | _ => false

/-- Whether a text is a time of day, perhaps with its distance from universal time. -/
def isZonedTime (text : List Char) : Bool :=
  let time := text.takeWhile fun c => c.isDigit || c = ':' || c = '.'
  isTime time &&
    match text.drop time.length with
    | [] | ['Z'] | ['z'] => true
    | '+' :: zone | '-' :: zone => isHourMinute zone
    | _ => false

/-- Whether a text is a date, a time, or both with a letter between them. -/
def isMoment (text : List Char) : Bool :=
  isTime text || isDate text
    || (isDate (text.take 10) && (text[10]? = some 'T' || text[10]? = some 't')
      && isZonedTime (text.drop 11))

def bareValue? (text : List Char) : Option Node :=
  match String.ofList text with
  | "true" => some (.boolean true)
  | "false" => some (.boolean false)
  | _ =>
    match integer? text with
    | some n => some (.integer n)
    | none => if isFloat text then some .other else if isMoment text then some .moment else none

end Tollgate.Toml
