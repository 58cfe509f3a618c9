import Tollgate.Yaml.Scalar

/-!
# Reading YAML

Blocks are told apart by their columns: the entries of a mapping all begin in one column, and what
belongs to an entry stands further right, except that the dashes of a sequence may stand right under
the key. Between brackets columns do not count. Nothing is read of a text with a mistake in it.
-/

namespace Tollgate.Yaml

open Config (Node)

namespace Reader

/-! ## Names -/

private def isNameChar (c : Char) : Bool := c.isAlphanum || c = '_' || c = '-'

/-- The name behind the mark of an anchor or an alias. -/
private def nameOf (text : List Char) : Option (List Char) :=
  let name := text.takeWhile isNameChar
  let tail := text.drop name.length
  let ends := wordEnds tail || (tail.head?).any ("?:,]\x7d%@`".toList.contains ·)
  if name.isEmpty || !ends then none else some name

private def name : Reader String := do
  skip 1
  let found ← nameOf (← rest)
  skip found.length
  return String.ofList found

private def remember (anchor : String) (node : Node) : Reader Node := do
  modify fun place => { place with anchors := (anchor, node) :: place.anchors }
  return node

/-- Takes an anchor. Until its node has been read, its name stands for a node that fits nowhere. -/
private def begin : Reader String := do
  let anchor ← name
  let _ ← remember anchor .other
  return anchor

private def named (anchor : String) : Reader Node := do (← get).anchors.lookup anchor

/-! ## Flow style -/

mutual

private def flowNode : (steps : Nat) → Reader Node
  | 0 => failure
  | steps + 1 => do
    match ← peek with
    | some '&' =>
      let anchor ← begin
      anySpace true
      let node ← if (← peek).any fun c => c = ',' || c = ']' || c = '\x7d' then pure (.plain "")
        else flowNode steps
      remember anchor node
    | some '*' => named (← name)
    | some '[' =>
      skip 1
      flowSequence steps
      return .other
    | some '\x7b' =>
      skip 1
      return .table (← flowMapping steps)
    | some '"' =>
      skip 1
      return .text (String.ofList (← quoted '"' steps))
    | some '\'' =>
      skip 1
      return .text (String.ofList (← quoted '\'' steps))
    | _ =>
      if startsPlain true (← rest) then return .plain (String.ofList (← plain true 0 steps))
      else failure

/-- Takes what follows a key between brackets, up to the end of the entry. -/
private def flowValue : (steps : Nat) → Reader Node
  | 0 => failure
  | steps + 1 => do
    if (← peek) ≠ some ':' then return .plain ""
    skip 1
    anySpace true
    if (← peek).any fun c => c = ',' || c = ']' || c = '\x7d' then return .plain ""
    let node ← flowNode steps
    anySpace true
    return node

/-- Takes the elements of a sequence and its bracket. -/
private def flowSequence : (steps : Nat) → Reader Unit
  | 0 => failure
  | steps + 1 => do
    anySpace true
    if (← peek) = some ']' then
      skip 1
      return
    let _ ← flowNode steps
    anySpace true
    let _ ← flowValue steps
    match ← peek with
    | some ',' =>
      skip 1
      flowSequence steps
    | some ']' => skip 1
    | _ => failure

/-- Takes the entries of a mapping and its bracket. -/
private def flowMapping : (steps : Nat) → Reader (List (String × Node))
  | 0 => failure
  | steps + 1 => do
    anySpace true
    if (← peek) = some '\x7d' then
      skip 1
      return []
    let key ← flowNode steps
    let line := (← get).fresh
    anySpace true
    if (← peek) = some ':' && (← get).fresh ≠ line then failure
    let value ← flowValue steps
    let key ← key.text?
    match ← peek with
    | some ',' =>
      skip 1
      return (key, value) :: (← flowMapping steps)
    | some '\x7d' =>
      skip 1
      return [(key, value)]
    | _ => failure

end

/-! ## Block style -/

/-- Whether an element of a sequence begins here. -/
private def atDash (text : List Char) : Bool := text.head? = some '-' && wordEnds (text.drop 1)

/-- Takes a key and its colon, if they come next on the line, with the name that the key has. -/
private def key? : Reader (Option String) := do
  let start ← get
  let found ← tryRead (do
    let anchor ← if (← peek) = some '&' then
        let anchor ← name
        skip ((← rest).takeWhile isBlank).length
        pure (some anchor)
      else pure none
    let text ← rest
    let node ← match text.head? with
      | some '"' => skip 1; pure (Node.text (String.ofList (← quoted '"' text.length)))
      | some '\'' => skip 1; pure (Node.text (String.ofList (← quoted '\'' text.length)))
      | _ =>
        if startsPlain false text then
          let part := plainLine false text
          skip part.length
          pure (Node.plain (String.ofList part))
        else failure
    let taken := text.take (text.length - (← rest).length)
    if taken.contains '\n' then failure
    skip ((← rest).takeWhile isBlank).length
    match ← rest with
    | ':' :: tail => if wordEnds tail then skip 1 else failure
    | _ => failure
    if let some anchor := anchor then
      let _ ← remember anchor node
    return node.text?)
  match found with
  | some key => return key
  | none =>
    set start
    return none
where
  tryRead (read : Reader (Option String)) : Reader (Option (Option String)) := fun place =>
    match read place with
    | some (found, after) => some (some found, after)
    | none => some (none, place)

mutual

/-- Takes a node that begins here, and whose parts stand in some column or behind it. -/
private def node (least : Nat) : (steps : Nat) → Reader Node
  | 0 => failure
  | steps + 1 => do
    let start ← get
    if start.fresh && atDash start.rest then
      sequence start.column steps
      return .other
    let begun ← if start.fresh then key? else pure none
    if let some key := begun then
      return .table (← mapping start.column key steps)
    match start.rest.head? with
    | some '&' =>
      let anchor ← begin
      remember anchor (← inner least true steps)
    | some '*' => named (← name)
    | some '|' | some '>' => return .text (String.ofList (← block least))
    | some '[' | some '\x7b' => flowNode steps
    | some '"' =>
      skip 1
      return .text (String.ofList (← quoted '"' steps))
    | some '\'' =>
      skip 1
      return .text (String.ofList (← quoted '\'' steps))
    | _ =>
      if startsPlain false start.rest then
        return .plain (String.ofList (← plain false least steps))
      else failure
termination_by structural steps => steps

/-- Takes the node behind a key, a dash or a name, which may be empty. The dashes of a sequence may
stand one column before the others if `dashes` is set. -/
private def inner (least : Nat) (dashes : Bool) : (steps : Nat) → Reader Node
  | 0 => failure
  | steps + 1 => do
    anySpace false
    let place ← get
    if ← atEnd then return .plain ""
    else if least ≤ place.column then node least steps
    else if dashes && place.column + 1 = least && atDash place.rest then
      sequence place.column steps
      return .other
    else return .plain ""
termination_by structural steps => steps

/-- Takes the value of a key and all further entries of a mapping in a column. -/
private def mapping (start : Nat) (key : String) : (steps : Nat) → Reader (List (String × Node))
  | 0 => failure
  | steps + 1 => do
    let value ← inner (start + 1) true steps
    anySpace false
    let place ← get
    if (← atEnd) || (place.fresh && place.column < start) then return [(key, value)]
    else if place.fresh && place.column = start then
      match ← key? with
      | some next => return (key, value) :: (← mapping start next steps)
      | none => failure
    else failure
termination_by structural steps => steps

/-- Takes the elements of a sequence whose dashes are in a column. -/
private def sequence (start : Nat) : (steps : Nat) → Reader Unit
  | 0 => failure
  | steps + 1 => do
    skip 1
    modify ({ · with fresh := true })
    let _ ← inner (start + 1) false steps
    anySpace false
    let place ← get
    if (← atEnd) || (place.fresh && place.column < start) then return
    else if place.fresh && place.column = start then
      if atDash place.rest then sequence start steps
    else failure
termination_by structural steps => steps

end

def document (steps : Nat) : Reader Node := do
  anySpace false
  if (← column) = 0 && isMark '-' (← rest) then skip 3
  let node ← inner 0 false steps
  anySpace false
  if (← column) = 0 && isMark '.' (← rest) then
    skip 3
    anySpace false
  if (← rest).isEmpty then return node else failure

end Reader

def parse? (text : String) : Option Node := do
  let chars := match text.toList with
    | '\uFEFF' :: tail => tail
    | chars => chars
  if !chars.all isPrintable then none
  let chars := normalized chars
  let (node, _) ← StateT.run (Reader.document (3 * chars.length + 3)) ⟨chars, 0, true, []⟩
  return node

end Tollgate.Yaml
