import Tollgate.Octets
import Tollgate.Text.Decimal
import Tollgate.Text.Split

/-!
# Network addresses

IPv4 and IPv6 addresses as words of 32 and 128 bits, and their text. IPv4 octets have no leading
zeros. IPv6 text may end in an IPv4 address and may leave out one run of zero groups; it is written
with the first longest run of at least two zero groups left out, and IPv4-mapped addresses end in
the IPv4 form.
-/

namespace Tollgate

inductive Address where
  | v4 (bits : BitVec 32)
  | v6 (bits : BitVec 128)
  deriving DecidableEq, Repr

namespace Address

/-- The network octets of an address, most significant first. -/
def octets : Address → Octets
  | .v4 bits => Octets.ofNat 4 bits.toNat
  | .v6 bits => Octets.ofNat 16 bits.toNat

/-- Whether all bits are zero. -/
def isUnspecified : Address → Bool
  | .v4 bits => bits = 0
  | .v6 bits => bits = 0

/-- The address that an IPv4-mapped IPv6 address stands for; others stand for themselves. -/
def canonical : Address → Address
  | .v4 bits => .v4 bits
  | .v6 bits => if bits >>> 32 = 0xFFFF then .v4 (bits.truncate 32) else .v6 bits

/-- The address family number of the DNS client subnet option. -/
def family : Address → Nat
  | .v4 _ => 1
  | .v6 _ => 2

/-- An address with all but the first `keep` bits cleared. -/
def masked (keep : Nat) : Address → Address
  | .v4 bits => .v4 (bits >>> (32 - keep) <<< (32 - keep))
  | .v6 bits => .v6 (bits >>> (128 - keep) <<< (128 - keep))

/-! ## Reading text -/

/-- Takes a run of digits of a base, at most `most` of them if that is given. -/
def digits? (base : Nat) (most : Option Nat) (text : List Char) :
    Option (Nat × List Char × List Char) := do
  let digits := text.takeWhile fun c => (Text.digitOf? base c).isSome
  let value ← Text.natural? base digits
  if let some most := most then
    if most < digits.length then none
  return (value, digits, text.dropWhile fun c => (Text.digitOf? base c).isSome)

def octet? (text : List Char) : Option (Nat × List Char) := do
  let (value, digits, rest) ← digits? 10 (some 3) text
  if value < 256 ∧ (digits.head? ≠ some '0' ∨ digits.length = 1) then some (value, rest) else none

def expect? (c : Char) : List Char → Option (List Char)
  | first :: rest => if first = c then some rest else none
  | [] => none

/-- Takes an IPv4 address off the front of a text. -/
def readV4? (text : List Char) : Option (BitVec 32 × List Char) := do
  let (a, text) ← octet? text
  let (b, text) ← octet? (← expect? '.' text)
  let (c, text) ← octet? (← expect? '.' text)
  let (d, text) ← octet? (← expect? '.' text)
  return (BitVec.ofNat 32 (((a * 256 + b) * 256 + c) * 256 + d), text)

/-- Takes up to `limit` groups of sixteen bits, separated by colons, off the front of a text. The
last two groups may be written as an IPv4 address, which ends them; whether one did is returned. -/
def groups (first : Bool) : (limit : Nat) → List Char → List Nat × Bool × List Char
  | 0, text => ([], false, text)
  | limit + 1, text =>
    let start := if first then some text else expect? ':' text
    match (if 0 < limit then start.bind readV4? else none) with
    | some (bits, rest) => ([bits.toNat / 65536, bits.toNat % 65536], true, rest)
    | none =>
      match start.bind (digits? 16 (some 4)) with
      | none => ([], false, text)
      | some (group, _, rest) =>
        let (more, ended, rest) := groups false limit rest
        (group :: more, ended, rest)

def ofGroups (groups : List Nat) : BitVec 128 :=
  BitVec.ofNat 128 (groups.foldl (fun n group => n * 65536 + group) 0)

/-- Takes an IPv6 address off the front of a text. -/
def readV6? (text : List Char) : Option (BitVec 128 × List Char) := do
  let (head, ended, rest) := groups true 8 text
  if head.length = 8 then return (ofGroups head, rest)
  if ended then none
  let rest ← expect? ':' (← expect? ':' rest)
  let (tail, _, rest) := groups true (7 - head.length) rest
  return (ofGroups (head ++ List.replicate (8 - head.length - tail.length) 0 ++ tail), rest)

def whole? {α : Type} (found : Option (α × List Char)) : Option α :=
  match found with
  | some (value, []) => some value
  | _ => none

def v6? (text : List Char) : Option (BitVec 128) := whole? (readV6? text)

def ofText? (text : List Char) : Option Address :=
  ((whole? (readV4? text)).map Address.v4) <|> ((v6? text).map Address.v6)

/-! ## Writing text -/

def v4Text (bits : BitVec 32) : String :=
  ".".intercalate ((Octets.ofNat 4 bits.toNat).map toString)

/-- The eight groups of sixteen bits of an IPv6 address. -/
def groupsOf (bits : BitVec 128) : List Nat :=
  (List.range 8).map fun place => (bits.extractLsb' (16 * (7 - place)) 16).toNat

/-- Where the first longest run of zero groups starts, and how long it is. -/
def longestZeros : (place : Nat) → List Nat → Nat × Nat
  | _, [] => (0, 0)
  | place, group :: more =>
    let here := ((group :: more).takeWhile (· = 0)).length
    let (start, length) := longestZeros (place + 1) more
    if 0 < here ∧ length ≤ here then (place, here) else (start, length)

def hexGroups (groups : List Nat) : String :=
  ":".intercalate (groups.map fun group => String.ofList (Nat.toDigits 16 group))

def v6Text (bits : BitVec 128) : String :=
  if bits >>> 32 = 0xFFFF then "::ffff:" ++ v4Text (bits.truncate 32)
  else
    let all := groupsOf bits
    let (start, length) := longestZeros 0 all
    if length < 2 then hexGroups all
    else hexGroups (all.take start) ++ "::" ++ hexGroups (all.drop (start + length))

def text : Address → String
  | .v4 bits => v4Text bits
  | .v6 bits => v6Text bits

end Address

/-- An address with a port, and for IPv6 a scope. -/
structure SocketAddress where
  address : Address
  port : Nat
  /-- The IPv6 scope; zero is none. -/
  scope : Nat
  deriving DecidableEq, Repr

namespace SocketAddress

def portOf? (text : List Char) : Option Nat := do
  let (port, _, rest) ← Address.digits? 10 none (← Address.expect? ':' text)
  if rest = [] ∧ port < 65536 then some port else none

def scoped? : List Char → Option (Nat × List Char)
  | '%' :: text => do
    let (scope, _, rest) ← Address.digits? 10 none text
    if scope < 0x100000000 then some (scope, rest) else none
  | text => some (0, text)

/-- The socket address that a text spells: `a.b.c.d:port`, or an IPv6 address in brackets, with
its scope behind a percent sign. -/
def ofText? (text : List Char) : Option SocketAddress :=
  match text with
  | '[' :: inner => do
    let (bits, rest) ← Address.readV6? inner
    let (scope, rest) ← scoped? rest
    let port ← portOf? (← Address.expect? ']' rest)
    return ⟨.v6 bits, port, scope⟩
  | text => do
    let (bits, rest) ← Address.readV4? text
    return ⟨.v4 bits, ← portOf? rest, 0⟩

def text (socket : SocketAddress) : String :=
  match socket.address with
  | .v4 _ => s!"{socket.address.text}:{socket.port}"
  | .v6 _ =>
    let scope := if socket.scope = 0 then "" else s!"%{socket.scope}"
    s!"[{socket.address.text}{scope}]:{socket.port}"

end SocketAddress

end Tollgate
