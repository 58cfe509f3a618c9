import Tollgate.Octets

/-!
# Domain names

A name is a sequence of labels, the leftmost first. Labels are arbitrary octets; two labels are the
same label if they differ at most in the case of ASCII letters. On the wire a name takes one length
octet per label and a final zero, at most 255 octets in all.
-/

namespace Tollgate.Dns

abbrev Label := Octets

namespace Label

def maxLength : Nat := 63

/-- The lower-case form of an ASCII letter; other octets stay. -/
def lowerOctet (byte : UInt8) : UInt8 := if 0x41 ≤ byte && byte ≤ 0x5A then byte + 32 else byte

/-- A label with its ASCII letters in lower case. -/
def lower (label : Label) : Label := label.map lowerOctet

/-- Whether two octet strings are the same label. -/
def same (a b : Label) : Bool := lower a = lower b

end Label

structure Name where
  /-- The labels from the leftmost on. -/
  labels : List Label
  /-- Whether the name ends at the root; names off the wire always do. -/
  absolute : Bool
  deriving DecidableEq, Repr

namespace Name

def root : Name := ⟨[], true⟩

def isRoot (name : Name) : Bool := name.labels.isEmpty && name.absolute

/-- The most octets that a name takes on the wire. -/
def maxWireLength : Nat := 255

/-- How many octets the labels take on the wire, without the final zero. -/
def labelsLength : List Label → Nat
  | [] => 0
  | label :: rest => label.length + 1 + labelsLength rest

/-- Whether labels make a name that fits the wire. -/
def fits (labels : List Label) : Bool := labelsLength labels + 1 ≤ maxWireLength

/-- The name without its leftmost label; the root stays. -/
def parent (name : Name) : Name := ⟨name.labels.drop 1, true⟩

/-- The name with a label in front, if it still fits. -/
def child? (name : Name) (label : Label) : Option Name :=
  if fits (label :: name.labels) then some { name with labels := label :: name.labels } else none

/-- The name with its ASCII letters in lower case. -/
def lower (name : Name) : Name := { name with labels := name.labels.map Label.lower }

end Name

end Tollgate.Dns
