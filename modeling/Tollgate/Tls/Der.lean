import Tollgate.Octets

/-!
# DER values

A value is a tag, the length of its content, and the content. Lengths below 128 are one octet;
others follow the count of their octets and take no more of them than needed.
-/

namespace Tollgate.Tls.Der

/-- The tags of the values that certificates and keys are made of. -/
def integerTag : UInt8 := 0x02

@[inherit_doc integerTag]
def bitStringTag : UInt8 := 0x03

@[inherit_doc integerTag]
def octetStringTag : UInt8 := 0x04

@[inherit_doc integerTag]
def sequenceTag : UInt8 := 0x30

@[inherit_doc integerTag]
def versionTag : UInt8 := 0xA0

structure Value where
  tag : UInt8
  content : Octets
  deriving DecidableEq, Repr

private def length? : Octets → Option (Nat × Octets)
  | [] => none
  | first :: rest =>
    if first < 0x80 then some (first.toNat, rest)
    else do
      let (digits, rest) ← Octets.take? (first.toNat - 0x80) rest
      let length := digits.toNat
      if digits.head? = some 0 || length < 0x80 || 4 < digits.length then none
      else some (length, rest)

def take? : Octets → Option (Value × Octets)
  | [] => none
  | tag :: rest => do
    let (length, rest) ← length? rest
    let (content, rest) ← Octets.take? length rest
    return (⟨tag, content⟩, rest)

/-- The values that octets consist of, of which there are `steps` at most. -/
private def valuesUpTo : (steps : Nat) → Octets → Option (List Value)
  | _, [] => some []
  | 0, _ :: _ => none
  | steps + 1, bytes => do
    let (value, rest) ← take? bytes
    return value :: (← valuesUpTo steps rest)

def values? (bytes : Octets) : Option (List Value) := valuesUpTo bytes.length bytes

def sequence? (bytes : Octets) : Option (List Value) := do
  match ← values? bytes with
  | [⟨tag, content⟩] => if tag = sequenceTag then values? content else none
  | _ => none

def startsWith (values : List Value) (tags : List UInt8) : Bool :=
  tags.isPrefixOf (values.map (·.tag))

/-- Whether octets have the form of a certificate: what is signed, how, and the signature. -/
def isCertificate (bytes : Octets) : Bool :=
  match sequence? bytes with
  | some [signed, how, signature] =>
    signed.tag = sequenceTag && how.tag = sequenceTag && signature.tag = bitStringTag
      && ((values? signed.content).any fun fields =>
        startsWith fields ([versionTag, integerTag] ++ List.replicate 5 sequenceTag))
  | _ => false

/-- Whether octets have the form of a private key with the name of its algorithm. -/
def isNamedKey (bytes : Octets) : Bool :=
  (sequence? bytes).any (startsWith · [integerTag, sequenceTag, octetStringTag])

/-- Whether octets have the form of an RSA private key, which is nine numbers. -/
def isRsaKey (bytes : Octets) : Bool :=
  (sequence? bytes).any (startsWith · (List.replicate 9 integerTag))

/-- Whether octets have the form of a private key on an elliptic curve. -/
def isCurveKey (bytes : Octets) : Bool :=
  (sequence? bytes).any (startsWith · [integerTag, octetStringTag])

end Tollgate.Tls.Der
