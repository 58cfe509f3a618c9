import Tollgate.Dns.Wire.Reader

/-!
# Writing DNS messages

`Message.toWire?` writes a message. Sections come in order and the EDNS record last. A name whose
last labels were written before ends in a pointer to them, if they match to the octet. Records that
do not fit the largest message are left out, and the message is marked as truncated; questions have
to fit.
-/

namespace Tollgate.Dns

def maxMessageLength : Nat := 65535

/-- The first position that is not remembered for pointers. -/
def pointerLimit : Nat := 0x3FFF

/-- The names written so far: runs of labels up to the root, with the position of each. -/
abbrev Written := List (Nat × List Label)

namespace Written

/-- Where a run of labels stands. -/
def find? (written : Written) (labels : List Label) : Option Nat :=
  (List.find? (·.2 = labels) written).map (·.1)

/-- Remembers a run of labels that ends at `end_`. -/
def remember (written : Written) (position end_ : Nat) (labels : List Label) : Written :=
  if end_ < pointerLimit then (position, labels) :: written else written

end Written

def Label.toWire (label : Label) : Octets := label.length.toUInt8 :: label

namespace Name

private def pointerTo (position : Nat) : Octets := Octets.ofNat 2 (0xC000 + position % 0x4000)

/-- Writes labels from a position on, ending in a pointer where that is possible. `end_` is where
the labels would end without one. -/
private def compress (end_ : Nat) : (position : Nat) → Written → List Label → Octets × Written
  | _, written, [] => ([0], written)
  | position, written, label :: rest =>
    match written.find? (label :: rest) with
    | some target => (pointerTo target, written)
    | none =>
      let written := written.remember position end_ (label :: rest)
      let (more, written) := compress end_ (position + label.length + 1) written rest
      (label.toWire ++ more, written)

/-- Remembers the labels of a name that is written without pointers. -/
private def rememberAll (end_ : Nat) : (position : Nat) → Written → List Label → Written
  | _, written, [] => written
  | position, written, label :: rest =>
    let written :=
      if (written.find? (label :: rest)).isSome then written
      else written.remember position end_ (label :: rest)
    rememberAll end_ (position + label.length + 1) written rest

/-- The octets of a name at a position. The labels have to fit the message even where a pointer
would save them. -/
def toWire? (compressed : Bool) (position : Nat) (written : Written) (name : Name) :
    Option (Octets × Written) :=
  let end_ := position + labelsLength name.labels
  if maxMessageLength < end_ || !fits name.labels then none
  else if compressed then some (compress end_ position written name.labels)
  else
    some ((name.labels.map Label.toWire).flatten ++ [0],
      rememberAll end_ position written name.labels)

/-- Pointers only make a name shorter. -/
private theorem length_compress_le (end_ position : Nat) (written : Written)
    (labels : List Label) :
    (compress end_ position written labels).1.length ≤ labelsLength labels + 1 := by
  induction labels generalizing position written with
  | nil => exact Nat.le_refl 1
  | cons label rest ih =>
    unfold compress
    split
    next =>
      rw [pointerTo, Octets.length_ofNat, labelsLength]
      omega
    next =>
      have more := ih (position + label.length + 1)
        (written.remember position end_ (label :: rest))
      dsimp only
      rw [List.length_append, Label.toWire, List.length_cons, labelsLength]
      omega

/-- A name that fits is written wherever there is room for the longest one. -/
theorem exists_toWire? {name : Name} (fits : fits name.labels = true) {position : Nat}
    (room : position + maxWireLength ≤ maxMessageLength) (written : Written) :
    ∃ octets later, name.toWire? true position written = some (octets, later) ∧
      octets.length ≤ maxWireLength := by
  have short : labelsLength name.labels + 1 ≤ maxWireLength := of_decide_eq_true fits
  have inside : ¬ (decide (maxMessageLength < position + labelsLength name.labels) ||
      !Name.fits name.labels) = true := by
    rw [fits, Bool.not_true, Bool.or_false, decide_eq_true_eq]
    omega
  have shorter :=
    length_compress_le (position + labelsLength name.labels) position written name.labels
  rw [toWire?, if_neg inside, if_pos rfl]
  exact ⟨_, _, rfl, Nat.le_trans shorter short⟩

end Name

/-! ## Record data -/

/-- The data of a client subnet option: as many octets of the address as its bits need. -/
def ClientSubnet.toWire (subnet : ClientSubnet) : Octets :=
  Octets.ofNat 2 subnet.address.family ++ Octets.ofNat 1 subnet.sourceBits
    ++ Octets.ofNat 1 subnet.scopeBits
    ++ subnet.address.octets.take (addressOctets subnet.sourceBits)

namespace EdnsOption

def data : EdnsOption → Octets
  | .clientSubnet subnet => subnet.toWire
  | .other _ data => data

def toWire (option : EdnsOption) : Octets :=
  Octets.ofNat 2 option.code ++ Octets.ofNat 2 option.data.length ++ option.data

end EdnsOption

private def paramToWire (param : Nat × Octets) : Octets :=
  Octets.ofNat 2 param.1 ++ Octets.ofNat 2 param.2.length ++ param.2

/-- The octets of record data at a position. The targets of services and the replacements of naming
pointers are written in full, and targets of services in lower case. -/
def RecordData.toWire? (position : Nat) (written : Written) :
    RecordData → Option (Octets × Written)
  | .octets data => some (data, written)
  | .name target => target.toWire? true position written
  | .authority primary mailbox numbers => do
    let (first, written) ← primary.toWire? true position written
    let (second, written) ← mailbox.toWire? true (position + first.length) written
    return (first ++ second ++ numbers, written)
  | .mailExchange preference exchange => do
    let (target, written) ← exchange.toWire? true (position + preference.length) written
    return (preference ++ target, written)
  | .service fields target => do
    let (target, written) ← target.lower.toWire? false (position + fields.length) written
    return (fields ++ target, written)
  | .namingPointer fields replacement => do
    let (target, written) ← replacement.toWire? false (position + fields.length) written
    return (fields ++ target, written)
  | .binding priority target params => do
    let (target, written) ← target.toWire? true (position + 2) written
    return (Octets.ofNat 2 priority ++ target ++ (params.map paramToWire).flatten, written)
  | .options list => some ((list.map EdnsOption.toWire).flatten, written)

/-! ## Records and messages -/

def Question.toWire? (position : Nat) (written : Written) (question : Question) :
    Option (Octets × Written) := do
  let (name, written) ← question.name.toWire? true position written
  let octets := name ++ Octets.ofNat 2 question.type ++ Octets.ofNat 2 question.class_
  if position + octets.length ≤ maxMessageLength then some (octets, written) else none

def Record.toWire? (position : Nat) (written : Written) (record : Record) :
    Option (Octets × Written) := do
  let (name, written) ← record.name.toWire? true position written
  let (data, written) ← record.data.toWire? (position + name.length + 10) written
  let octets := name ++ Octets.ofNat 2 record.type ++ Octets.ofNat 2 record.class_
    ++ Octets.ofNat 4 record.ttl ++ Octets.ofNat 2 data.length ++ data
  if position + octets.length ≤ maxMessageLength then some (octets, written) else none

structure Output where
  octets : Octets
  position : Nat
  written : Written

private def writeQuestions (position : Nat) (written : Written) : List Question → Option Output
  | [] => some ⟨[], position, written⟩
  | question :: rest => do
    let (octets, written) ← question.toWire? position written
    let more ← writeQuestions (position + octets.length) written rest
    return { more with octets := octets ++ more.octets }

/-- Writes the records of a section up to the first one that does not fit, and says how many. -/
private def writeRecords (position : Nat) (written : Written) : List Record → Output × Nat
  | [] => (⟨[], position, written⟩, 0)
  | record :: rest =>
    match record.toWire? position written with
    | none => (⟨[], position, written⟩, 0)
    | some (octets, written) =>
      let (more, count) := writeRecords (position + octets.length) written rest
      ({ more with octets := octets ++ more.octets }, count + 1)

/-- What is written ends where its position says, inside the largest message. -/
private structure Output.EndsAfter (position : Nat) (output : Output) : Prop where
  position_eq : output.position = position + output.octets.length
  position_le : position ≤ maxMessageLength → output.position ≤ maxMessageLength

private theorem Output.EndsAfter.append {position : Nat} {octets : Octets} {more : Output}
    (fits : position + octets.length ≤ maxMessageLength)
    (h : more.EndsAfter (position + octets.length)) :
    Output.EndsAfter position { more with octets := octets ++ more.octets } where
  position_eq := by simp only [h.position_eq, List.length_append, Nat.add_assoc]
  position_le := fun _ => h.position_le fits

private theorem Question.fits_of_toWire? {position : Nat} {written written' : Written}
    {question : Question} {octets : Octets}
    (h : question.toWire? position written = some (octets, written')) :
    position + octets.length ≤ maxMessageLength := by
  simp only [toWire?, Option.bind_eq_bind, Option.bind_eq_some_iff] at h
  obtain ⟨_, -, h⟩ := h
  split at h
  next fits =>
    obtain ⟨rfl, -⟩ := Prod.mk.inj (Option.some.inj h)
    exact fits
  next => cases h

private theorem Record.fits_of_toWire? {position : Nat} {written written' : Written}
    {record : Record} {octets : Octets}
    (h : record.toWire? position written = some (octets, written')) :
    position + octets.length ≤ maxMessageLength := by
  simp only [toWire?, Option.bind_eq_bind, Option.bind_eq_some_iff] at h
  obtain ⟨_, -, _, -, h⟩ := h
  split at h
  next fits =>
    obtain ⟨rfl, -⟩ := Prod.mk.inj (Option.some.inj h)
    exact fits
  next => cases h

private theorem writeQuestions_endsAfter {position : Nat} {written : Written}
    {questions : List Question} {output : Output}
    (h : writeQuestions position written questions = some output) :
    output.EndsAfter position := by
  induction questions generalizing position written output with
  | nil =>
    obtain rfl := Option.some.inj h
    exact ⟨rfl, id⟩
  | cons question rest ih =>
    simp only [writeQuestions, Option.bind_eq_bind, Option.bind_eq_some_iff, Option.pure_def,
      Option.some.injEq] at h
    obtain ⟨⟨octets, written'⟩, first, more, later, rfl⟩ := h
    exact .append (Question.fits_of_toWire? first) (ih later)

private theorem writeRecords_endsAfter (position : Nat) (written : Written)
    (records : List Record) : (writeRecords position written records).1.EndsAfter position := by
  induction records generalizing position written with
  | nil => exact ⟨rfl, id⟩
  | cons record rest ih =>
    unfold writeRecords
    split
    next => exact ⟨rfl, id⟩
    next octets written' first => exact .append (Record.fits_of_toWire? first) (ih _ _)

/-- The record that carries EDNS in a message with a response code. -/
def Edns.toRecord (edns : Edns) (responseCode : Nat) : Record where
  name := Name.root
  type := RecordType.edns
  class_ := edns.maxPayload
  ttl := (responseCode / 16 % 256) * 0x1000000 + edns.version * 0x10000 + edns.flags
  data := .options edns.options

private def flag (place : Nat) (value : Bool) : Nat := if value then 1 <<< place else 0

def Header.flags (header : Header) : Nat :=
  flag 15 header.isResponse + header.opcode % 16 * 0x800 + flag 10 header.authoritative
    + flag 9 header.truncated + flag 8 header.recursionDesired + flag 7 header.recursionAvailable
    + flag 5 header.authenticData + flag 4 header.checkingDisabled + header.responseCode % 16

def Header.length : Nat := 12

namespace Message

def toWire? (message : Message) : Option Octets := do
  let questions ← writeQuestions Header.length [] message.questions
  let (answers, answerCount) :=
    writeRecords questions.position questions.written message.answers
  let (authorities, authorityCount) :=
    writeRecords answers.position answers.written message.authorities
  let (additionals, additionalCount) :=
    writeRecords authorities.position authorities.written message.additionals
  let ednsRecords := (message.edns.map (·.toRecord message.header.responseCode)).toList
  let (edns, ednsCount) := writeRecords additionals.position additionals.written ednsRecords
  let complete := answerCount = message.answers.length
    && authorityCount = message.authorities.length
    && additionalCount = message.additionals.length && ednsCount = ednsRecords.length
  let header := { message.header with truncated := message.header.truncated || !complete }
  let fields := [header.id, header.flags, message.questions.length, answerCount, authorityCount,
    additionalCount + ednsCount]
  return (fields.map (Octets.ofNat 2)).flatten ++ questions.octets ++ answers.octets
    ++ authorities.octets ++ additionals.octets ++ edns.octets

/-- A message that can be written fits the largest message. -/
theorem length_toWire?_le {message : Message} {wire : Octets} (h : message.toWire? = some wire) :
    wire.length ≤ maxMessageLength := by
  simp only [toWire?, Option.bind_eq_bind, Option.bind_eq_some_iff, Option.pure_def,
    Option.some.injEq] at h
  obtain ⟨questions, asked, rfl⟩ := h
  have questions_end := writeQuestions_endsAfter asked
  have answers_end :=
    writeRecords_endsAfter questions.position questions.written message.answers
  generalize writeRecords questions.position questions.written message.answers = answers
    at answers_end ⊢
  have authorities_end :=
    writeRecords_endsAfter answers.1.position answers.1.written message.authorities
  generalize writeRecords answers.1.position answers.1.written message.authorities = authorities
    at authorities_end ⊢
  have additionals_end :=
    writeRecords_endsAfter authorities.1.position authorities.1.written message.additionals
  generalize writeRecords authorities.1.position authorities.1.written message.additionals =
    additionals at additionals_end ⊢
  generalize (message.edns.map (·.toRecord message.header.responseCode)).toList = ednsRecords
  have edns_end :=
    writeRecords_endsAfter additionals.1.position additionals.1.written ednsRecords
  generalize writeRecords additionals.1.position additionals.1.written ednsRecords = edns
    at edns_end ⊢
  have below : edns.1.position ≤ maxMessageLength :=
    edns_end.position_le <| additionals_end.position_le <| authorities_end.position_le <|
      answers_end.position_le <| questions_end.position_le (by decide)
  rw [edns_end.position_eq, additionals_end.position_eq, authorities_end.position_eq,
    answers_end.position_eq, questions_end.position_eq, Header.length] at below
  simp only [List.length_append, List.map_cons, List.map_nil, List.flatten_cons, List.flatten_nil,
    List.length_nil, Octets.length_ofNat]
  omega

/-- A message with one question can be written if the name that is asked for fits. -/
theorem isSome_toWire? {message : Message} {question : Question}
    (one : message.questions = [question]) (fits : Name.fits question.name.labels = true) :
    message.toWire?.isSome = true := by
  have room : Header.length + Name.maxWireLength ≤ maxMessageLength := by decide
  obtain ⟨name, later, name_eq, short⟩ := Name.exists_toWire? fits room []
  have inside : Header.length +
      (name ++ Octets.ofNat 2 question.type ++ Octets.ofNat 2 question.class_).length ≤
        maxMessageLength := by
    rw [Name.maxWireLength] at short
    rw [List.length_append, List.length_append, Octets.length_ofNat, Octets.length_ofNat,
      Header.length, maxMessageLength]
    omega
  have asked : (writeQuestions Header.length [] message.questions).isSome = true := by
    rw [one, writeQuestions, Question.toWire?, name_eq]
    simp only [Option.bind_eq_bind, Option.bind_some, if_pos inside]
    rfl
  obtain ⟨questions, asked⟩ := Option.isSome_iff_exists.mp asked
  simp only [toWire?, asked, Option.bind_eq_bind, Option.bind_some]
  rfl

end Message

end Tollgate.Dns
