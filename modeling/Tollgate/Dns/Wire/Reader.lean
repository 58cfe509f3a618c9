import Tollgate.Dns.Message

/-!
# Reading DNS messages

`Message.ofWire?` reads a message off the wire. A name may end in a pointer to a name that stands
before it, so names are read with the whole message at hand; every pointer leads further back, and a
name that is pointed at ends before the name that points. Octets behind the last record are ignored.
-/

namespace Tollgate.Dns

/-- A place in a message and the octets from there on. -/
structure Cursor where
  position : Nat
  rest : Octets
  deriving Repr

/-- A reader takes its value off a cursor, or refuses. -/
abbrev Reader := StateT Cursor Option

namespace Reader

def take (count : Nat) : Reader Octets := fun cursor =>
  (cursor.rest.take? count).map fun (front, rest) => (front, ⟨cursor.position + count, rest⟩)

def number (width : Nat) : Reader Nat := Octets.toNat <$> take width

/-- A length octet and as many octets. -/
def counted : Reader Octets := do take (← number 1)

def remaining : Reader Octets := fun cursor =>
  some (cursor.rest, ⟨cursor.position + cursor.rest.length, []⟩)

/-- Goes on only under a condition. -/
def guard (condition : Bool) : Reader Unit := if condition then pure () else fun _ => none

/-- Reads until nothing is left. Each reading has to take something. -/
def untilEnd {α : Type} (reader : Reader α) : Reader (List α) := fun cursor =>
  match cursor.rest with
  | [] => some ([], cursor)
  | _ :: _ =>
    match reader cursor with
    | none => none
    | some (value, next) =>
      if next.rest.length < cursor.rest.length then
        (untilEnd reader next).map fun (values, last) => (value :: values, last)
      else none
termination_by cursor => cursor.rest.length

def times {α : Type} (reader : Reader α) : Nat → Reader (List α)
  | 0 => pure []
  | count + 1 => do
    let value ← reader
    return value :: (← times reader count)

end Reader

/-! ## Names -/

inductive LabelsEnd where
  | root
  /-- The name goes on at an earlier position. -/
  | pointer (target : Nat)

/-- Reads labels in one place. No label, end or pointer may start at `limit` or behind it. -/
def readLabels (limit : Nat) (cursor : Cursor) : Option (List Label × LabelsEnd × Cursor) :=
  match h : cursor.rest with
  | [] => none
  | first :: rest =>
    if limit ≤ cursor.position then none
    else if first = 0 then some ([], .root, ⟨cursor.position + 1, rest⟩)
    else if first < 0x40 then
      match taken : Octets.take? first.toNat rest with
      | none => none
      | some (label, rest') =>
        have : rest'.length < cursor.rest.length := by
          have := Octets.length_of_take? taken
          simp only at this
          rw [h, List.length_cons]
          omega
        (readLabels limit ⟨cursor.position + 1 + first.toNat, rest'⟩).map
          fun (labels, ending, after) => (label :: labels, ending, after)
    else if 0xC0 ≤ first then
      match rest with
      | [] => none
      | low :: rest =>
        some ([], .pointer ((first.toNat - 0xC0) * 256 + low.toNat), ⟨cursor.position + 2, rest⟩)
    else none
termination_by cursor.rest.length

/-- Reads the labels of a name, following pointers. -/
def nameLabels (message : Octets) (limit : Nat) (cursor : Cursor) : Option (List Label × Cursor) :=
  match readLabels limit cursor with
  | none => none
  | some (labels, .root, after) => some (labels, after)
  | some (labels, .pointer target, after) =>
    if _h : target < cursor.position then
      (nameLabels message cursor.position ⟨target, message.drop target⟩).map
        fun (more, _) => (labels ++ more, after)
    else none
termination_by cursor.position

namespace Reader

def name (message : Octets) : Reader Name := fun cursor => do
  let (labels, after) ← nameLabels message (cursor.position + cursor.rest.length) cursor
  if Name.fits labels then some (⟨labels, true⟩, after) else none

end Reader

/-! ## EDNS options -/

/-- How many octets hold a number of address bits. -/
def addressOctets (bits : Nat) : Nat := (bits + 7) / 8

/-- An address of a width from its first octets; the others are zero. -/
private def addressOf (width : Nat) (front : Octets) : Nat :=
  Octets.toNat (front ++ List.replicate (width - front.length) 0)

namespace ClientSubnet

/-- Reads the data of a client subnet option. Octets behind the address are ignored. -/
def ofWire? (data : Octets) : Option ClientSubnet := do
  let (front, rest) ← data.take? 4
  let family := Octets.toNat (front.take 2)
  let sourceBits := (front.getD 2 0).toNat
  let scopeBits := (front.getD 3 0).toNat
  let (address, _) ← rest.take? (addressOctets sourceBits)
  match family with
  | 1 =>
    if address.length ≤ 4 then
      some ⟨.v4 (BitVec.ofNat 32 (addressOf 4 address)), sourceBits, scopeBits⟩
    else none
  | 2 =>
    if address.length ≤ 16 then
      some ⟨.v6 (BitVec.ofNat 128 (addressOf 16 address)), sourceBits, scopeBits⟩
    else none
  | _ => none

end ClientSubnet

namespace EdnsOption

def ofWire? (code : Nat) (data : Octets) : Option EdnsOption :=
  if code = OptionCode.clientSubnet then (ClientSubnet.ofWire? data).map .clientSubnet
  else some (.other code data)

private theorem length_drop_lt (count : Nat) (c d e f : UInt8) (rest : Octets) :
    (rest.drop count).length < (c :: d :: e :: f :: rest).length := by
  simp only [List.length_drop, List.length_cons]
  omega

/-- Reads options off record data of a `total` length; `some none` if the last one is cut off behind
its code or inside its data. Data that ends inside a code or a length is refused, and so is an
option that claims to be longer than the record. -/
private def readAll (total : Nat) (data : Octets) : Option (Option (List EdnsOption)) :=
  match data with
  | [] => some (some [])
  | [_, _] => some none
  | c :: d :: e :: f :: rest =>
    let length := e.toNat * 256 + f.toNat
    have := length_drop_lt length c d e f rest
    if total < length then none
    else if rest.length < length then some none
    else do
      let option ← ofWire? (c.toNat * 256 + d.toNat) (rest.take length)
      let more ← readAll total (rest.drop length)
      return more.map (option :: ·)
  | _ => none
termination_by data.length
decreasing_by assumption

/-- The options of an EDNS record. All are dropped if the last one is cut off. -/
def listOfWire? (data : Octets) : Option (List EdnsOption) :=
  (readAll data.length data).map (·.getD [])

end EdnsOption

/-! ## Record data -/

private def isAlphanumeric (byte : UInt8) : Bool :=
  byte < 0x80 && (Char.ofNat byte.toNat).isAlphanum

/-- Data of a type that is taken as it is, if `accept` takes it. -/
private def asIs (accept : Octets → Bool) : Reader RecordData := do
  let data ← Reader.remaining
  Reader.guard (accept data)
  return .octets data

/-- Whether the octets are counted strings one after the other. -/
private def areCounted : Octets → Bool
  | [] => true
  | length :: rest =>
    match taken : Octets.take? length.toNat rest with
    | none => false
    | some (_, rest') =>
      have : rest'.length < (length :: rest).length := by
        have := Octets.length_of_take? taken
        simp only at this
        rw [List.length_cons]
        omega
      areCounted rest'
termination_by data => data.length
decreasing_by assumption

/-- The counted strings at the front of record data, with their lengths. -/
private def countedRaw : Reader Octets := do
  let data ← Reader.counted
  return data.length.toUInt8 :: data

private def isPropertyTag (data : Octets) : Bool :=
  match data with
  | _ :: length :: rest =>
    1 ≤ length && length ≤ 15 && length.toNat ≤ rest.length
      && (rest.take length.toNat).all isAlphanumeric
  | _ => false

/-- Whether the blocks of a type bitmap are well-formed: a window, a length that is not zero, and
octets of which those from the 33rd on have no bit set. The last block may be cut off. -/
private def isTypeBitmap (data : Octets) : Bool :=
  match data with
  | [] => true
  | [_] => true
  | [_, _] => true
  | _ :: length :: bits :: rest =>
    length ≠ 0 && (((bits :: rest).take length.toNat).drop 32).all (· = 0)
      && isTypeBitmap ((bits :: rest).drop (max 1 length.toNat))
termination_by data.length
decreasing_by simp_wf; omega

private def isChildSync (data : Octets) : Bool :=
  6 ≤ data.length && data.getD 5 0 &&& 0xFC = 0 && isTypeBitmap (data.drop 6)

private def protocolNames : Reader (List Octets) := Reader.untilEnd Reader.counted

/-- The value of a service parameter as it will be written, if it is well-formed. -/
private def paramValue? (key : Nat) (value : Octets) : Option Octets :=
  if key = ServiceKey.mandatory then
    if value ≠ [] ∧ value.length % 2 = 0 then some value else none
  else if key = ServiceKey.protocols then
    match protocolNames ⟨0, value⟩ with
    | some (names, _) => if names ≠ [] ∧ names.all (·.text?.isSome) then some value else none
    | none => none
  else if key = ServiceKey.noDefaultProtocol then if value = [] then some value else none
  else if key = ServiceKey.port then (value.take? 2).map (·.1)
  else if key = ServiceKey.ipv4Hint then if value.length % 4 = 0 then some value else none
  else if key = ServiceKey.ipv6Hint then if value.length % 16 = 0 then some value else none
  else some value

private def param : Reader (Nat × Octets) := do
  let key ← Reader.number 2
  let length ← Reader.number 2
  let value ← Reader.take length
  match paramValue? key value with
  | some value => return (key, value)
  | none => fun _ => none

private def ascending : List (Nat × Octets) → Bool
  | a :: b :: rest => a.1 < b.1 && ascending (b :: rest)
  | _ => true

/-- Reads record data of a type. What is left behind it is for the caller to refuse. -/
private def readData (message : Octets) (type : Nat) : Reader RecordData :=
  open RecordType in
  if type = a then asIs (·.length = 4)
  else if type = aaaa then asIs (·.length = 16)
  else if type = nameServer ∨ type = canonicalName ∨ type = pointer ∨ type = apexAlias then
    .name <$> Reader.name message
  else if type = startOfAuthority then do
    let primary ← Reader.name message
    let mailbox ← Reader.name message
    return .authority primary mailbox (← Reader.take 20)
  else if type = mailExchange then do
    let preference ← Reader.take 2
    return .mailExchange preference (← Reader.name message)
  else if type = text then asIs areCounted
  else if type = hostInfo then do
    let cpu ← countedRaw
    return .octets (cpu ++ (← countedRaw))
  else if type = service then do
    let fields ← Reader.take 6
    return .service fields (← Reader.name message)
  else if type = namingPointer then do
    let order ← Reader.take 4
    let flags ← countedRaw
    Reader.guard (flags.drop 1 |>.all isAlphanumeric)
    let services ← countedRaw
    let pattern ← countedRaw
    return .namingPointer (order ++ flags ++ services ++ pattern) (← Reader.name message)
  else if type = authorityAuthorization then asIs isPropertyTag
  else if type = sshFingerprint then asIs (2 ≤ ·.length)
  else if type = tlsAssociation then asIs (3 ≤ ·.length)
  else if type = certificate then asIs (5 < ·.length)
  else if type = childSync then asIs isChildSync
  else if type = serviceBinding ∨ type = httpsBinding then do
    let priority ← Reader.number 2
    let target ← Reader.name message
    let params ← Reader.untilEnd param
    Reader.guard (ascending params)
    return .binding priority target params
  else if type = edns then do
    let data ← Reader.remaining
    match EdnsOption.listOfWire? data with
    | some options => return .options options
    | none => fun _ => none
  else if type = 0 ∨ type = incrementalTransfer ∨ type = transfer ∨ type = any then fun _ => none
  else asIs fun _ => true

/-- Record data without octets is allowed for every type. -/
private def recordData? (message : Octets) (type position : Nat) (data : Octets) :
    Option RecordData :=
  if data = [] then some (.octets [])
  else
    match readData message type ⟨position, data⟩ with
    | some (value, ⟨_, []⟩) => some value
    | _ => none

/-! ## Messages -/

namespace Reader

def question (message : Octets) : Reader Question := do
  let name ← name message
  let type ← number 2
  return ⟨name, type, ← number 2⟩

def record (message : Octets) : Reader Record := do
  let name ← name message
  let type ← number 2
  let isEdns := type = RecordType.edns
  guard (!isEdns || name.isRoot)
  let class_ ← number 2
  let ttl ← number 4
  let length ← number 2
  let position := (← get).position
  let data ← take length
  match recordData? message type position data with
  | some value =>
    return ⟨name, type, if isEdns then max Edns.leastPayload class_ else class_, ttl, value⟩
  | none => fun _ => none

end Reader

namespace Edns

/-- The EDNS record that a record of its type stands for. -/
def ofRecord (record : Record) : Edns where
  maxPayload := record.class_
  version := record.ttl / 0x10000 % 0x100
  flags := record.ttl % 0x10000
  options :=
    match record.data with
    | .options options => options
    | _ => []

/-- The high bits of the response code that a record of this type carries. -/
def responseCodeHigh (record : Record) : Nat := record.ttl / 0x1000000

end Edns

private def bit (place flags : Nat) : Bool := flags.testBit place

def Header.ofFlags (id flags : Nat) : Header where
  id
  isResponse := bit 15 flags
  opcode := flags / 0x800 % 16
  authoritative := bit 10 flags
  truncated := bit 9 flags
  recursionDesired := bit 8 flags
  recursionAvailable := bit 7 flags
  authenticData := bit 5 flags
  checkingDisabled := bit 4 flags
  responseCode := flags % 16

namespace Message

private def reader (message : Octets) : Reader Message := do
  let id ← Reader.number 2
  let flags ← Reader.number 2
  let questionCount ← Reader.number 2
  let answerCount ← Reader.number 2
  let authorityCount ← Reader.number 2
  let additionalCount ← Reader.number 2
  let questions ← Reader.times (Reader.question message) questionCount
  let answers ← Reader.times (Reader.record message) answerCount
  let authorities ← Reader.times (Reader.record message) authorityCount
  let more ← Reader.times (Reader.record message) additionalCount
  let (ednsRecords, additionals) := more.partition (·.type = RecordType.edns)
  Reader.guard (ednsRecords.length ≤ 1)
  let header := Header.ofFlags id flags
  let high := (ednsRecords.head?.map Edns.responseCodeHigh).getD 0
  return {
    header := { header with responseCode := high * 16 + header.responseCode }
    questions, answers, authorities, additionals
    edns := ednsRecords.head?.map Edns.ofRecord }

def ofWire? (octets : Octets) : Option Message := (reader octets ⟨0, octets⟩).map (·.1)

end Message

/-! ## Questions off the wire -/

/-- A name as it is read: it ends at the root, fits the wire and has no empty labels. -/
structure Name.IsRead (name : Name) : Prop where
  absolute : name.absolute = true
  fits : Name.fits name.labels = true
  nonempty : ∀ label ∈ name.labels, label ≠ []

theorem nonempty_of_readLabels {limit : Nat} {cursor after : Cursor} {labels : List Label}
    {ending : LabelsEnd} (read : readLabels limit cursor = some (labels, ending, after)) :
    ∀ label ∈ labels, label ≠ [] := by
  fun_induction readLabels limit cursor generalizing labels ending after with
  | case1 | case2 | case4 | case6 | case8 => cases read
  | case3 | case7 =>
    obtain ⟨rfl, -⟩ := Prod.mk.inj (Option.some.inj read)
    exact List.forall_mem_nil _
  | case5 _ first rest _ _ notZero _ label rest' taken _ ih =>
    obtain ⟨⟨more, moreEnding, last⟩, later, parts⟩ := Option.map_eq_some_iff.mp read
    obtain ⟨rfl, -⟩ := Prod.mk.inj parts
    refine List.forall_mem_cons.mpr ⟨?_, ih later⟩
    have length_eq := (Octets.take?_eq_some taken).1
    rintro rfl
    exact notZero (UInt8.toNat_inj.mp length_eq.symm)

theorem nonempty_of_nameLabels {message : Octets} {limit : Nat} {cursor after : Cursor}
    {labels : List Label} (read : nameLabels message limit cursor = some (labels, after)) :
    ∀ label ∈ labels, label ≠ [] := by
  fun_induction nameLabels message limit cursor generalizing labels after with
  | case1 | case4 => cases read
  | case2 _ _ here _ first =>
    obtain ⟨rfl, -⟩ := Prod.mk.inj (Option.some.inj read)
    exact nonempty_of_readLabels first
  | case3 _ _ here _ _ first _ ih =>
    obtain ⟨⟨more, last⟩, later, parts⟩ := Option.map_eq_some_iff.mp read
    obtain ⟨rfl, -⟩ := Prod.mk.inj parts
    exact List.forall_mem_append.mpr ⟨nonempty_of_readLabels first, ih later⟩

namespace Reader

variable {α β : Type} {P : α → Prop} {Q : β → Prop} {reader : Reader α} {next : α → Reader β}
variable {value : α} {message : Octets}

/-- Whatever a reader takes has a property. -/
def Takes (P : α → Prop) (reader : Reader α) : Prop :=
  ∀ cursor value after, reader cursor = some (value, after) → P value

theorem Takes.pure (holds : P value) : Takes P (Pure.pure value) := by
  intro cursor taken after takes
  obtain ⟨rfl, -⟩ := Prod.mk.inj (Option.some.inj takes)
  exact holds

theorem Takes.bind (first : Takes P reader) (rest : ∀ value, P value → Takes Q (next value)) :
    Takes Q (reader >>= next) := by
  intro cursor taken after takes
  obtain ⟨⟨value, between⟩, read, takes⟩ := Option.bind_eq_some_iff.mp takes
  exact rest value (first cursor value between read) between taken after takes

theorem Takes.seq (rest : ∀ value, Takes Q (next value)) : Takes Q (reader >>= next) :=
  Takes.bind (P := fun _ => True) (fun _ _ _ _ => trivial) fun value _ => rest value

theorem Takes.times (each : Takes P reader) (count : Nat) :
    Takes (fun values => ∀ value ∈ values, P value) (times reader count) := by
  induction count with
  | zero => exact .pure (List.forall_mem_nil P)
  | succ count ih =>
    refine each.bind fun value holds => ih.bind fun values all => .pure ?_
    exact List.forall_mem_cons.mpr ⟨holds, all⟩

theorem takes_name (message : Octets) : Takes Name.IsRead (name message) := by
  intro cursor taken after takes
  obtain ⟨⟨labels, between⟩, read, takes⟩ := Option.bind_eq_some_iff.mp takes
  obtain ⟨fits, taken_eq⟩ := Option.ite_none_right_eq_some.mp takes
  obtain ⟨rfl, -⟩ := Prod.mk.inj (Option.some.inj taken_eq)
  exact ⟨rfl, fits, nonempty_of_nameLabels read⟩

theorem takes_question (message : Octets) :
    Takes (fun question => question.name.IsRead) (question message) :=
  (takes_name message).bind fun _ isRead => .seq fun _ => .seq fun _ => .pure isRead

end Reader

namespace Message

private theorem takes_reader (octets : Octets) :
    Reader.Takes (fun message => ∀ question ∈ message.questions, question.name.IsRead)
      (reader octets) := by
  unfold reader
  refine .seq fun id => .seq fun flags => .seq fun questionCount => .seq fun answerCount =>
    .seq fun authorityCount => .seq fun additionalCount => ?_
  refine ((Reader.takes_question octets).times questionCount).bind fun questions allRead => ?_
  refine .seq fun answers => .seq fun authorities => .seq fun more => ?_
  dsimp only
  exact .seq fun _ => .pure allRead

/-- The names that a message asks for are as names are read. -/
theorem isRead_of_ofWire? {octets : Octets} {message : Message}
    (read : ofWire? octets = some message) :
    ∀ question ∈ message.questions, question.name.IsRead := by
  obtain ⟨⟨_, after⟩, taken, rfl⟩ := Option.map_eq_some_iff.mp read
  exact takes_reader octets _ _ _ taken

end Message

end Tollgate.Dns
