import Tollgate.Dns.ClientSubnet
import Tollgate.Dns.Wire.Reader
import Tollgate.Proofs.Net.Network

/-!
# What a forwarded query tells of its client

A query is forwarded with a network instead of an address: the one that the query names itself, or
else the one that its client is in. So clients of one network cannot be told apart, and of a query
that names a network first no clients can. Only the first client subnet of a query counts. Where
that one says nothing, the client's network takes the place of all of them, usable or not.
-/

namespace Tollgate.Dns

open Address (Agree IsV4 IsV6)

variable {client other : Address} {edns : Edns} {message : Message} {subnet : ClientSubnet}

/-- The clients are in one network, as far as networks are passed on. -/
inductive SameNetwork : Address → Address → Prop where
  | v4 {client other : Address} {bits otherBits : BitVec 32} (isV4 : client.IsV4 bits)
      (otherIsV4 : other.IsV4 otherBits) (agree : Agree 24 bits otherBits) :
      SameNetwork client other
  | v6 {client other : Address} {bits otherBits : BitVec 128} (isV6 : client.IsV6 bits)
      (otherIsV6 : other.IsV6 otherBits) (agree : Agree 48 bits otherBits) :
      SameNetwork client other

namespace ClientSubnet

/-- The option says where a client is. -/
structure IsUsable (subnet : ClientSubnet) : Prop where
  someBits : subnet.sourceBits ≠ 0
  not_anyV4 : subnet.address ≠ .v4 0
  not_anyV6 : subnet.address ≠ .v6 0

theorem isDegenerate_eq_false_iff : subnet.isDegenerate = false ↔ subnet.IsUsable := by
  obtain ⟨address, sourceBits, scopeBits⟩ := subnet
  constructor
  · intro usable
    rw [isDegenerate, Bool.or_eq_false_iff, decide_eq_false_iff_not] at usable
    refine ⟨usable.1, ?_, ?_⟩
    · rintro rfl
      cases usable.2
    · rintro rfl
      cases usable.2
  · rintro ⟨someBits, not_anyV4, not_anyV6⟩
    rw [isDegenerate, Bool.or_eq_false_iff, decide_eq_false_iff_not]
    refine ⟨someBits, ?_⟩
    cases address with
    | v4 bits => exact decide_eq_false fun zero => not_anyV4 (congrArg Address.v4 zero)
    | v6 bits => exact decide_eq_false fun zero => not_anyV6 (congrArg Address.v6 zero)

theorem ofClient_of_isV4 {bits : BitVec 32} (h : client.IsV4 bits) :
    ofClient client = ⟨.v4 (bits >>> (32 - 24) <<< (32 - 24)), 24, 0⟩ := by
  rw [ofClient, h.canonical_eq]
  rfl

theorem ofClient_of_isV6 {bits : BitVec 128} (h : client.IsV6 bits) :
    ofClient client = ⟨.v6 (bits >>> (128 - 48) <<< (128 - 48)), 48, 0⟩ := by
  rw [ofClient, h.canonical_eq]
  rfl

theorem ofClient_eq_of_sameNetwork (same : SameNetwork client other) :
    ofClient client = ofClient other := by
  cases same with
  | v4 isV4 otherIsV4 agree =>
      rw [ofClient_of_isV4 isV4, ofClient_of_isV4 otherIsV4,
        Address.cleared_eq_of_agree (by decide) agree]
  | v6 isV6 otherIsV6 agree =>
      rw [ofClient_of_isV6 isV6, ofClient_of_isV6 otherIsV6,
        Address.cleared_eq_of_agree (by decide) agree]

end ClientSubnet

def EdnsOption.subnet? : EdnsOption → Option ClientSubnet
  | .clientSubnet subnet => some subnet
  | .other .. => none

namespace Edns

theorem clientSubnet?_eq_some_iff :
    edns.clientSubnet? = some subnet ↔
      ∃ front behind, edns.options = front ++ .clientSubnet subnet :: behind ∧
        ∀ earlier, .clientSubnet earlier ∉ front := by
  rw [clientSubnet?, List.findSome?_eq_some_iff]
  constructor
  · rintro ⟨front, option, behind, split, found, nothing⟩
    cases option with
    | other code data => cases found
    | clientSubnet first =>
        obtain rfl := Option.some.inj found
        exact ⟨front, behind, split, fun earlier mem => nomatch nothing _ mem⟩
  · rintro ⟨front, behind, split, nothing⟩
    refine ⟨front, .clientSubnet subnet, behind, split, rfl, fun option mem => ?_⟩
    cases option with
    | other code data => rfl
    | clientSubnet earlier => exact absurd mem (nothing earlier)

theorem clientSubnet?_without_padding (edns : Edns) :
    (edns.without OptionCode.padding).clientSubnet? = edns.clientSubnet? := by
  rw [clientSubnet?, clientSubnet?, without]
  dsimp only
  induction edns.options with
  | nil => rfl
  | cons option options ih =>
      cases option with
      | clientSubnet subnet => rfl
      | other code data =>
          rw [List.filter_cons, List.findSome?_cons]
          split
          · rw [List.findSome?_cons]
            exact ih
          · exact ih

/-- A usable network is passed on for every client. -/
theorem forClient_of_usable (first : edns.clientSubnet? = some subnet) (usable : subnet.IsUsable)
    (client : Address) : edns.forClient client = edns.without OptionCode.padding := by
  have keeps : (some subnet).any (!·.isDegenerate) = true := by
    simp [ClientSubnet.isDegenerate_eq_false_iff.mpr usable]
  rw [forClient]
  dsimp only
  rw [clientSubnet?_without_padding, first, if_pos keeps]

/-- The client subnets of a message in which no usable one comes first are replaced by one. -/
theorem forClient_of_unusable
    (unusable : ∀ subnet, edns.clientSubnet? = some subnet → ¬ subnet.IsUsable)
    (client : Address) :
    edns.forClient client =
      { edns with
        options :=
          ((edns.without OptionCode.padding).without OptionCode.clientSubnet).options ++
            [.clientSubnet (ClientSubnet.ofClient client)] } := by
  have replaces : ¬ edns.clientSubnet?.any (!·.isDegenerate) = true := by
    rw [Option.any_eq_true]
    rintro ⟨subnet, first, usable⟩
    rw [Bool.not_eq_true'] at usable
    exact unusable subnet first (ClientSubnet.isDegenerate_eq_false_iff.mp usable)
  rw [forClient]
  dsimp only
  rw [clientSubnet?_without_padding, if_neg replaces]
  rfl

theorem subnets_forClient_of_unusable
    (unusable : ∀ subnet, edns.clientSubnet? = some subnet → ¬ subnet.IsUsable)
    (client : Address) :
    (edns.forClient client).options.filterMap (·.subnet?) = [ClientSubnet.ofClient client] := by
  have none_left : List.filterMap (·.subnet?)
      ((edns.without OptionCode.padding).without OptionCode.clientSubnet).options = [] := by
    rw [List.filterMap_eq_nil_iff]
    intro option mem
    cases option with
    | other code data => rfl
    | clientSubnet subnet =>
        exact absurd rfl (of_decide_eq_true (List.mem_filter.mp mem).2)
  rw [forClient_of_unusable unusable]
  dsimp only
  rw [List.filterMap_append, none_left]
  rfl

end Edns

namespace Message

def options (message : Message) : List EdnsOption := (message.edns.map (·.options)).getD []

/-- The first client subnet of a message says where a client is. -/
inductive NamesNetwork (message : Message) : Prop where
  | intro (front behind : List EdnsOption) (subnet : ClientSubnet)
      (split : message.options = front ++ .clientSubnet subnet :: behind)
      (first : ∀ earlier, .clientSubnet earlier ∉ front) (usable : subnet.IsUsable)

theorem options_eq (message : Message) :
    message.options = (message.edns.getD Edns.default).options := by
  unfold options
  cases message.edns with
  | none => rfl
  | some edns => rfl

theorem namesNetwork_iff :
    message.NamesNetwork ↔
      ∃ subnet, (message.edns.getD Edns.default).clientSubnet? = some subnet ∧
        subnet.IsUsable := by
  constructor
  · rintro ⟨front, behind, subnet, split, first, usable⟩
    rw [options_eq] at split
    exact ⟨subnet, Edns.clientSubnet?_eq_some_iff.mpr ⟨front, behind, split, first⟩, usable⟩
  · rintro ⟨subnet, found, usable⟩
    obtain ⟨front, behind, split, first⟩ := Edns.clientSubnet?_eq_some_iff.mp found
    rw [← options_eq] at split
    exact ⟨front, behind, subnet, split, first, usable⟩

theorem forClient_of_namesNetwork (names : message.NamesNetwork) (client other : Address) :
    message.forClient client = message.forClient other := by
  obtain ⟨subnet, first, usable⟩ := namesNetwork_iff.mp names
  rw [forClient, forClient, Edns.forClient_of_usable first usable client,
    Edns.forClient_of_usable first usable other]

/-- A message that names no network first is forwarded with that of its client alone. -/
theorem subnets_forClient (unnamed : ¬ message.NamesNetwork) (client : Address) :
    (message.forClient client).options.filterMap (·.subnet?) =
      [ClientSubnet.ofClient client] := by
  refine Edns.subnets_forClient_of_unusable (fun subnet first usable => unnamed ?_) client
  exact namesNetwork_iff.mpr ⟨subnet, first, usable⟩

/-- A message is forwarded in one way for all clients of a network, and in one way for all clients
at all exactly if its first client subnet is a usable one. Otherwise the network of the client is
the only client subnet that it is forwarded with. This network is the first 24 bits of an IPv4
address, which may stand in an IPv6 address, or the first 48 bits of another IPv6 address, with
zeros for all bits behind them, and scope zero. -/
theorem forwarded_shows_network_only (message : Message) :
    (∀ client other, SameNetwork client other →
        message.forClient client = message.forClient other) ∧
      ((∀ client other, message.forClient client = message.forClient other) ↔
        message.NamesNetwork) ∧
      (¬ message.NamesNetwork → ∀ client,
        (message.forClient client).options.filterMap (·.subnet?) =
          [ClientSubnet.ofClient client]) ∧
      (∀ client bits, client.IsV4 bits → ∃ network : BitVec 32,
        ClientSubnet.ofClient client = ⟨.v4 network, 24, 0⟩ ∧ (Address.v4 network).family = 1 ∧
          ∀ place, network.getMsbD place = (decide (place < 24) && bits.getMsbD place)) ∧
      ∀ client bits, client.IsV6 bits → ∃ network : BitVec 128,
        ClientSubnet.ofClient client = ⟨.v6 network, 48, 0⟩ ∧ (Address.v6 network).family = 2 ∧
          ∀ place, network.getMsbD place = (decide (place < 48) && bits.getMsbD place) := by
  refine ⟨?_, ⟨?_, ?_⟩, subnets_forClient, ?_, ?_⟩
  · intro client other same
    rw [forClient, forClient, Edns.forClient, Edns.forClient,
      ClientSubnet.ofClient_eq_of_sameNetwork same]
  · intro alike
    by_contra unnamed
    -- Clients of the two families are never in one network.
    have shown := subnets_forClient unnamed (.v4 0)
    rw [alike (.v4 0) (.v6 0), subnets_forClient unnamed] at shown
    exact absurd shown (by decide)
  · exact forClient_of_namesNetwork
  · intro client bits isV4
    exact ⟨_, ClientSubnet.ofClient_of_isV4 isV4, rfl,
      Address.getMsbD_cleared bits (by decide)⟩
  · intro client bits isV6
    exact ⟨_, ClientSubnet.ofClient_of_isV6 isV6, rfl,
      Address.getMsbD_cleared bits (by decide)⟩

def naming (subnets : List ClientSubnet) : Message where
  header := ⟨0x1234, false, 0, false, false, true, false, false, false, 0⟩
  questions := []
  answers := []
  authorities := []
  additionals := []
  edns := some ⟨1232, 0, 0, subnets.map .clientSubnet⟩

/-- Two hosts of 192.0.2.0/24, one of them behind an IPv6 address, are forwarded alike. A host of
another network is so only for a message that names a network. -/
theorem neighbours_forwarded_alike :
    SameNetwork (.v4 0xC000024D) (.v6 0xFFFFC00002C8) ∧
      (naming []).forClient (.v4 0xC000024D) = (naming []).forClient (.v6 0xFFFFC00002C8) ∧
      (naming [⟨.v4 0x01020300, 24, 0⟩]).forClient (.v4 0xC000024D) =
        (naming [⟨.v4 0x01020300, 24, 0⟩]).forClient (.v6 0xFFFFC6336409) := by
  have agree : Agree 24 (0xC000024D : BitVec 32) (0xC00002C8 : BitVec 32) := by
    intro place
    revert place
    decide
  have same : SameNetwork (.v4 0xC000024D) (.v6 0xFFFFC00002C8) :=
    .v4 (.itself _) (.inside 0xC00002C8) agree
  have names : (naming [⟨.v4 0x01020300, 24, 0⟩]).NamesNetwork :=
    .intro [] [] _ rfl (fun _ => List.not_mem_nil) ⟨by decide, by decide, by decide⟩
  exact ⟨same, (forwarded_shows_network_only _).1 _ _ same,
    (forwarded_shows_network_only _).2.1.mpr names _ _⟩

/-- A query that names a network, but behind a client subnet without any bits. -/
def namingSecond : Octets :=
  [0x12, 0x34, 1, 0, 0, 0, 0, 0, 0, 0, 0, 1, 0, 0, 0x29, 4, 0xD0, 0, 0, 0, 0, 0, 0x13,
    0, 8, 0, 4, 0, 1, 0, 0, 0, 8, 0, 7, 0, 1, 0x18, 0, 1, 2, 3]

/-- It carries a usable client subnet, but is not forwarded alike for two clients. -/
theorem second_network_not_kept :
    Message.ofWire? namingSecond = some (naming [⟨.v4 0, 0, 0⟩, ⟨.v4 0x01020300, 24, 0⟩]) ∧
      (∃ subnet, .clientSubnet subnet ∈ (naming [⟨.v4 0, 0, 0⟩, ⟨.v4 0x01020300, 24, 0⟩]).options ∧
        subnet.IsUsable) ∧
      (naming [⟨.v4 0, 0, 0⟩, ⟨.v4 0x01020300, 24, 0⟩]).forClient (.v4 0xC000024D) ≠
        (naming [⟨.v4 0, 0, 0⟩, ⟨.v4 0x01020300, 24, 0⟩]).forClient (.v4 0xC6336409) := by
  refine ⟨by decide +kernel, ⟨⟨.v4 0x01020300, 24, 0⟩, ?_, ?_⟩, by decide⟩
  · exact List.mem_cons_of_mem _ List.mem_cons_self
  · exact ⟨by decide, by decide, by decide⟩

end Message

end Tollgate.Dns
