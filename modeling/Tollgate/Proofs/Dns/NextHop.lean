import Tollgate.Proofs.Dns.Rewriting

/-!
# What the next gateway makes of a forwarded query

A forwarded query always has a client subnet, and where the query had no usable one it is the
network of the client. This network says nothing itself for clients in the network of an unspecified
address: those of 0.0.0.0/24, as such or IPv4-mapped, and those of ::/48 that are not IPv4-mapped,
such as the IPv6 loopback address. A gateway that gets such a query puts in the network of its own
client, which is the gateway before it. All other queries it passes on as they came.
-/

namespace Tollgate.Dns

open Address (Agree IsV4 IsV6)

variable {client : Address} {edns : Edns} {message : Message} {subnet : ClientSubnet}

/-- The client is in the network of an unspecified address. -/
inductive IsUnplaced (client : Address) : Prop where
  | v4 {bits : BitVec 32} (isV4 : client.IsV4 bits) (zeros : Agree 24 bits 0)
  | v6 {bits : BitVec 128} (isV6 : client.IsV6 bits) (zeros : Agree 48 bits 0)

theorem ClientSubnet.ofClient_isUsable_iff : (ofClient client).IsUsable ↔ ¬ IsUnplaced client := by
  constructor
  · rintro usable (⟨isV4, zeros⟩ | ⟨isV6, zeros⟩)
    · apply usable.not_anyV4
      rw [ofClient_of_isV4 isV4, (Address.cleared_eq_zero_iff (by decide)).mpr zeros]
    · apply usable.not_anyV6
      rw [ofClient_of_isV6 isV6, (Address.cleared_eq_zero_iff (by decide)).mpr zeros]
  · intro placed
    rcases client.isV4_or_isV6 with ⟨bits, isV4⟩ | ⟨bits, isV6⟩
    · rw [ofClient_of_isV4 isV4]
      refine ⟨(by decide : 24 ≠ 0), fun zero => placed (.v4 isV4 ?_), nofun⟩
      exact (Address.cleared_eq_zero_iff (by decide)).mp (Address.v4.inj zero)
    · rw [ofClient_of_isV6 isV6]
      refine ⟨(by decide : 48 ≠ 0), nofun, fun zero => placed (.v6 isV6 ?_)⟩
      exact (Address.cleared_eq_zero_iff (by decide)).mp (Address.v6.inj zero)

/-- The first client subnet of a forwarded query is the one that was first before, if that is
usable, and else that of the client. -/
theorem Edns.clientSubnet?_forClient (client : Address) (edns : Edns) :
    (∃ subnet, edns.clientSubnet? = some subnet ∧ subnet.IsUsable ∧
      (edns.forClient client).clientSubnet? = some subnet) ∨
    ((∀ subnet, edns.clientSubnet? = some subnet → ¬ subnet.IsUsable) ∧
      (edns.forClient client).clientSubnet? = some (ClientSubnet.ofClient client)) := by
  rcases forClient_cases client edns with ⟨subnet, first, usable, kept⟩ | ⟨unusable, replaced⟩
  · rw [kept, clientSubnet?_without_padding]
    exact Or.inl ⟨subnet, first, usable, first⟩
  · refine Or.inr ⟨unusable, clientSubnet?_eq_some_iff.mpr ?_⟩
    refine ⟨edns.options.filter (·.isOther), [], by rw [replaced], fun earlier mem => ?_⟩
    exact Bool.false_ne_true (List.mem_filter.mp mem).2

namespace Message

/-- A message is forwarded with a usable client subnet in front if it came with one, or if its
client has a network. -/
theorem namesNetwork_forClient_iff (client : Address) (message : Message) :
    (message.forClient client).NamesNetwork ↔ message.NamesNetwork ∨ ¬ IsUnplaced client := by
  rw [namesNetwork_iff, namesNetwork_iff, forClient, Option.getD_some,
    ← ClientSubnet.ofClient_isUsable_iff]
  rcases Edns.clientSubnet?_forClient client (message.edns.getD Edns.default) with
    ⟨subnet, first, usable, kept⟩ | ⟨unusable, replaced⟩
  · exact ⟨fun _ => Or.inl ⟨subnet, first, usable⟩, fun _ => ⟨subnet, kept, usable⟩⟩
  · constructor
    · rintro ⟨subnet, first, usable⟩
      rw [replaced] at first
      exact Or.inr (Option.some.inj first ▸ usable)
    · rintro (⟨subnet, first, usable⟩ | usable)
      · exact absurd usable (unusable subnet first)
      · exact ⟨_, replaced, usable⟩

/-- A second gateway leaves a message alone that has a usable client subnet in front. -/
theorem forClient_forClient_of_namesNetwork (names : (message.forClient client).NamesNetwork)
    (other : Address) : (message.forClient client).forClient other = message.forClient client := by
  rw [forClient_of_namesNetwork names other client]
  exact congrArg (fun edns => { message with edns := some edns })
    (Edns.forClient_forClient client (message.edns.getD Edns.default))

/-- A message is always forwarded with a client subnet. The first one is degenerate exactly if it
was put in for a client in the network of an unspecified address. And exactly for these messages
another gateway would put in another one; it forwards all others as they came. -/
theorem next_hop_keeps_iff (client : Address) (message : Message) :
    (∃ front behind subnet,
      (message.forClient client).options = front ++ .clientSubnet subnet :: behind ∧
        (∀ earlier, .clientSubnet earlier ∉ front) ∧
        (subnet.isDegenerate = true ↔ ¬ message.NamesNetwork ∧ IsUnplaced client)) ∧
      ((∀ other, (message.forClient client).forClient other = message.forClient client) ↔
        message.NamesNetwork ∨ ¬ IsUnplaced client) := by
  have names_iff := namesNetwork_forClient_iff client message
  constructor
  · obtain ⟨subnet, first⟩ : ∃ subnet,
        ((message.edns.getD Edns.default).forClient client).clientSubnet? = some subnet := by
      rcases Edns.clientSubnet?_forClient client (message.edns.getD Edns.default) with
        ⟨subnet, -, -, kept⟩ | ⟨-, replaced⟩
      · exact ⟨subnet, kept⟩
      · exact ⟨_, replaced⟩
    obtain ⟨front, behind, split, nothing⟩ := Edns.clientSubnet?_eq_some_iff.mp first
    refine ⟨front, behind, subnet, split, nothing, ?_⟩
    have usable_iff : (message.forClient client).NamesNetwork ↔ subnet.IsUsable := by
      rw [namesNetwork_iff]
      constructor
      · rintro ⟨other, found, usable⟩
        exact Option.some.inj (found.symm.trans first) ▸ usable
      · exact fun usable => ⟨subnet, first, usable⟩
    rw [← Bool.not_eq_false, ClientSubnet.isDegenerate_eq_false_iff, ← usable_iff, names_iff,
      not_or, not_not]
  · rw [← names_iff]
    constructor
    · intro kept
      by_contra unnamed
      -- A client that has a network would put it in.
      have placed : ¬ IsUnplaced (.v4 0xC000024D) := by
        rw [← ClientSubnet.ofClient_isUsable_iff]
        exact ⟨by decide, by decide, by decide⟩
      have named := (namesNetwork_forClient_iff (.v4 0xC000024D) (message.forClient client)).mpr
        (Or.inr placed)
      rw [kept] at named
      exact unnamed named
    · exact forClient_forClient_of_namesNetwork

/-- The IPv6 loopback address is not the unspecified one, but a query of this host is forwarded with
a client subnet that is degenerate, and the next gateway puts another one in its place. -/
theorem loopback_network_replaced :
    (Address.v6 1).isUnspecified = false ∧
      ((naming []).forClient (.v6 1)).options = [.clientSubnet ⟨.v6 0, 48, 0⟩] ∧
      ClientSubnet.isDegenerate ⟨.v6 0, 48, 0⟩ = true ∧
      (((naming []).forClient (.v6 1)).forClient (.v4 0xC000024D)).options =
        [.clientSubnet ⟨.v4 0xC0000200, 24, 0⟩] := by
  decide

end Message

end Tollgate.Dns
