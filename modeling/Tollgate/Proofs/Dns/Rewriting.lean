import Tollgate.Proofs.Dns.ClientNetwork

/-!
# What forwarding leaves alone

Of a message that is forwarded on behalf of a client, only padding and client subnets are rewritten.
`Rewritten` says what that means for each part of a message, whatever its options are and in
whatever order they come. Rewriting a message a second time changes nothing: what is left has no
padding, and its first client subnet is either usable or the one that would take its place.
-/

namespace Tollgate.Dns

variable {client : Address} {edns : Edns} {message : Message} {subnet : ClientSubnet}

/-- Whether an option is neither padding nor a client subnet. -/
def EdnsOption.isOther (option : EdnsOption) : Bool :=
  option.code ≠ OptionCode.padding && option.code ≠ OptionCode.clientSubnet

/-- A message and what is forwarded of it on behalf of a client. -/
structure Rewritten (client : Address) (message forwarded : Message) : Prop where
  header_eq : forwarded.header = message.header
  questions_eq : forwarded.questions = message.questions
  answers_eq : forwarded.answers = message.answers
  authorities_eq : forwarded.authorities = message.authorities
  additionals_eq : forwarded.additionals = message.additionals
  /-- An EDNS record keeps its fields. -/
  edns_eq : ∀ edns, message.edns = some edns →
    ∃ options, forwarded.edns = some ⟨edns.maxPayload, edns.version, edns.flags, options⟩
  /-- One that was missing is added. -/
  edns_added : message.edns = none → ∃ options, forwarded.edns = some ⟨4096, 0, 0, options⟩
  others_eq : forwarded.options.filter (·.isOther) = message.options.filter (·.isOther)
  unpadded : ∀ option ∈ forwarded.options, option.code ≠ OptionCode.padding
  /-- With a usable client subnet in front of all others, all of them are kept. -/
  subnets_kept : message.NamesNetwork →
    forwarded.options = message.options.filter (·.code ≠ OptionCode.padding)
  /-- Otherwise all of them are replaced by one. -/
  subnets_replaced : ¬ message.NamesNetwork →
    forwarded.options =
      message.options.filter (·.isOther) ++ [.clientSubnet (ClientSubnet.ofClient client)]

namespace Edns

/-! ## Options -/

theorem options_without_both (edns : Edns) :
    ((edns.without OptionCode.padding).without OptionCode.clientSubnet).options =
      edns.options.filter (·.isOther) := by
  rw [without, without, List.filter_filter]
  refine List.filter_congr fun option _ => ?_
  rw [Bool.and_comm, EdnsOption.isOther]

theorem without_eq_self {code : Nat} (absent : ∀ option ∈ edns.options, option.code ≠ code) :
    edns.without code = edns := by
  have same : edns.options.filter (·.code ≠ code) = edns.options :=
    List.filter_eq_self.mpr fun option mem => decide_eq_true (absent option mem)
  rw [without, same]

/-- With a usable client subnet in front only padding is taken away. Otherwise all client subnets
are, and one is added behind. -/
theorem forClient_cases (client : Address) (edns : Edns) :
    (∃ subnet, edns.clientSubnet? = some subnet ∧ subnet.IsUsable ∧
      edns.forClient client = edns.without OptionCode.padding) ∨
    ((∀ subnet, edns.clientSubnet? = some subnet → ¬ subnet.IsUsable) ∧
      edns.forClient client =
        { edns with options := edns.options.filter (·.isOther) ++
            [.clientSubnet (ClientSubnet.ofClient client)] }) := by
  by_cases usable : ∃ subnet, edns.clientSubnet? = some subnet ∧ subnet.IsUsable
  · obtain ⟨subnet, first, usable⟩ := usable
    exact Or.inl ⟨subnet, first, usable, forClient_of_usable first usable client⟩
  · have unusable : ∀ subnet, edns.clientSubnet? = some subnet → ¬ subnet.IsUsable :=
      fun subnet first usable' => usable ⟨subnet, first, usable'⟩
    rw [forClient_of_unusable unusable, options_without_both]
    exact Or.inr ⟨unusable, rfl⟩

/-- Nothing but options is rewritten. -/
theorem forClient_eq (client : Address) (edns : Edns) :
    edns.forClient client = { edns with options := (edns.forClient client).options } := by
  rcases forClient_cases client edns with ⟨_, _, _, rewritten⟩ | ⟨_, rewritten⟩
  · rw [rewritten, without]
  · rw [rewritten]

/-- The other options stay, in their order. -/
theorem others_forClient (client : Address) (edns : Edns) :
    (edns.forClient client).options.filter (·.isOther) = edns.options.filter (·.isOther) := by
  rcases forClient_cases client edns with ⟨_, _, _, rewritten⟩ | ⟨_, rewritten⟩
  · rw [rewritten, without, List.filter_filter]
    refine List.filter_congr fun option _ => ?_
    rw [EdnsOption.isOther, Bool.and_right_comm, Bool.and_self]
  · have added : [EdnsOption.clientSubnet (ClientSubnet.ofClient client)].filter (·.isOther) = [] :=
      rfl
    rw [rewritten, List.filter_append, List.filter_filter, added, List.append_nil]
    simp only [Bool.and_self]

theorem unpadded_forClient (client : Address) (edns : Edns) :
    ∀ option ∈ (edns.forClient client).options, option.code ≠ OptionCode.padding := by
  intro option mem
  rcases forClient_cases client edns with ⟨_, _, _, rewritten⟩ | ⟨_, rewritten⟩
  · rw [rewritten] at mem
    exact of_decide_eq_true (List.mem_filter.mp mem).2
  · rw [rewritten] at mem
    rcases List.mem_append.mp mem with other | added
    · have other := (List.mem_filter.mp other).2
      rw [EdnsOption.isOther, Bool.and_eq_true] at other
      exact of_decide_eq_true other.1
    · rw [List.mem_singleton.mp added]
      exact (by decide : OptionCode.clientSubnet ≠ OptionCode.padding)

/-- What was rewritten once is not changed by rewriting it again. -/
theorem forClient_forClient (client : Address) (edns : Edns) :
    (edns.forClient client).forClient client = edns.forClient client := by
  rcases forClient_cases client (edns.forClient client) with ⟨_, _, _, again⟩ | ⟨unusable, again⟩
  · rw [again, without_eq_self (unpadded_forClient client edns)]
  · rcases forClient_cases client edns with ⟨subnet, first, usable, rewritten⟩ | ⟨_, rewritten⟩
    · rw [rewritten, clientSubnet?_without_padding] at unusable
      exact absurd usable (unusable subnet first)
    · rw [again, others_forClient, rewritten]

end Edns

namespace Message

theorem options_forClient (client : Address) (message : Message) :
    (message.forClient client).options =
      ((message.edns.getD Edns.default).forClient client).options := rfl

/-- A message is forwarded on behalf of a client with all its parts as they are but for padding and
client subnets. And it makes no difference whether it was rewritten for that client before. -/
theorem forClient_rewrites (client : Address) (message : Message) :
    Rewritten client message (message.forClient client) ∧
      (message.forClient client).forClient client = message.forClient client := by
  have cases_of := Edns.forClient_cases client (message.edns.getD Edns.default)
  constructor
  · constructor
    case header_eq => rfl
    case questions_eq => rfl
    case answers_eq => rfl
    case authorities_eq => rfl
    case additionals_eq => rfl
    case edns_eq =>
      intro edns present
      rw [forClient, present, Option.getD_some, Edns.forClient_eq]
      exact ⟨_, rfl⟩
    case edns_added =>
      intro missing
      rw [forClient, missing, Option.getD_none, Edns.forClient_eq]
      exact ⟨_, rfl⟩
    case others_eq =>
      rw [options_forClient, Edns.others_forClient, ← options_eq]
    case unpadded =>
      rw [options_forClient]
      exact Edns.unpadded_forClient client _
    case subnets_kept =>
      intro names
      obtain ⟨subnet, first, usable⟩ := namesNetwork_iff.mp names
      rw [options_forClient, Edns.forClient_of_usable first usable, options_eq]
      rfl
    case subnets_replaced =>
      intro unnamed
      rcases cases_of with ⟨subnet, first, usable, -⟩ | ⟨-, rewritten⟩
      · exact absurd (namesNetwork_iff.mpr ⟨subnet, first, usable⟩) unnamed
      · rw [options_forClient, rewritten, options_eq]
  · exact congrArg (fun edns => { message with edns := some edns })
      (Edns.forClient_forClient client (message.edns.getD Edns.default))

/-- A query with padding in front of a cookie, and two client subnets that say nothing. -/
def paddedQuery : Message := { naming [] with
  edns := some ⟨1232, 0, 0x8000, [.other OptionCode.padding [0, 0], .clientSubnet ⟨.v4 0, 0, 0⟩,
    .other 10 [1, 2, 3, 4, 5, 6, 7, 8], .clientSubnet ⟨.v4 0, 24, 0⟩]⟩ }

example : (paddedQuery.forClient (.v4 0xC000024D)).edns =
    some ⟨1232, 0, 0x8000, [.other 10 [1, 2, 3, 4, 5, 6, 7, 8],
      .clientSubnet ⟨.v4 0xC0000200, 24, 0⟩]⟩ := by decide

end Message

end Tollgate.Dns
