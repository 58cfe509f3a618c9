import Tollgate.Proofs.Dns.BlocklistText
import Tollgate.Proofs.Dns.LabelText
import Tollgate.Proofs.Dns.Resolution
import Mathlib.Data.List.Infix

/-!
# Which queries are blocked

A blocklist is given the text of the name that is asked for, and takes the text apart at its dots.
So a query is blocked if that text is below a blocked domain. For a name of plain labels this is as
good as the name itself, since the text has its labels and no others. A label that is shown in
Unicode, or with escapes, is another one in the text, or several of them. Then there is a blocklist
for which the two differ, and it is the text that decides.

The argument goes by counting: each label of a name leaves at least one in the text. If these are
all found at the end of the name, each of them leaves itself.
-/

namespace Tollgate.Dns

variable {text : List Char} {shown : String} {label : Label} {name : Name}
variable {domain : List Char} {domains : List String} {idna : Text.Idna}

/-! ## The labels of texts -/

theorem labelsOf_append_dot (front back : List Char) :
    labelsOf (front ++ '.' :: back) = labelsOf front ++ labelsOf back := by
  rw [labelsOf, List.splitOn_append_cons_self, List.filter_append, List.map_append, labelsOf,
    labelsOf]

theorem labelsOf_singleton (whole : '.' ∉ text) (nonempty : text ≠ []) :
    labelsOf text = [String.ofList (text.map Char.toLower)] := by
  rw [labelsOf, List.splitOn_eq_singleton whole]
  simp [nonempty]

/-- A text that is not made of dots alone has labels. -/
theorem labelsOf_ne_nil (solid : ∃ c ∈ text, c ≠ '.') : labelsOf text ≠ [] := by
  intro nothing
  obtain ⟨c, mem, other⟩ := solid
  have chars := Blocklist.flatten_labelsOf text
  rw [nothing, List.map_nil, List.flatten_nil, eq_comm, List.map_eq_nil_iff,
    List.filter_eq_nil_iff] at chars
  exact chars c mem (decide_eq_true other)

/-- A text with one label is that label, but for dots and case. -/
theorem toList_of_labelsOf_eq_singleton (one : labelsOf text = [shown]) :
    shown.toList = (text.filter (· ≠ '.')).map Char.toLower := by
  rw [← Blocklist.flatten_labelsOf, one]
  simp

theorem labelsOf_intercalate (parts : List String) :
    labelsOf (".".intercalate parts).toList = parts.flatMap fun part => labelsOf part.toList := by
  induction parts with
  | nil => rfl
  | cons part parts ih =>
      cases parts with
      | nil => simp
      | cons next parts =>
          rw [String.intercalate_cons_of_ne_nil (List.cons_ne_nil next parts), List.flatMap_cons,
            ← ih, ← labelsOf_append_dot]
          simp

/-- The labels of the text of a name are those of the texts of its labels. -/
theorem labelsOf_text (name : Name) (idna : Text.Idna) :
    labelsOf (name.text idna).toList =
      name.labels.flatMap fun label => labelsOf (label.text idna) := by
  have dotted : ∀ text : String, labelsOf (text ++ ".").toList = labelsOf text.toList := by
    intro text
    rw [String.toList_append]
    refine (labelsOf_append_dot text.toList []).trans ?_
    simp [labelsOf]
  have labels : labelsOf (".".intercalate
      (name.labels.map fun label => String.ofList (label.text idna))).toList =
        name.labels.flatMap fun label => labelsOf (label.text idna) := by
    rw [labelsOf_intercalate, List.flatMap_map]
    simp
  simp only [Name.text]
  split
  next => rw [dotted, labels]
  next => exact labels

/-! ## Labels and their texts -/

namespace Label

theorem IsPlain.labelsOf_text (plain : label.IsPlain idna) (nonempty : label ≠ []) :
    labelsOf (label.text idna) = [Octets.asciiText label.lower] := by
  have chars_ne : (Octets.asciiText label).toList ≠ [] := by
    simpa [Octets.asciiText] using nonempty
  rw [plain.text_eq, labelsOf_singleton plain.dot_not_mem chars_ne, asciiText_lower, Text.lowered]

theorem count_backslash (label : Label) :
    (Octets.asciiText label.lower).toList.count '\\' = label.count 0x5C := by
  rw [Octets.asciiText, String.toList_ofList, lower, List.map_map, List.count, List.countP_map,
    List.count]
  congr 1
  funext octet
  exact of_octets (P := fun octet =>
    (Char.ofNat (lowerOctet octet).toNat == '\\') = (octet == 0x5C)) (by decide +kernel) octet

/-- A label whose escaped text is that label has no escapes. -/
theorem isSafe_of_labelsOf (one : labelsOf (escapedText label) = [shown])
    (same : Octets.ofText shown = label.lower) : label.IsSafe := by
  have chars := toList_of_labelsOf_eq_singleton one
  have ascii : ∀ c ∈ shown.toList, c.toNat < 128 := by
    intro c mem
    rw [chars] at mem
    obtain ⟨c, inText, rfl⟩ := List.mem_map.mp mem
    exact Text.of_ascii (P := fun c => c.toLower.toNat < 128) (by decide +kernel)
      (ascii_of_mem_escapedText c (List.mem_filter.mp inText).1)
  have backslash : (fun c : Char => c.toLower == '\\') = fun c => c == '\\' := by
    funext c
    rw [Bool.eq_iff_iff, beq_iff_eq, beq_iff_eq, Text.toLower_eq_iff (by decide)]
  have kept : ((escapedText label).filter (· ≠ '.')).count '\\' =
      (escapedText label).count '\\' := List.count_filter (by decide)
  apply isSafe_of_count
  calc (escapedText label).count '\\'
      = (((escapedText label).filter (· ≠ '.')).map Char.toLower).count '\\' := by
        rw [← kept, List.count_eq_countP, List.count_eq_countP, List.countP_map]
        exact congrArg (fun p => List.countP p _) backslash.symm
    _ = (Octets.asciiText label.lower).toList.count '\\' := by
        rw [← same, Octets.asciiText_ofText ascii, chars]
    _ = label.count 0x5C := count_backslash label

/-- The first of some labels stays the first in a text. -/
theorem exists_labelsOf_join (whole : '.' ∉ text) (nonempty : text ≠ [])
    (others : List (List Char)) : ∃ more,
      labelsOf (Text.join '.' (text :: others)) = String.ofList (text.map Char.toLower) :: more := by
  cases others with
  | nil => exact ⟨[], labelsOf_singleton whole nonempty⟩
  | cons next others =>
      refine ⟨labelsOf (Text.join '.' (next :: others)), ?_⟩
      rw [Text.join, labelsOf_append_dot, labelsOf_singleton whole nonempty]
      · rfl
      · exact List.cons_ne_nil next others

/-- A Unicode form is another text than its label, also if only the first of its labels is left. -/
theorem not_same_of_unicode {rest : List Char}
    (marked : Text.Utf8.decodeLossy label = Text.Idna.mark ++ rest)
    (form : idna.shown.toUnicode? (Text.Idna.mark ++ rest) = some text)
    (one : labelsOf text = [shown]) : Octets.ofText shown ≠ label.lower := by
  intro same
  obtain ⟨chars, rfl, rfl⟩ := exists_text_of_lower same.symm
  rw [Text.Utf8.decodeLossy_ofText] at marked
  obtain ⟨mapped, part, more, unicode, others, mapped_eq, parts, read, rfl⟩ :=
    Text.Idna.Rules.of_toUnicode?_mark form
  obtain ⟨valid, foreign, -⟩ := Text.Idna.Rules.of_unmarked? read
  obtain ⟨later, first⟩ := exists_labelsOf_join (idna.shown.dot_not_mem _ valid)
    (Text.ne_nil_of_not_isAscii foreign) others
  rw [first] at one
  obtain ⟨lower_eq, -⟩ := List.cons.inj one
  refine Text.Idna.Rules.not_lower_eq_of_unmarked? mapped_eq parts read ?_
  rw [← marked, ← String.ofList_inj, lower_eq, Text.lowered]

/-- A label is the one label of its text exactly if it is plain. -/
theorem isPlain_iff (nonempty : label ≠ []) :
    label.IsPlain idna ↔
      ∃ shown, labelsOf (label.text idna) = [shown] ∧ Octets.ofText shown = label.lower := by
  constructor
  · exact fun plain => ⟨_, plain.labelsOf_text nonempty, plain.ofText_lower⟩
  · rintro ⟨shown, one, same⟩
    have isShown := label.shown_text idna
    generalize label.text idna = text at isShown one
    cases isShown with
    | escaped noForm =>
        have safe := isSafe_of_labelsOf one same
        rw [decodeLossy_of_isSafe safe] at noForm
        exact ⟨safe, noForm⟩
    | unicode marked form => exact absurd same (not_same_of_unicode marked form one)

end Label

/-! ## Names -/

/-- The labels of a name end in those of a domain, whatever their case. Of these there must be
some. -/
structure Name.EndsIn (name : Name) (domain : List Char) : Prop where
  nonempty : labelsOf domain ≠ []
  isSuffix : (labelsOf domain).map Octets.ofText <:+ name.labels.map Label.lower

section Counting

variable {α β : Type} {f : α → List β} {g : α → β} {list : List α}

theorem length_le_length_flatMap (some_each : ∀ a ∈ list, f a ≠ []) :
    list.length ≤ (list.flatMap f).length := by
  induction list with
  | nil => exact Nat.le_refl 0
  | cons a list ih =>
      obtain ⟨here, later⟩ := List.forall_mem_cons.mp some_each
      have one := List.length_pos_iff.mpr here
      have more := ih later
      rw [List.flatMap_cons, List.length_append, List.length_cons]
      omega

/-- As many lists as there are values have one value each, if none of them is empty. -/
theorem eq_singleton_of_flatMap_eq_map (some_each : ∀ a ∈ list, f a ≠ [])
    (same : list.flatMap f = list.map g) : ∀ a ∈ list, f a = [g a] := by
  induction list with
  | nil => exact List.forall_mem_nil _
  | cons a list ih =>
      obtain ⟨here, later⟩ := List.forall_mem_cons.mp some_each
      obtain ⟨b, others, parts⟩ := List.exists_cons_of_ne_nil here
      rw [List.flatMap_cons, List.map_cons, parts, List.cons_append, List.cons.injEq] at same
      obtain ⟨rfl, rest⟩ := same
      have long := length_le_length_flatMap later
      have lengths := congrArg List.length rest
      rw [List.length_append, List.length_map] at lengths
      obtain rfl : others = [] := List.eq_nil_of_length_eq_zero (by omega)
      exact List.forall_mem_cons.mpr ⟨parts, ih later rest⟩

end Counting

namespace Name

/-- A name of plain labels is below a domain exactly if its text is. -/
theorem covers_text_iff (plain : ∀ label ∈ name.labels, label.IsPlain idna)
    (nonempty : ∀ label ∈ name.labels, label ≠ []) :
    Covers domain (name.text idna) ↔ name.EndsIn domain := by
  have labels_eq : labelsOf (name.text idna).toList =
      name.labels.map fun label => Octets.asciiText label.lower := by
    rw [labelsOf_text, List.map_eq_flatMap]
    exact List.flatMap_congr fun label mem => (plain label mem).labelsOf_text (nonempty label mem)
  have octets_eq :
      (labelsOf (name.text idna).toList).map Octets.ofText = name.labels.map Label.lower := by
    rw [labels_eq, List.map_map]
    exact List.map_congr_left fun label mem => (plain label mem).ofText_lower
  have inj : Function.Injective Octets.ofText := fun _ _ => Octets.ofText_inj.mp
  constructor
  · rintro ⟨nonempty, isSuffix⟩
    refine ⟨nonempty, ?_⟩
    rwa [← octets_eq, List.suffix_map_iff_of_injective inj]
  · rintro ⟨nonempty, isSuffix⟩
    refine ⟨nonempty, ?_⟩
    rwa [← octets_eq, List.suffix_map_iff_of_injective inj] at isSuffix

/-- Each label of a name has some label of the text, so if these are all at the end of the name, no
label has more than itself. -/
theorem isPlain_of_endsIn_text (nonempty : ∀ label ∈ name.labels, label ≠ [])
    (ends : name.EndsIn (name.text idna).toList) : ∀ label ∈ name.labels, label.IsPlain idna := by
  have octets_eq : (labelsOf (name.text idna).toList).map Octets.ofText =
      name.labels.flatMap fun label => (labelsOf (label.text idna)).map Octets.ofText := by
    rw [labelsOf_text, List.map_flatMap]
  have some_each : ∀ label ∈ name.labels, (labelsOf (label.text idna)).map Octets.ofText ≠ [] := by
    intro label mem nothing
    exact labelsOf_ne_nil ((label.shown_text idna).exists_ne_dot (nonempty label mem))
      (List.map_eq_nil_iff.mp nothing)
  have isSuffix := ends.isSuffix
  rw [octets_eq] at isSuffix
  have long := length_le_length_flatMap some_each
  have same := isSuffix.eq_of_length_le (by rwa [List.length_map])
  intro label mem
  have one := eq_singleton_of_flatMap_eq_map some_each same label mem
  obtain ⟨shown, labels_eq, octets⟩ := List.map_eq_singleton_iff.mp one
  exact (Label.isPlain_iff (nonempty label mem)).mpr ⟨shown, labels_eq, octets⟩

/-- For every domain a name is below it exactly if the text of the name is, if the labels of the
name are plain, and not otherwise. -/
theorem covers_text_iff_forall (nonempty : ∀ label ∈ name.labels, label ≠ []) :
    (∀ domain, Covers domain (name.text idna) ↔ name.EndsIn domain) ↔
      ∀ label ∈ name.labels, label.IsPlain idna := by
  constructor
  · intro agree
    by_cases labelled : labelsOf (name.text idna).toList = []
    · rw [labelsOf_text, List.flatMap_eq_nil_iff] at labelled
      intro label mem
      exact absurd (labelled label mem)
        (labelsOf_ne_nil ((label.shown_text idna).exists_ne_dot (nonempty label mem)))
    · refine isPlain_of_endsIn_text nonempty ((agree _).mp ?_)
      exact ⟨labelled, List.suffix_rfl⟩
  · exact fun plain domain => covers_text_iff plain nonempty

end Name

/-! ## Blocked queries -/

namespace Resolver

variable {resolver : Resolver} {recursor : Recursor} {query : Query} {now : Instant}
variable {ledger : Ledger} {token : String} {message : Message} {question : Question}

/-- The gateway answers by itself that there is no such name. Nothing is sent on or debited. -/
structure NoSuchName (message : Message) (question : Question) (ledger : Ledger)
    (ending : Resolution) : Prop where
  answered : ∃ wire, ending.result = .ok wire ∧
    (Message.answerTo message question ResponseCode.noSuchName true).toWire? = some wire
  ledger_eq : ending.ledger = ledger
  unsent : ending.forwarded = none

/-- The answer to a blocked query can always be written, since its name was read. -/
theorem plan_of_isBlocked (token : String) (asks : query.Asks message question)
    (notDiscovery : question.isDiscovery = false) (isBlocked : resolver.IsBlocked query question) :
    ∃ wire, (Message.answerTo message question ResponseCode.noSuchName true).toWire? = some wire ∧
      resolver.plan token query = .ok (.answer wire) := by
  have isRead := Message.isRead_of_ofWire? asks.parsed question (List.mem_of_head? asks.first)
  have one : (Message.answerTo message question ResponseCode.noSuchName true).questions =
      [question] := rfl
  obtain ⟨wire, written⟩ :=
    Option.isSome_iff_exists.mp (Message.isSome_toWire? one isRead.fits)
  refine ⟨wire, written, ?_⟩
  simp [plan, orElse, bind, Except.bind, pure, Except.pure, asks.parsed, asks.first, notDiscovery,
    isBlocked.1, isBlocked.2, written]

/-- What is answered without a query to the recursor is an answer of the gateway's own. -/
theorem exists_ownAnswer {wire : Octets} (served : authorize query now ledger = .ok token)
    (answered : (resolver.resolve recursor query now ledger).result = .ok wire)
    (unsent : (resolver.resolve recursor query now ledger).forwarded = none) :
    ∃ answer, resolver.OwnAnswer token query answer ∧ answer.toWire? = some wire := by
  cases planned : resolver.plan token query with
  | error error =>
      rw [resolve_of_failed resolver recursor served planned] at answered
      cases answered
  | ok plan =>
      cases plan with
      | forward forwarded multiplier =>
          rw [resolve_of_forward resolver recursor served planned] at unsent
          split at unsent
          next => cases unsent
          next => cases unsent
      | answer answer =>
          rw [resolve_of_own resolver recursor served planned] at answered
          obtain rfl := Except.ok.inj answered
          exact plan_eq_answer planned

/-- A query that is no discovery is answered so exactly if its name is blocked. -/
theorem noSuchName_iff (served : authorize query now ledger = .ok token)
    (asks : query.Asks message question) (notDiscovery : question.isDiscovery = false) :
    NoSuchName message question ledger (resolver.resolve recursor query now ledger) ↔
      resolver.IsBlocked query question := by
  constructor
  · rintro ⟨⟨wire, answered, -⟩, -, unsent⟩
    obtain ⟨own, ownAnswer, -⟩ := exists_ownAnswer served answered unsent
    cases ownAnswer with
    | discovery otherAsks isDiscovery =>
        obtain ⟨rfl, rfl⟩ := otherAsks.unique asks
        rw [notDiscovery] at isDiscovery
        cases isDiscovery
    | blocked otherAsks _ isBlocked =>
        obtain ⟨rfl, rfl⟩ := otherAsks.unique asks
        exact isBlocked
  · intro isBlocked
    obtain ⟨wire, written, planned⟩ := plan_of_isBlocked token asks notDiscovery isBlocked
    rw [resolve_of_own resolver recursor served planned]
    exact ⟨⟨wire, rfl, written⟩, rfl, rfl⟩

/-- A resolver that blocks domains and bills relayed queries by some multiplier. -/
def blocking (domains : List String) (relayMultiplier : Int) (idna : Text.Idna) : Resolver :=
  ⟨Blocklist.ofDomains domains, relayMultiplier, idna⟩

theorem isBlocked_blocking_iff {relayMultiplier : Int} (wanted : query.blockAds = true) :
    (blocking domains relayMultiplier idna).IsBlocked query question ↔
      ∃ domain ∈ domains, Covers domain.toList (question.name.text idna) := by
  rw [IsBlocked, blocking, (Blocklist.holds_ofDomains domains).blocks_iff,
    Blocklist.exists_named_iff, and_iff_right wanted]

/-- A query for ad blocking that is no discovery is answered by the gateway, with the code for no
such name, exactly if the text of the name that it asks for is below a blocked domain. The text
has the labels of the name if these are plain, and then it is the name itself that is below a
blocked domain. With any other label the two differ for some blocklist. -/
theorem ads_blocked_by_text_iff (recursor : Recursor) (relayMultiplier : Int) (idna : Text.Idna)
    (served : authorize query now ledger = .ok token) (asks : query.Asks message question)
    (notDiscovery : question.isDiscovery = false) (wanted : query.blockAds = true) :
    (∀ domains : List String,
      NoSuchName message question ledger
          ((blocking domains relayMultiplier idna).resolve recursor query now ledger) ↔
        ∃ domain ∈ domains, Covers domain.toList (question.name.text idna)) ∧
    ((∀ domains : List String,
      NoSuchName message question ledger
          ((blocking domains relayMultiplier idna).resolve recursor query now ledger) ↔
        ∃ domain ∈ domains, question.name.EndsIn domain.toList) ↔
      ∀ label ∈ question.name.labels, label.IsPlain idna) := by
  have isRead := Message.isRead_of_ofWire? asks.parsed question (List.mem_of_head? asks.first)
  have by_text : ∀ domains : List String,
      NoSuchName message question ledger
          ((blocking domains relayMultiplier idna).resolve recursor query now ledger) ↔
        ∃ domain ∈ domains, Covers domain.toList (question.name.text idna) := fun domains =>
    (noSuchName_iff served asks notDiscovery).trans (isBlocked_blocking_iff wanted)
  refine ⟨by_text, ?_⟩
  rw [← Name.covers_text_iff_forall isRead.nonempty]
  constructor
  · intro agree domain
    have alone := (by_text [String.ofList domain]).symm.trans (agree [String.ofList domain])
    simpa using alone
  · intro same domains
    rw [by_text]
    simp only [same]

/-- A question for the address of a name with these labels. -/
def questionFor (labels : List String) : Question := ⟨⟨labels.map Octets.ofText, true⟩, 1, 1⟩

def messageFor (labels : List String) : Message where
  header := ⟨99, false, 0, false, false, true, false, false, false, 0⟩
  questions := [questionFor labels]
  answers := []
  authorities := []
  additionals := []
  edns := none

/-- The query of the token `a` that carries it and wants ads to be blocked. -/
def adFreeQuery (labels : List String) : Query where
  token := some "a"
  source := .path
  message := [0, 99, 1, 0, 0, 1, 0, 0, 0, 0, 0, 0] ++
    labels.flatMap (fun label => Label.toWire (Octets.ofText label)) ++ [0, 0, 1, 0, 1]
  peer := .v4 0x0A000001
  relayedFor := none
  blockAds := true

/-- A name of plain labels is blocked with the domain that it is below. -/
theorem ads_below_example_blocked :
    (adFreeQuery ["ads", "example"]).Asks (messageFor ["ads", "example"])
      (questionFor ["ads", "example"]) ∧
    NoSuchName (messageFor ["ads", "example"]) (questionFor ["ads", "example"]) (.store fiveBytes)
      ((blocking ["Example"] 100 .scripts).resolve (fun _ => none)
        (adFreeQuery ["ads", "example"]) 2 (.store fiveBytes)) := by
  have served : authorize (adFreeQuery ["ads", "example"]) 2 (.store fiveBytes) = .ok "a" := by
    decide +kernel
  have asks : (adFreeQuery ["ads", "example"]).Asks (messageFor ["ads", "example"])
      (questionFor ["ads", "example"]) := ⟨by decide +kernel, rfl⟩
  obtain ⟨-, by_name⟩ :=
    ads_blocked_by_text_iff (fun _ => none) 100 .scripts served asks (by decide) rfl
  have plain : ∀ label ∈ (questionFor ["ads", "example"]).name.labels, label.IsPlain .scripts := by
    intro label mem
    apply Label.isPlain_of_unmarked
    · revert label
      decide +kernel
    · revert label
      decide +kernel
  refine ⟨asks, (by_name.mpr plain ["Example"]).mpr ⟨"Example", List.mem_cons_self, ?_, ?_⟩⟩
  · decide +kernel
  · decide +kernel

/-- A name in Punycode is not blocked with itself, since its text is in Unicode. A label with a dot
in it is blocked with a domain that the name is not below. -/
theorem spelling_decides :
    ((questionFor ["xn--9ca", "example"]).name.EndsIn "xn--9ca.example".toList ∧
      (adFreeQuery ["xn--9ca", "example"]).Asks (messageFor ["xn--9ca", "example"])
        (questionFor ["xn--9ca", "example"]) ∧
      ((blocking ["xn--9ca.example"] 100 .scripts).resolve (fun _ => none)
        (adFreeQuery ["xn--9ca", "example"]) 2 (.store fiveBytes)).forwarded.isSome = true) ∧
    (¬ (questionFor ["x.ads", "example"]).name.EndsIn "ads.example".toList ∧
      (adFreeQuery ["x.ads", "example"]).Asks (messageFor ["x.ads", "example"])
        (questionFor ["x.ads", "example"]) ∧
      NoSuchName (messageFor ["x.ads", "example"]) (questionFor ["x.ads", "example"])
        (.store fiveBytes)
        ((blocking ["ads.example"] 100 .scripts).resolve (fun _ => none)
          (adFreeQuery ["x.ads", "example"]) 2 (.store fiveBytes))) := by
  refine ⟨⟨⟨?_, ?_⟩, ⟨?_, rfl⟩, ?_⟩, ?_, ⟨?_, rfl⟩, ?_⟩
  · decide +kernel
  · decide +kernel
  · decide +kernel
  · decide +kernel
  · rintro ⟨-, isSuffix⟩
    revert isSuffix
    decide +kernel
  · decide +kernel
  · have served : authorize (adFreeQuery ["x.ads", "example"]) 2 (.store fiveBytes) = .ok "a" := by
      decide +kernel
    refine (noSuchName_iff served ⟨by decide +kernel, rfl⟩ (by decide)).mpr ⟨rfl, ?_⟩
    decide +kernel

end Resolver

end Tollgate.Dns
