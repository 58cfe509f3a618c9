import Tollgate.Net.Address
import Tollgate.Proofs.Text.Decimal
import Tollgate.Proofs.Text.Reader

/-!
# The text of addresses is read back

Every number of an address is followed by something that is no digit, so each is read off as it was
written. IPv6 text is groups in front of a gap and groups behind it, or the groups alone. The groups
in front of the gap end at its colons, because no group is empty, and those behind it fit into what
is left of the address, because the gap stands for two groups at least.
-/

namespace Tollgate

open Text.Reader

namespace Address

variable {rest : List Char}

abbrev isDigitOf (base : Nat) (c : Char) : Bool := (Text.digitOf? base c).isSome

/-! ## Numbers -/

theorem digits?_toDigits {base : Nat} (two_le : 1 < base) (le_sixteen : base ≤ 16) (n : Nat)
    {most : Option Nat} (short : ∀ limit ∈ most, (Nat.toDigits base n).length ≤ limit)
    (stops : Stops (isDigitOf base) rest) :
    digits? base most (Nat.toDigits base n ++ rest) = some (n, Nat.toDigits base n, rest) := by
  have all : ∀ c ∈ Nat.toDigits base n, isDigitOf base c = true :=
    fun c mem => Text.isSome_digitOf?_of_mem_toDigits two_le le_sixteen mem
  have taken := takeWhile_append_of_stops all stops
  have left := dropWhile_append_of_stops all stops
  have read := Text.natural?_toDigits two_le le_sixteen n
  cases most with
  | none => simp [digits?, taken, left, read]
  | some limit =>
      have fits := short limit rfl
      simp [digits?, taken, left, read, fits]

theorem octet?_toDigits {n : Nat} (octet : n < 256) (stops : Stops (isDigitOf 10) rest) :
    octet? (Nat.toDigits 10 n ++ rest) = some (n, rest) := by
  have short : ∀ limit ∈ some 3, (Nat.toDigits 10 n).length ≤ limit := by
    rintro limit ⟨⟩
    rw [Nat.length_toDigits_le_iff (by decide) (by decide)]
    omega
  have read := digits?_toDigits (by decide) (by decide) n short stops
  have plain : (Nat.toDigits 10 n).head? ≠ some '0' ∨ (Nat.toDigits 10 n).length = 1 := by
    rcases Nat.eq_zero_or_pos n with rfl | pos
    · exact .inr rfl
    · exact .inl (Text.head?_toDigits_ne_zero (by decide) (by decide) pos)
  simp [octet?, read, octet, plain]

/-! ## IPv4 -/

theorem toList_toString_toUInt8 (n : Nat) :
    (toString n.toUInt8).toList = Nat.toDigits 10 (n % 256) := Nat.toList_repr

/-- The octets of an IPv4 address in decimal, with dots between them. -/
theorem toList_v4Text (bits : BitVec 32) :
    (v4Text bits).toList =
      Nat.toDigits 10 (bits.toNat / 16777216 % 256) ++ '.' ::
        (Nat.toDigits 10 (bits.toNat / 65536 % 256) ++ '.' ::
          (Nat.toDigits 10 (bits.toNat / 256 % 256) ++ '.' ::
            Nat.toDigits 10 (bits.toNat % 256))) := by
  rw [v4Text, String.toList_intercalate]
  simp [Octets.ofNat, toList_toString_toUInt8, Nat.div_div_eq_div_mul, List.intercalate]

theorem readV4?_v4Text (bits : BitVec 32) (stops : Stops (isDigitOf 10) rest) :
    readV4? ((v4Text bits).toList ++ rest) = some (bits, rest) := by
  have dot : ∀ text : List Char, Stops (isDigitOf 10) ('.' :: text) :=
    fun text => stops_cons (by decide) text
  have word : BitVec.ofNat 32 (((bits.toNat / 16777216 % 256 * 256 +
      bits.toNat / 65536 % 256) * 256 + bits.toNat / 256 % 256) * 256 + bits.toNat % 256) =
      bits := by
    apply BitVec.eq_of_toNat_eq
    have small := bits.isLt
    rw [BitVec.toNat_ofNat]
    omega
  rw [toList_v4Text]
  simp only [List.append_assoc, List.cons_append]
  have octet : ∀ n, n % 256 < 256 := fun n => Nat.mod_lt n (by decide)
  simp [readV4?, octet?_toDigits (octet _) (dot _), octet?_toDigits (octet _) stops, expect?, word]

theorem expect?_eq_none {c : Char} {text : List Char} (other : text.head? ≠ some c) :
    expect? c text = none := by
  cases text with
  | nil => rfl
  | cons first text =>
      refine if_neg ?_
      rintro rfl
      exact other rfl

theorem left_of_digits? {base : Nat} {most : Option Nat} {text digits left : List Char} {n : Nat}
    (read : digits? base most text = some (n, digits, left)) :
    left = text.dropWhile (isDigitOf base) := by
  obtain ⟨value, -, bounded⟩ := Option.bind_eq_some_iff.mp read
  cases most with
  | none =>
      cases bounded
      rfl
  | some limit =>
      dsimp only at bounded
      split at bounded
      next => cases bounded
      next =>
          cases bounded
          rfl

theorem left_of_octet? {text left : List Char} {n : Nat}
    (read : octet? text = some (n, left)) : left = text.dropWhile (isDigitOf 10) := by
  obtain ⟨⟨value, digits, rest⟩, taken, bounded⟩ := Option.bind_eq_some_iff.mp read
  rw [Option.ite_none_right_eq_some] at bounded
  cases bounded.2
  exact left_of_digits? taken

/-- Where there is no dot behind the first digits, there is no IPv4 address. -/
theorem readV4?_eq_none {text : List Char}
    (noDot : (text.dropWhile (isDigitOf 10)).head? ≠ some '.') : readV4? text = none := by
  cases read : octet? text with
  | none => simp [readV4?, read]
  | some taken =>
      rw [← left_of_octet? read] at noDot
      simp [readV4?, read, expect?_eq_none noDot]

/-! ## Groups -/

theorem ne_of_isDigitOf {base : Nat} {c other : Char} (digit : isDigitOf base c = true)
    (special : isDigitOf base other = false) : c ≠ other := by
  rintro rfl
  rw [digit] at special
  cases special

theorem isDigitOf_sixteen {c : Char} (decimal : isDigitOf 10 c = true) :
    isDigitOf 16 c = true := by
  obtain ⟨digit, read⟩ := Option.isSome_iff_exists.mp decimal
  rw [Text.digitOf?, Option.filter_eq_some_iff, decide_eq_true_eq] at read
  have read' : Text.digitOf? 16 c = some digit := by
    rw [Text.digitOf?, Option.filter_eq_some_iff, decide_eq_true_eq]
    exact ⟨read.1, Nat.lt_trans read.2 (by decide)⟩
  rw [isDigitOf, read']
  rfl

/-- A group is no start of an IPv4 address if no dot follows. -/
theorem head?_dropWhile_ne_dot {digits : List Char} (hex : ∀ c ∈ digits, isDigitOf 16 c = true)
    (stops : Stops (isDigitOf 16) rest) (noDot : rest.head? ≠ some '.') :
    ((digits ++ rest).dropWhile (isDigitOf 10)).head? ≠ some '.' := by
  induction digits with
  | nil =>
      rw [List.nil_append, dropWhile_of_stops (stops.of_imp isDigitOf_sixteen)]
      exact noDot
  | cons c digits ih =>
      obtain ⟨hex_here, hex_later⟩ := List.forall_mem_cons.mp hex
      by_cases decimal : isDigitOf 10 c = true
      · rw [List.cons_append, List.dropWhile_cons_of_pos decimal]
        exact ih hex_later
      · rw [List.cons_append, List.dropWhile_cons_of_neg decimal, List.head?_cons]
        intro dot
        exact ne_of_isDigitOf hex_here (by decide) (Option.some.inj dot)

/-- What can stand behind a group: neither a hexadecimal digit nor a dot. -/
def EndsGroup (text : List Char) : Prop :=
  Stops (isDigitOf 16) text ∧ text.head? ≠ some '.'

theorem endsGroup_cons {c : Char} (noDigit : isDigitOf 16 c = false) (noDot : c ≠ '.')
    (text : List Char) : EndsGroup (c :: text) :=
  ⟨stops_cons noDigit text, fun dot => noDot (Option.some.inj dot)⟩

theorem digits?_group {group : Nat} (small : group < 65536) (ends : EndsGroup rest) :
    digits? 16 (some 4) (Nat.toDigits 16 group ++ rest) =
      some (group, Nat.toDigits 16 group, rest) := by
  apply digits?_toDigits (by decide) (by decide) group _ ends.1
  rintro limit ⟨⟩
  rw [Nat.length_toDigits_le_iff (by decide) (by decide)]
  exact small

theorem readV4?_group (group : Nat) (ends : EndsGroup rest) :
    readV4? (Nat.toDigits 16 group ++ rest) = none := by
  refine readV4?_eq_none (head?_dropWhile_ne_dot ?_ ends.1 ends.2)
  intro c mem
  exact Text.isSome_digitOf?_of_mem_toDigits (by decide) (by decide) mem

theorem digits?_eq_none {base : Nat} {most : Option Nat} (stops : Stops (isDigitOf base) rest) :
    digits? base most rest = none := by
  simp [digits?, takeWhile_of_stops stops, Text.natural?]

/-- Where groups go on: behind a colon, but for the first. -/
def groupStart (first : Bool) (text : List Char) : Option (List Char) :=
  if first then some text else expect? ':' text

theorem groups_cons {first : Bool} {text : List Char} {group : Nat}
    (start : groupStart first text = some (Nat.toDigits 16 group ++ rest))
    (small : group < 65536) (ends : EndsGroup rest) (limit : Nat) :
    groups first (limit + 1) text =
      (group :: (groups false limit rest).1, (groups false limit rest).2) := by
  rw [groupStart] at start
  rw [groups, start]
  simp [readV4?_group group ends, digits?_group small ends]

theorem groups_nil {first : Bool} {text : List Char}
    (noGroup : ∀ start ∈ groupStart first text, Stops (isDigitOf 16) start) (limit : Nat) :
    groups first limit text = ([], false, text) := by
  cases limit with
  | zero => rfl
  | succ limit =>
      rw [groupStart] at noGroup
      rw [groups]
      cases begun : if first = true then some text else expect? ':' text with
      | none => simp
      | some start =>
          have stops := noGroup start begun
          have noOctet : octet? start = none := by
            simp [octet?, digits?_eq_none (stops.of_imp isDigitOf_sixteen)]
          simp [readV4?, noOctet, digits?_eq_none stops]

def colonGroups (groups : List Nat) : List Char :=
  groups.flatMap fun group => ':' :: Nat.toDigits 16 group

/-- What ends the groups of an address: something other than a group and a colon. -/
structure EndsGroups (text : List Char) : Prop where
  endsGroup : EndsGroup text
  noGroup : ∀ start ∈ groupStart false text, Stops (isDigitOf 16) start

theorem EndsGroups.colonGroups {all : List Nat} (ends : EndsGroups rest) :
    EndsGroup (colonGroups all ++ rest) := by
  cases all with
  | nil => exact ends.endsGroup
  | cons group all => exact endsGroup_cons (by decide) (by decide) _

theorem groups_colonGroups {all : List Nat} (small : ∀ group ∈ all, group < 65536)
    (ends : EndsGroups rest) {limit : Nat} (room : all.length ≤ limit) :
    groups false limit (colonGroups all ++ rest) = (all, false, rest) := by
  induction all generalizing limit with
  | nil => exact groups_nil ends.noGroup limit
  | cons group all ih =>
      obtain ⟨limit, rfl⟩ := Nat.exists_eq_succ_of_ne_zero (Nat.ne_zero_of_lt room)
      obtain ⟨small_here, small_later⟩ := List.forall_mem_cons.mp small
      have start : groupStart false (colonGroups (group :: all) ++ rest) =
          some (Nat.toDigits 16 group ++ (colonGroups all ++ rest)) := by
        rw [colonGroups, List.flatMap_cons, List.append_assoc]
        rfl
      rw [groups_cons start small_here ends.colonGroups,
        ih small_later (Nat.le_of_succ_le_succ room)]

theorem toList_hexGroups_cons (group : Nat) (all : List Nat) :
    (hexGroups (group :: all)).toList = Nat.toDigits 16 group ++ colonGroups all := by
  induction all generalizing group with
  | nil => simp [hexGroups, colonGroups]
  | cons next all ih =>
      have later := ih next
      rw [hexGroups, List.map_cons] at later
      rw [hexGroups, List.map_cons, List.map_cons, String.intercalate_cons_cons,
        String.toList_append, String.toList_append, String.toList_ofList, later]
      simp [colonGroups]

theorem groups_hexGroups {all : List Nat} (small : ∀ group ∈ all, group < 65536)
    (ends : EndsGroups rest) {limit : Nat} (room : all.length ≤ limit) :
    groups true limit ((hexGroups all).toList ++ rest) = (all, false, rest) := by
  cases all with
  | nil =>
      apply groups_nil
      rintro start ⟨⟩
      exact ends.endsGroup.1
  | cons group all =>
      obtain ⟨limit, rfl⟩ := Nat.exists_eq_succ_of_ne_zero (Nat.ne_zero_of_lt room)
      obtain ⟨small_here, small_later⟩ := List.forall_mem_cons.mp small
      have start : groupStart true ((hexGroups (group :: all)).toList ++ rest) =
          some (Nat.toDigits 16 group ++ (colonGroups all ++ rest)) := by
        rw [toList_hexGroups_cons, List.append_assoc]
        rfl
      rw [groups_cons start small_here ends.colonGroups,
        groups_colonGroups small_later ends (Nat.le_of_succ_le_succ room)]

/-! ## IPv6 -/

theorem ofGroups_groupsOf (bits : BitVec 128) : ofGroups (groupsOf bits) = bits := by
  apply BitVec.eq_of_toNat_eq
  have fits := bits.isLt
  simp [ofGroups, groupsOf, List.range, List.range.loop, BitVec.extractLsb'_toNat,
    Nat.shiftRight_eq_div_pow]
  omega

theorem length_groupsOf (bits : BitVec 128) : (groupsOf bits).length = 8 := by
  simp [groupsOf]

theorem lt_of_mem_groupsOf {bits : BitVec 128} {group : Nat} (mem : group ∈ groupsOf bits) :
    group < 65536 := by
  obtain ⟨place, -, rfl⟩ := List.mem_map.mp mem
  exact (bits.extractLsb' (16 * (7 - place)) 16).isLt

/-- The longest run of zero groups is one of zeros, where it is said to be. -/
theorem longestZeros_eq {all : List Nat} {place start length : Nat}
    (found : longestZeros place all = (start, length)) (some_zeros : 0 < length) :
    ∃ before after, all = before ++ (List.replicate length 0 ++ after) ∧
      start = place + before.length := by
  induction all generalizing place with
  | nil =>
      cases found
      cases some_zeros
  | cons group more ih =>
      rw [longestZeros] at found
      dsimp only at found
      split at found
      next here =>
          obtain ⟨rfl, rfl⟩ := Prod.mk.inj found
          refine ⟨[], (group :: more).dropWhile (· = 0), ?_, rfl⟩
          have zeros : (group :: more).takeWhile (· = 0) =
              List.replicate ((group :: more).takeWhile (· = 0)).length 0 := by
            rw [List.eq_replicate_iff]
            refine ⟨rfl, ?_⟩
            intro value mem
            exact of_decide_eq_true (List.all_eq_true.mp List.all_takeWhile value mem)
          rw [← zeros, List.nil_append, List.takeWhile_append_dropWhile]
      next there =>
          obtain ⟨before, after, more_eq, start_eq⟩ := ih found
          refine ⟨group :: before, after, ?_, ?_⟩
          · rw [more_eq]
            rfl
          · rw [start_eq, List.length_cons]
            omega

theorem readV6?_hexGroups (bits : BitVec 128) (ends : EndsGroups rest) :
    readV6? ((hexGroups (groupsOf bits)).toList ++ rest) = some (bits, rest) := by
  have read := groups_hexGroups (fun group mem => lt_of_mem_groupsOf mem) ends
    (Nat.le_of_eq (length_groupsOf bits))
  simp [readV6?, read, length_groupsOf, ofGroups_groupsOf]

theorem endsGroups_cons {c : Char} (noDigit : isDigitOf 16 c = false) (noDot : c ≠ '.')
    (noColon : c ≠ ':') (text : List Char) : EndsGroups (c :: text) := by
  refine ⟨endsGroup_cons noDigit noDot text, ?_⟩
  have noStart : expect? ':' (c :: text) = none :=
    expect?_eq_none fun colon => noColon (Option.some.inj colon)
  intro start begun
  rw [groupStart, if_neg Bool.false_ne_true, noStart] at begun
  cases begun

theorem endsGroups_gap (text : List Char) : EndsGroups (':' :: ':' :: text) := by
  refine ⟨endsGroup_cons (by decide) (by decide) _, ?_⟩
  rintro start ⟨⟩
  exact stops_cons (by decide) text

/-- Groups around a gap are read back, with zeros in the gap. -/
theorem readV6?_gap {before after : List Nat} (small : ∀ group ∈ before ++ after, group < 65536)
    (gap : before.length + after.length ≤ 6) (ends : EndsGroups rest) :
    readV6? ((hexGroups before).toList ++ ':' :: ':' :: ((hexGroups after).toList ++ rest)) =
      some (ofGroups (before ++
        (List.replicate (8 - before.length - after.length) 0 ++ after)), rest) := by
  obtain ⟨small_before, small_after⟩ := List.forall_mem_append.mp small
  have front := groups_hexGroups small_before
    (endsGroups_gap ((hexGroups after).toList ++ rest)) (show before.length ≤ 8 by omega)
  have back := groups_hexGroups small_after ends (show after.length ≤ 7 - before.length by omega)
  have partly : before.length ≠ 8 := by omega
  simp [readV6?, front, back, partly, expect?]

theorem groups_v4 {first : Bool} {text start : List Char} {bits : BitVec 32}
    (begun : groupStart first text = some start) (read : readV4? start = some (bits, rest))
    (limit : Nat) :
    groups first (limit + 2) text = ([bits.toNat / 65536, bits.toNat % 65536], true, rest) := by
  rw [groupStart] at begun
  rw [groups, begun]
  simp [read]

theorem ofGroups_mapped {bits : BitVec 128} (mapped : bits >>> 32 = 0xFFFF) :
    ofGroups [0, 0, 0, 0, 0, 65535, (bits.truncate 32).toNat / 65536,
      (bits.truncate 32).toNat % 65536] = bits := by
  have front : bits.toNat / 4294967296 = 65535 := by
    have shifted := congrArg BitVec.toNat mapped
    simpa [Nat.shiftRight_eq_div_pow] using shifted
  apply BitVec.eq_of_toNat_eq
  have fits := bits.isLt
  simp [ofGroups]
  omega

theorem readV6?_mapped {bits : BitVec 128} (mapped : bits >>> 32 = 0xFFFF)
    (ends : EndsGroup rest) :
    readV6? (("::ffff:" ++ v4Text (bits.truncate 32)).toList ++ rest) = some (bits, rest) := by
  have word := ofGroups_mapped mapped
  generalize bits.truncate 32 = low at word ⊢
  have text_eq : ("::ffff:" ++ v4Text low).toList ++ rest =
      ':' :: ':' :: (Nat.toDigits 16 65535 ++ (':' :: ((v4Text low).toList ++ rest))) := by
    rw [String.toList_append]
    rfl
  have front : ∀ text, groups true 8 (':' :: text) = ([], false, ':' :: text) := by
    intro text
    apply groups_nil
    rintro start ⟨⟩
    exact stops_cons (by decide) text
  have v4 := readV4?_v4Text low (ends.1.of_imp isDigitOf_sixteen)
  have back : groups true 7 (Nat.toDigits 16 65535 ++ (':' :: ((v4Text low).toList ++ rest))) =
      ([65535, low.toNat / 65536, low.toNat % 65536], true, rest) := by
    rw [groups_cons rfl (by decide) (endsGroup_cons (by decide) (by decide) _),
      groups_v4 rfl v4]
  rw [text_eq]
  simp [readV6?, front, back, expect?, word]

theorem readV6?_v6Text (bits : BitVec 128) (ends : EndsGroups rest) :
    readV6? ((v6Text bits).toList ++ rest) = some (bits, rest) := by
  rw [v6Text]
  split
  next mapped => exact readV6?_mapped mapped ends.endsGroup
  next =>
      dsimp only
      generalize found : longestZeros 0 (groupsOf bits) = zeros
      obtain ⟨start, length⟩ := zeros
      dsimp only
      split
      next => exact readV6?_hexGroups bits ends
      next long =>
          obtain ⟨before, after, all_eq, start_eq⟩ := longestZeros_eq found (by omega)
          have lengths := length_groupsOf bits
          rw [all_eq] at lengths
          simp only [List.length_append, List.length_replicate] at lengths
          have small : ∀ group ∈ before ++ after, group < 65536 := by
            intro group mem
            have among : group ∈ groupsOf bits := by
              rw [all_eq]
              rcases List.mem_append.mp mem with front | back
              · exact List.mem_append_left _ front
              · exact List.mem_append_right _ (List.mem_append_right _ back)
            exact lt_of_mem_groupsOf among
          have read := readV6?_gap small (by omega) ends
          have gap : 8 - before.length - after.length = length := by omega
          have whole := ofGroups_groupsOf bits
          rw [all_eq] at whole ⊢
          rw [gap, whole] at read
          have front : (before ++ (List.replicate length 0 ++ after)).take start = before := by
            simp [start_eq]
          have back : (before ++ (List.replicate length 0 ++ after)).drop (start + length) =
              after := by
            simp [start_eq, List.drop_append]
          rw [front, back]
          simpa using read

end Address

namespace SocketAddress

open Address

variable {socket : SocketAddress} {rest : List Char}

/-- The socket addresses there are: ports have 16 bits and scopes 32, and only IPv6 has scopes. -/
structure WellFormed (socket : SocketAddress) : Prop where
  port_lt : socket.port < 65536
  scope_lt : socket.scope < 4294967296
  unscoped : ∀ bits, socket.address = .v4 bits → socket.scope = 0

theorem portOf?_toDigits {port : Nat} (small : port < 65536) :
    portOf? (':' :: Nat.toDigits 10 port) = some port := by
  have read : digits? 10 none (Nat.toDigits 10 port ++ []) = _ :=
    digits?_toDigits (by decide) (by decide) port nofun nofun
  rw [List.append_nil] at read
  simp [portOf?, expect?, read, small]

theorem lt_of_portOf? {text : List Char} {port : Nat} (read : portOf? text = some port) :
    port < 65536 := by
  obtain ⟨digits, -, rest⟩ := Option.bind_eq_some_iff.mp read
  obtain ⟨⟨value, taken, left⟩, -, bounded⟩ := Option.bind_eq_some_iff.mp rest
  rw [Option.ite_none_right_eq_some] at bounded
  cases bounded.2
  exact bounded.1.2

def scopeText (scope : Nat) : List Char := if scope = 0 then [] else '%' :: Nat.toDigits 10 scope

theorem scoped?_scopeText {scope : Nat} (small : scope < 4294967296) (text : List Char) :
    scoped? (scopeText scope ++ ']' :: text) = some (scope, ']' :: text) := by
  rw [scopeText]
  split
  next unscoped =>
      rw [unscoped]
      rfl
  next =>
      have stops : Stops (isDigitOf 10) (']' :: text) := stops_cons (by decide) text
      have read : digits? 10 none _ = _ :=
        digits?_toDigits (by decide) (by decide) scope nofun stops
      simp [scoped?, read, small]

theorem lt_of_scoped? {text left : List Char} {scope : Nat}
    (read : scoped? text = some (scope, left)) : scope < 4294967296 := by
  unfold scoped? at read
  split at read
  next =>
      obtain ⟨⟨value, taken, rest⟩, -, bounded⟩ := Option.bind_eq_some_iff.mp read
      rw [Option.ite_none_right_eq_some] at bounded
      cases bounded.2
      exact bounded.1
  next =>
      cases read
      decide

theorem endsGroups_scopeText (scope : Nat) (text : List Char) :
    EndsGroups (scopeText scope ++ ']' :: text) := by
  rw [scopeText]
  split
  next => exact endsGroups_cons (by decide) (by decide) (by decide) text
  next => exact endsGroups_cons (by decide) (by decide) (by decide) _

theorem toList_text_v4 (bits : BitVec 32) (port scope : Nat) :
    (text ⟨.v4 bits, port, scope⟩).toList =
      (v4Text bits).toList ++ ':' :: Nat.toDigits 10 port := by
  change (v4Text bits ++ ":" ++ Nat.repr port).toList = _
  simp [String.toList_append, Nat.toList_repr]

theorem toList_text_v6 (bits : BitVec 128) (port scope : Nat) :
    (text ⟨.v6 bits, port, scope⟩).toList = '[' :: ((v6Text bits).toList ++
      (scopeText scope ++ ']' :: ':' :: Nat.toDigits 10 port)) := by
  have scope_eq : (if scope = 0 then "" else s!"%{scope}").toList = scopeText scope := by
    rw [scopeText]
    split
    next => rfl
    next =>
        change ("%" ++ Nat.repr scope).toList = _
        simp [String.toList_append, Nat.toList_repr]
  change ("[" ++ v6Text bits ++ (if scope = 0 then "" else s!"%{scope}") ++ "]:" ++
    Nat.repr port).toList = _
  simp only [String.toList_append, scope_eq, Nat.toList_repr]
  simp

theorem ofText?_text (formed : socket.WellFormed) : ofText? socket.text.toList = some socket := by
  obtain ⟨address, port, scope⟩ := socket
  cases address with
  | v4 bits =>
      obtain rfl : scope = 0 := formed.unscoped bits rfl
      have stops : Stops (isDigitOf 10) (':' :: Nat.toDigits 10 port) := stops_cons (by decide) _
      have read := readV4?_v4Text bits stops
      rw [toList_text_v4]
      unfold ofText?
      split
      next inner bracket =>
          rw [bracket, readV4?_eq_none] at read
          · cases read
          · rw [dropWhile_of_stops (stops_cons (by decide) inner)]
            nofun
      next => simp [read, portOf?_toDigits formed.port_lt]
  | v6 bits =>
      have ends := endsGroups_scopeText scope (':' :: Nat.toDigits 10 port)
      rw [toList_text_v6, ofText?]
      simp [readV6?_v6Text bits ends, scoped?_scopeText formed.scope_lt, expect?,
        portOf?_toDigits formed.port_lt]

/-- Only well-formed socket addresses are read. -/
theorem wellFormed_of_ofText? {text : List Char} (read : ofText? text = some socket) :
    socket.WellFormed := by
  unfold ofText? at read
  split at read
  next =>
      obtain ⟨⟨bits, rest⟩, -, read⟩ := Option.bind_eq_some_iff.mp read
      obtain ⟨⟨scope, behind⟩, scope_read, read⟩ := Option.bind_eq_some_iff.mp read
      obtain ⟨closed, -, read⟩ := Option.bind_eq_some_iff.mp read
      obtain ⟨port, port_read, read⟩ := Option.bind_eq_some_iff.mp read
      cases read
      exact ⟨lt_of_portOf? port_read, lt_of_scoped? scope_read, nofun⟩
  next =>
      obtain ⟨⟨bits, rest⟩, -, read⟩ := Option.bind_eq_some_iff.mp read
      obtain ⟨port, port_read, read⟩ := Option.bind_eq_some_iff.mp read
      cases read
      exact ⟨lt_of_portOf? port_read, Nat.zero_lt_of_ne_zero nofun, fun _ _ => rfl⟩

end SocketAddress

end Tollgate
