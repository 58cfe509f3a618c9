import Tollgate.Proofs.Text.Decimal
import Tollgate.Proofs.Text.PercentEncoding
import Tollgate.Proofs.Text.Trim
import Tollgate.Tunnel.Target

/-!
# The path of a datagram tunnel

A path names a host and a port by two segments, with any number of slashes behind them. `Names` says
which paths do so without the reader, and the reader takes exactly these. Slashes, colons and
percent signs of a host are escaped in its segment, so the segments are told apart before they are
decoded.
-/

namespace Tollgate

/-- The digits of a number are read back, if it is not too great. -/
theorem Text.bounded?_toDigits {max n : Nat} (fits : n ≤ max) :
    bounded? max (Nat.toDigits 10 n) = some n := by
  have unsigned : ∀ digits, Nat.toDigits 10 n ≠ '+' :: digits := by
    intro digits signed
    have mem : '+' ∈ Nat.toDigits 10 n := signed ▸ List.mem_cons_self
    exact absurd (Nat.isDigit_of_mem_toDigits (by decide) (by decide) mem) (by decide)
  unfold bounded?
  split
  next digits signed => exact absurd signed (unsigned digits)
  next => rw [natural?_toDigits (by decide) (by decide), Option.filter_some, if_pos (by simpa)]

namespace Tunnel.Target

open Text (Percent.decodeText? Percent.encodeText Percent.Encodes)

variable {path host segment : String} {port : Nat}

/-- The path that has two segments, with slashes behind them. -/
def template (segment digits : String) (slashes : Nat) : String :=
  datagramPath ++ segment ++ "/" ++ digits ++ String.ofList (List.replicate slashes '/')

/-- A path that names a host and a port. The first segment stands for the host, and the second one
is the port. -/
inductive Names : (path host : String) → (port : Nat) → Prop where
  | intro {segment digits host : String} {port : Nat} (slashes : Nat) (nonempty : segment ≠ "")
      (segment_whole : '/' ∉ segment.toList) (digits_whole : '/' ∉ digits.toList)
      (spells : Percent.decodeText? segment = some host)
      (number : Text.bounded? 65535 digits.toList = some port) (positive : port ≠ 0) :
      Names (template segment digits slashes) host port

/-- Slashes at the end do not count, and what is left is split at the only other one. -/
theorem split_segments {segment digits : List Char} (slashes : Nat) (segment_whole : '/' ∉ segment)
    (digits_whole : '/' ∉ digits) (nonempty : digits ≠ []) :
    Text.split '/' (Text.dropEndWhile (· = '/')
      (segment ++ '/' :: digits ++ List.replicate slashes '/')) = [segment, digits] := by
  have last : ∀ c ∈ (segment ++ '/' :: digits).getLast?, decide (c = '/') = false := by
    intro c last
    rw [List.getLast?_append_cons, List.getLast?_cons_of_ne_nil nonempty] at last
    have mem := List.mem_of_getLast? last
    exact decide_eq_false fun slash => digits_whole (slash ▸ mem)
  rw [Text.dropEndWhile_append_replicate, Text.dropEndWhile_of_getLast? last, Text.split_append,
    Text.split_eq_singleton segment_whole, Text.split_eq_singleton digits_whole]
  rfl

/-- What has two segments, with slashes behind them or without. -/
theorem exists_segments {rest segment digits : List Char}
    (parts : Text.split '/' (Text.dropEndWhile (· = '/') rest) = [segment, digits]) :
    (∃ slashes, rest = segment ++ '/' :: digits ++ List.replicate slashes '/') ∧
      '/' ∉ segment ∧ '/' ∉ digits := by
  have whole : ∀ part ∈ [segment, digits], '/' ∉ part := by
    rw [← parts]
    exact fun part => Text.not_mem_of_mem_split
  refine ⟨?_, whole segment (by simp), whole digits (by simp)⟩
  obtain ⟨behind, joined, all⟩ := Text.exists_dropEndWhile_append (· = '/') rest
  have core : segment ++ '/' :: digits = Text.dropEndWhile (· = '/') rest := by
    rw [← Text.join_split '/' (Text.dropEndWhile (· = '/') rest), parts]
    rfl
  have slashes : behind = List.replicate behind.length '/' :=
    List.eq_replicate_of_mem fun c mem => of_decide_eq_true (all c mem)
  exact ⟨behind.length, by rw [core, ← slashes, joined]⟩

theorem toList_template (segment digits : String) (slashes : Nat) :
    (template segment digits slashes).toList = datagramPath.toList ++
      (segment.toList ++ '/' :: digits.toList ++ List.replicate slashes '/') := by
  simp [template]

/-- The reader takes the paths that name a host and a port. -/
theorem hostAndPort?_eq_some_iff :
    hostAndPort? path = some (host, port) ↔ Names path host port := by
  constructor
  · intro read
    obtain ⟨rest, behind, read⟩ := Option.bind_eq_some_iff.mp read
    split at read
    next segment digits parts =>
      obtain ⟨⟨slashes, rfl⟩, segment_whole, digits_whole⟩ := exists_segments parts
      obtain ⟨nonempty, read⟩ := Option.ite_none_left_eq_some.mp read
      obtain ⟨spelled, spells, read⟩ := Option.bind_eq_some_iff.mp read
      obtain ⟨n, number, read⟩ := Option.bind_eq_some_iff.mp read
      obtain ⟨positive, named⟩ := Option.ite_none_left_eq_some.mp read
      obtain ⟨rfl, rfl⟩ := Prod.mk.inj (Option.some.inj named)
      have path_eq : path = template (String.ofList segment) (String.ofList digits) slashes := by
        apply String.toList_inj.mp
        rw [Text.eq_append_of_dropStart? behind, toList_template, String.toList_ofList,
          String.toList_ofList]
      rw [path_eq]
      refine .intro slashes ?_ ?_ ?_ spells ?_ positive
      · simpa using nonempty
      · rwa [String.toList_ofList]
      · rwa [String.toList_ofList]
      · rwa [String.toList_ofList]
    next => cases read
  · rintro ⟨slashes, nonempty, segment_whole, digits_whole, spells, number, positive⟩
    have digits_ne : ∀ {digits : List Char}, Text.bounded? 65535 digits = some port →
        digits ≠ [] := by
      rintro digits number rfl
      cases number
    have parts := split_segments slashes segment_whole digits_whole (digits_ne number)
    rw [hostAndPort?, toList_template, Text.dropStart?_append]
    simp only [Option.bind_eq_bind, Option.bind_some, parts]
    simp [nonempty, spells, number, positive]

theorem ofPath_eq_ok_iff {target : Target} :
    ofPath path = .ok target ↔
      ∃ host port, target = .datagram host port ∧ Names path host port := by
  unfold ofPath
  split
  next host port read =>
    rw [Except.ok.injEq]
    constructor
    · rintro rfl
      exact ⟨host, port, rfl, hostAndPort?_eq_some_iff.mp read⟩
    · rintro ⟨host', port', rfl, names⟩
      rw [hostAndPort?_eq_some_iff.mpr names] at read
      obtain ⟨rfl, rfl⟩ := Prod.mk.inj (Option.some.inj read)
      rfl
  next refused =>
    constructor
    · exact nofun
    · rintro ⟨host, port, -, names⟩
      rw [hostAndPort?_eq_some_iff.mpr names] at refused
      cases refused

/-- A segment that is not empty stands for a host. -/
theorem Names.host_ne (names : Names path host port) : host ≠ "" := by
  obtain ⟨slashes, nonempty, -, -, spells, -, -⟩ := names
  rintro rfl
  have nothing := Octets.ofText_eq_nil_iff.mpr (rfl : "" = "")
  rw [← Octets.eq_ofText_of_text? spells] at nothing
  exact Text.Percent.decode_ne_nil (mt Octets.ofText_eq_nil_iff.mp nonempty) nothing

/-- Any percent-encoding of a host names it, with any port. -/
theorem names_of_encodes (someHost : host ≠ "")
    (encodes : Percent.Encodes (Octets.ofText host) (Octets.ofText segment))
    (whole : '/' ∉ segment.toList) (positive : 0 < port) (small : port ≤ 65535) (slashes : Nat) :
    Names (template segment (toString port) slashes) host port := by
  have digits : (toString port).toList = Nat.toDigits 10 port := Nat.toList_repr
  have spells := Text.Percent.decodeText?_of_encodes encodes
  refine .intro slashes ?_ whole ?_ spells ?_ (Nat.ne_of_gt positive)
  · rintro rfl
    exact someHost (Option.some.inj (spells.symm.trans (by decide)))
  · rw [digits]
    intro mem
    exact absurd (Nat.isDigit_of_mem_toDigits (by decide) (by decide) mem) (by decide)
  · rw [digits]
    exact Text.bounded?_toDigits small

/-- A path with the percent-encoding of a host and a port behind it leads to that host and port,
whatever characters the host has, whichever of them are escaped and how many slashes follow. And
every path that leads somewhere is made of two segments like that: the first one stands for the
host, which is not empty, and the second one for the port, which is not zero. -/
theorem target_templates_round_trip :
    (∀ (host : String) (port slashes : Nat), host ≠ "" → 0 < port → port ≤ 65535 →
      ofPath (template (Percent.encodeText host) (toString port) slashes) =
        .ok (.datagram host port)) ∧
    (∀ (host segment : String) (port slashes : Nat), host ≠ "" →
      Percent.Encodes (Octets.ofText host) (Octets.ofText segment) → '/' ∉ segment.toList →
      0 < port → port ≤ 65535 →
      ofPath (template segment (toString port) slashes) = .ok (.datagram host port)) ∧
    ∀ (path : String) (target : Target), ofPath path = .ok target →
      ∃ (host segment digits : String) (port slashes : Nat),
        target = .datagram host port ∧ host ≠ "" ∧ port ≠ 0 ∧
        path = template segment digits slashes ∧ '/' ∉ segment.toList ∧ '/' ∉ digits.toList ∧
        Percent.decodeText? segment = some host ∧
        Text.bounded? 65535 digits.toList = some port := by
  refine ⟨?_, ?_, ?_⟩
  · intro host port slashes someHost positive small
    have encodes := Text.Percent.encodes_encode (Octets.ofText host)
    rw [← Text.Percent.ofText_encodeText] at encodes
    have whole := Text.Percent.slash_not_mem_encodeText host
    exact ofPath_eq_ok_iff.mpr
      ⟨host, port, rfl, names_of_encodes someHost encodes whole positive small slashes⟩
  · intro host segment port slashes someHost encodes whole positive small
    exact ofPath_eq_ok_iff.mpr
      ⟨host, port, rfl, names_of_encodes someHost encodes whole positive small slashes⟩
  · intro path target leads
    obtain ⟨host, port, rfl, names⟩ := ofPath_eq_ok_iff.mp leads
    have host_ne := names.host_ne
    obtain ⟨slashes, nonempty, segment_whole, digits_whole, spells, number, positive⟩ := names
    exact ⟨host, _, _, port, slashes, rfl, host_ne, positive, rfl, segment_whole, digits_whole,
      spells, number⟩

/-- A host of characters that all have a meaning in paths, one that is escaped in lower case, and a
port with a sign. -/
theorem escaped_slash_led_back :
    ofPath "/.well-known/masque/udp/a%2Fb%3A%25%C3%A9/65535//" = .ok (.datagram "a/b:%é" 65535) ∧
    ofPath "/.well-known/masque/udp/:%3a/53" = .ok (.datagram "::" 53) ∧
    ∃ host segment digits port slashes,
      Target.datagram "h" 53 = .datagram host port ∧ host ≠ "" ∧ port ≠ 0 ∧
      "/.well-known/masque/udp/h/+53/" = template segment digits slashes ∧
      Percent.decodeText? segment = some host := by
  obtain ⟨encoded, written, parted⟩ := target_templates_round_trip
  have own := encoded "a/b:%é" 65535 2 (by decide) (by decide) (by decide)
  have path_eq : template (Percent.encodeText "a/b:%é") (toString 65535) 2 =
      "/.well-known/masque/udp/a%2Fb%3A%25%C3%A9/65535//" := by decide +kernel
  rw [path_eq] at own
  have lower : Percent.Encodes (Octets.ofText "::") (Octets.ofText ":%3a") :=
    .plain (by decide) (.escaped (h := 3) (l := 10) (by decide) (by decide) .nil)
  refine ⟨own, written "::" ":%3a" 53 0 (by decide) lower (by decide) (by decide) (by decide), ?_⟩
  obtain ⟨host, segment, digits, port, slashes, named, host_ne, positive, path_eq, -, -, spells,
    -⟩ := parted "/.well-known/masque/udp/h/+53/" (.datagram "h" 53) (by decide +kernel)
  exact ⟨host, segment, digits, port, slashes, named, host_ne, positive, path_eq, spells⟩

end Tunnel.Target

end Tollgate
