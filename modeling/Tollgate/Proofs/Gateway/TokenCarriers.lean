import Tollgate.Proofs.Dns.GetAndPost
import Tollgate.Proofs.Tickets.Listing
import Tollgate.Proofs.Tickets.OrderNumber
import Tollgate.Proofs.Tunnel.Credentials

/-!
# One token in every carrier

A token comes in a path, in a host name, in proxy credentials, in an order number or in the path of
a listing, and each of these is taken apart in its own way. What they split at, trim or decode does
not occur in the tokens that the shop makes, nor in any label of lower-case letters and digits. So
such a token is the same for all of them.
-/

namespace Tollgate

/-- Characters of the tokens that the shop makes. -/
def isPlainChar (c : Char) : Bool := c.isLower || c.isDigit

/-- A label of lower-case letters and digits. -/
structure PlainToken where
  text : String
  nonempty : text ≠ ""
  short : text.toList.length ≤ 63
  plain : ∀ c ∈ text.toList, isPlainChar c = true

theorem isGraphic_of_isPlainChar {c : Char} (plain : isPlainChar c = true) : Text.IsGraphic c := by
  rcases Bool.or_eq_true_iff.mp plain with lower | digit
  · obtain ⟨first, last⟩ := Bool.and_eq_true_iff.mp lower
    exact ⟨Nat.le_trans (by decide) (of_decide_eq_true first),
      Nat.lt_of_le_of_lt (of_decide_eq_true last) (by decide)⟩
  · obtain ⟨first, last⟩ := Char.isDigit_iff_toNat.mp digit
    exact ⟨Nat.le_trans (by decide) first, Nat.lt_of_le_of_lt last (by decide)⟩

namespace PlainToken

variable {separator : Char}

/-- A token has none of the characters that carriers give a meaning to. -/
theorem not_mem (token : PlainToken) (meaningful : isPlainChar separator = false) :
    separator ∉ token.text.toList := by
  intro mem
  rw [token.plain separator mem] at meaningful
  cases meaningful

theorem before_append (token : PlainToken) (meaningful : isPlainChar separator = false)
    (rest : List Char) :
    Text.before separator (token.text.toList ++ separator :: rest) = token.text.toList :=
  (Text.before_append token.text.toList rest).trans
    (Text.before_eq_self_iff.mpr (token.not_mem meaningful))

theorem toList_ne_nil (token : PlainToken) : token.text.toList ≠ [] :=
  mt String.toList_eq_nil_iff.mp token.nonempty

/-! ## Paths -/

theorem meaning_text (token : PlainToken) : Text.Percent.meaning token.text = token.text := by
  apply Text.Percent.meaning_eq_self_iff.mpr
  intro escaped
  refine absurd escaped (Text.Percent.not_hasEscape_of_ascii ?_ (token.not_mem (by decide)))
  exact fun c mem => (isGraphic_of_isPlainChar (token.plain c mem)).ascii

theorem pathToken?_append (token : PlainToken) (slashes : Nat) :
    Dns.Doh.pathToken?
        (Dns.Doh.tokenPath ++ (token.text ++ String.ofList (List.replicate slashes '/'))) =
      some token.text := by
  have noSlash : '/' ∉ token.text.toList := token.not_mem (by decide)
  have bare : Text.dropEndWhile (· = '/')
      (token.text ++ String.ofList (List.replicate slashes '/')).toList = token.text.toList := by
    rw [String.toList_append, String.toList_ofList, Text.dropEndWhile_append_replicate,
      Text.dropEndWhile_eq_self noSlash]
  rw [Dns.Doh.pathToken?_tokenPath_append, bare, if_neg (by simp [token.toList_ne_nil, noSlash]),
    String.ofList_toList, token.meaning_text]

/-! ## Hosts -/

/-- The host of a token below a suffix, perhaps with a port. -/
def host (token : PlainToken) (suffix : String) (port : Option Nat) : String :=
  token.text ++ "." ++ suffix ++ (port.map fun number => ":" ++ toString number).getD ""

theorem toList_host (token : PlainToken) (suffix : String) (port : Option Nat) :
    (token.host suffix port).toList = token.text.toList ++ '.' :: (suffix.toList ++
      ((port.map fun number => ":" ++ toString number).getD "").toList) := by
  simp [host]

/-- A port is cut off behind the dot of a token. -/
theorem before_colon (token : PlainToken) (rest : List Char) :
    Text.before ':' (token.text.toList ++ '.' :: rest) =
      token.text.toList ++ '.' :: Text.before ':' rest := by
  have noColon : ∀ c ∈ token.text.toList, decide (c ≠ ':') = true := by
    intro c mem
    apply decide_eq_true
    rintro rfl
    exact token.not_mem (by decide) mem
  rw [Text.before, List.takeWhile_append_of_pos noColon, List.takeWhile_cons_of_pos (by decide),
    Text.before]

/-- Whatever follows its dot, a token is the first label. -/
theorem leftmostLabel?_of_toList (token : PlainToken) {host : String} {rest : List Char}
    (starts : host.toList = token.text.toList ++ '.' :: rest) :
    Http.leftmostLabel? host = some token.text := by
  rw [Http.leftmostLabel?, starts, token.before_colon, token.before_append (by decide)]
  split
  next empty => exact absurd empty token.toList_ne_nil
  next => rw [String.ofList_toList]

/-- The host of an authority without user information begins as the authority does. -/
theorem host?_of_authority (token : PlainToken) {uri : Http.Uri} {authority : String}
    {rest : List Char} (named : uri.authority = some authority)
    (starts : authority.toList = token.text.toList ++ '.' :: rest)
    (noUser : '@' ∉ authority.toList) :
    uri.host? = some (String.ofList (token.text.toList ++ '.' :: Text.before ':' rest)) := by
  have whole : Text.afterLast '@' authority.toList = authority.toList :=
    Text.afterLast_eq_self noUser
  -- In brackets the host would be an IPv6 address, and a colon no sign of a port.
  have noBracket : ¬ authority.toList.head? = some '[' := by
    obtain ⟨first, later, chars⟩ := List.exists_cons_of_ne_nil token.toList_ne_nil
    rw [starts, chars, List.cons_append, List.head?_cons, Option.some.injEq]
    rintro rfl
    exact token.not_mem (by decide) (chars ▸ List.mem_cons_self)
  rw [Http.Uri.host?, named, Option.map_some]
  dsimp only
  rw [whole, if_neg noBracket, starts, token.before_colon]

/-- The target of a request names a host, or else its first `host` header does. -/
inductive Names (request : Http.Request) (host : String) : Prop where
  | target (authority : request.uri.authority = some host)
  | header (noAuthority : request.uri.authority = none)
      (header : request.headers.find? "host" = some (Octets.ofText host))

/-- Suffixes of host names: visible ASCII without the sign behind user information. -/
def IsHostSuffix (suffix : String) : Prop := ∀ c ∈ suffix.toList, Text.IsGraphic c ∧ c ≠ '@'

theorem isHostSuffix_port (port : Option Nat) :
    IsHostSuffix ((port.map fun number => ":" ++ toString number).getD "") := by
  intro c mem
  cases port with
  | none => cases mem
  | some number =>
      change c ∈ (":" ++ toString number).toList at mem
      rw [String.toList_append] at mem
      rcases List.mem_append.mp mem with colon | inNumber
      · obtain rfl : c = ':' := List.mem_singleton.mp colon
        decide
      · have digit : c.isDigit = true := by
          rw [Nat.toString_eq_repr, Nat.toList_repr] at inNumber
          exact Nat.isDigit_of_mem_toDigits (by decide) (by decide) inNumber
        have plain : isPlainChar c = true := by rw [isPlainChar, digit, Bool.or_true]
        refine ⟨isGraphic_of_isPlainChar plain, ?_⟩
        rintro rfl
        cases plain

theorem isHostSuffix_host (token : PlainToken) {suffix : String} (isSuffix : IsHostSuffix suffix)
    (port : Option Nat) : IsHostSuffix (token.host suffix port) := by
  intro c mem
  rw [toList_host] at mem
  rcases List.mem_append.mp mem with inToken | mem
  · refine ⟨isGraphic_of_isPlainChar (token.plain c inToken), ?_⟩
    rintro rfl
    exact token.not_mem (by decide) inToken
  · rcases List.mem_cons.mp mem with rfl | mem
    · decide
    · rcases List.mem_append.mp mem with inSuffix | inPort
      · exact isSuffix c inSuffix
      · exact isHostSuffix_port port c inPort

theorem leftmostLabel?_of_names (token : PlainToken) {request : Http.Request} {suffix : String}
    {port : Option Nat} (isSuffix : IsHostSuffix suffix)
    (names : Names request (token.host suffix port)) :
    request.host?.bind Http.leftmostLabel? = some token.text := by
  have starts := token.toList_host suffix port
  have legal := token.isHostSuffix_host isSuffix port
  cases names with
  | header noAuthority header =>
      have readable := Http.Headers.text?_ofText header fun c mem => Or.inr (legal c mem).1
      rw [Http.Request.host?, Http.Uri.host?, noAuthority, Option.map_none, readable,
        Option.orElse_apply, Option.orElse_none, Option.bind_some]
      exact token.leftmostLabel?_of_toList starts
  | target authority =>
      have noUser : '@' ∉ (token.host suffix port).toList := fun mem => (legal '@' mem).2 rfl
      rw [Http.Request.host?, token.host?_of_authority authority starts noUser,
        Option.orElse_apply, Option.orElse_some, Option.bind_some]
      exact token.leftmostLabel?_of_toList String.toList_ofList

/-! ## The shop -/

/-- Lower-case letters and digits are all that is left of the symbols for URLs. -/
theorem isPlainChar_of_symbol {bits : Nat} (sixBits : bits < 64) :
    let c := (Char.ofNat (Text.Base64.symbol .urlSafe bits).toNat).toLower
    isPlainChar (if c = '-' ∨ c = '_' then 'z' else c) = true := by
  revert bits
  decide

/-- A fresh token of sixteen octets is plain. -/
def fresh (random : Octets) (sixteen : random.length = 16) : PlainToken where
  text := Tickets.tokenOfRandom random
  nonempty := by
    intro empty
    have length_eq := congrArg (·.toList.length) empty
    simp [Tickets.tokenOfRandom, Text.Base64.length_encode, sixteen] at length_eq
  short := by
    simp [Tickets.tokenOfRandom, Text.Base64.length_encode, sixteen]
  plain := by
    intro c mem
    rw [Tickets.tokenOfRandom, String.toList_ofList] at mem
    obtain ⟨byte, isByte, rfl⟩ := List.mem_map.mp mem
    obtain ⟨bits, sixBits, rfl⟩ := Text.Base64.exists_symbol_of_mem_encode isByte
    exact isPlainChar_of_symbol sixBits

theorem tokenOf_append (token : PlainToken) (suffix : String) :
    Tickets.Order.tokenOf (token.text ++ "@" ++ suffix) = token.text := by
  have split : (token.text ++ "@" ++ suffix).toList =
      token.text.toList ++ '@' :: suffix.toList := by
    rw [String.toList_append, String.toList_append, List.append_assoc]
    rfl
  rw [Tickets.Order.tokenOf, split, token.before_append (by decide), String.ofList_toList]

end PlainToken

/-- A token of up to 63 lower-case letters and digits is the same for all that reads it, and the
shop makes no others: as the segment behind `/dns/`, with slashes behind it or without, as the first
label of a host with any suffix, with a port or without, as the user of basic credentials with any
password, in front of the `@` of an order number, and as the segment of a listing. -/
theorem plain_token_in_every_carrier :
    (∀ random, random.length = 16 →
        ∃ token : PlainToken, token.text = Tickets.tokenOfRandom random) ∧
      ∀ token : PlainToken,
        (∀ (request : Http.Request) (slashes : Nat),
          request.uri.path = Dns.Doh.tokenPath ++
            (token.text ++ String.ofList (List.replicate slashes '/')) →
          Dns.Doh.token? request = some (some token.text, .path)) ∧
        (∀ (request : Http.Request) (suffix : String) (port : Option Nat),
          request.uri.path = Dns.Doh.hostPath → PlainToken.IsHostSuffix suffix →
          PlainToken.Names request (token.host suffix port) →
          Dns.Doh.token? request = some (some token.text, .host)) ∧
        (∀ (headers : Http.Headers) (scheme password : String), Tunnel.IsBasic scheme →
          headers.find? "proxy-authorization" =
            some (Octets.ofText (Tunnel.basicHeader scheme token.text password)) →
          Tunnel.proxyToken? headers = some token.text) ∧
        (∀ suffix, Tickets.Order.tokenOf (token.text ++ "@" ++ suffix) = token.text) ∧
        Tickets.Shop.tokenOfPath (Tickets.path ++ token.text) = token.text ∧
        ∀ (shop : Tickets.Shop) (request : Http.Request) (random : Octets) (now : Instant)
          (ledger : Ledger), request.method = "GET" →
          request.uri.path = Tickets.path ++ token.text →
          (shop.serve request random now ledger).response =
            some (Tickets.Shop.list token.text now ledger) := by
  refine ⟨fun random sixteen => ⟨.fresh random sixteen, rfl⟩, fun token => ⟨?_, ?_, ?_, ?_, ?_, ?_⟩⟩
  · intro request slashes path
    rw [Dns.Doh.token?_of_tokenPath path, token.pathToken?_append, Option.map_some]
  · intro request suffix port path isSuffix names
    rw [Dns.Doh.token?, if_pos path, token.leftmostLabel?_of_names isSuffix names]
  · intro headers scheme password basic sent
    exact Tunnel.proxyToken?_basicHeader basic token.nonempty (token.not_mem (by decide)) password
      sent
  · exact token.tokenOf_append
  · exact Tickets.Shop.tokenOfPath_of_segment (token.not_mem (by decide))
  · intro shop request random now ledger gets path
    rw [Tickets.Shop.serve, gets, path,
      Tickets.Shop.tokenOfPath_of_segment (token.not_mem (by decide))]
    rfl

def PlainToken.tok : PlainToken :=
  ⟨"tok", by decide, by decide, List.all_iff_forall_prop.mp (by decide)⟩

/-- All that is sent for `tok` is taken for it. -/
theorem tok_in_every_carrier :
    Dns.Doh.token? (Tickets.Shop.visit "/dns/tok//") = some (some "tok", .path) ∧
      Dns.Doh.token? { Tickets.Shop.visit "/dns-query" with
        headers := [("host", Octets.ofText "tok.gw.example:8443")] } =
          some (some "tok", .host) ∧
      Tunnel.proxyToken? [("proxy-authorization", Octets.ofText "bASIC dG9rOnA6cQ==")] =
        some "tok" ∧
      Tickets.Order.tokenOf "tok@2024-05-01T10:00:00Z" = "tok" ∧
      Tickets.Shop.tokenOfPath "/ticket/tok" = "tok" ∧
      ∀ random now ledger,
        (Tickets.Shop.closedShop.serve (Tickets.Shop.visit "/ticket/tok") random now
          ledger).response = some (Tickets.Shop.list "tok" now ledger) := by
  obtain ⟨inPath, inHost, inCredentials, inOrder, inSegment, inListing⟩ :=
    plain_token_in_every_carrier.2 PlainToken.tok
  refine ⟨inPath _ 2 rfl, ?_, ?_, ?_, inSegment, ?_⟩
  · have isSuffix : PlainToken.IsHostSuffix "gw.example" :=
      List.all_iff_forall_prop.mp (by decide)
    have host_eq : PlainToken.tok.host "gw.example" (some 8443) = "tok.gw.example:8443" := by
      rw [← String.toList_inj, PlainToken.toList_host, Option.map_some, Option.getD_some,
        String.toList_append, Nat.toString_eq_repr, Nat.toList_repr]
      decide
    refine inHost _ "gw.example" (some 8443) rfl isSuffix (.header rfl ?_)
    rw [host_eq]
    rfl
  · exact inCredentials _ "bASIC" "p:q" (by rw [Tunnel.IsBasic]; decide) (by decide +kernel)
  · exact inOrder "2024-05-01T10:00:00Z"
  · exact fun random now ledger => inListing _ _ random now ledger rfl rfl

end Tollgate
