import Tollgate.Gateway
import Tollgate.Proofs.Dns.Resolution
import Tollgate.Proofs.Dns.TokenPath
import Tollgate.Proofs.Text.Base64
import Tollgate.Proofs.Text.Form

/-!
# The same message in a GET and in a POST request

A message comes as the `dns` parameter of a GET request or as the body of a POST request. Padding of
the parameter is cut off and its encoding is read back, so both requests carry the same message, or
both are refused for its length. Nothing else tells them apart: the other parameters of a query
string are those of the other request, and all else that the gateway looks at is the same.
-/

namespace Tollgate

/-- The headers that a gateway reads of a request that is not for the ticket shop. -/
def Gateway.headersRead (gateway : Gateway) : List String :=
  ["host", "upgrade", "proxy-authorization"] ++ gateway.relayHeader.toList

theorem Text.Form.last?_append {name value : String} {after : List (String × String)}
    (others : ∀ pair ∈ after, pair.1 ≠ name) (before : List (String × String)) :
    last? name (before ++ (name, value) :: after) = some value := by
  have passed : after.reverse.find? (·.1 = name) = none := by
    simpa using others
  simp [last?, List.find?_append, passed]

namespace Dns.Doh

open Text (Form.IsPlain)

variable {gateway : Gateway} {message : Octets} {get post : Http.Request}

/-! ## The message -/

/-- The value of the `dns` parameter for a message, in which padding does not matter. -/
def parameterValue (message : Octets) (padding : Nat) : String :=
  Octets.asciiText
    (Text.Base64.encode .urlSafe message ++ List.replicate padding Text.Base64.padding)

/-- Query strings that have a parameter before or behind what another request has. -/
inductive Adds (parameter : String) : Option String → String → Prop where
  | alone : Adds parameter none parameter
  | before (query : String) : Adds parameter (some query) (parameter ++ "&" ++ query)
  | behind (query : String) : Adds parameter (some query) (query ++ "&" ++ parameter)

/-- A GET and a POST request to the same path that carry the same message, and have the same other
parameters and the same headers, as far as the gateway reads them. -/
structure CarryBoth (gateway : Gateway) (message : Octets) (get post : Http.Request) : Prop where
  getMethod : get.method = "GET"
  postMethod : post.method = "POST"
  body : post.body = message
  uri : ∃ padding query, get.uri = { post.uri with query := some query } ∧
    Adds ("dns=" ++ parameterValue message padding) post.uri.query query
  noOther : ∀ pair ∈ parameters post, pair.1 ≠ "dns"
  version : get.isHttp2 = post.isHttp2
  headers : ∀ name ∈ gateway.headersRead, get.headers.find? name = post.headers.find? name

theorem isPlain_of_mem {padding : Nat} {byte : UInt8}
    (mem : byte ∈ Text.Base64.encode .urlSafe message ++
      List.replicate padding Text.Base64.padding) : Form.IsPlain byte := by
  rcases List.mem_append.mp mem with mem | mem
  · obtain ⟨bits, sixBits, rfl⟩ := Text.Base64.exists_symbol_of_mem_encode mem
    have plain : ∀ bits < 64, Form.IsPlain (Text.Base64.symbol .urlSafe bits) := by decide
    exact plain bits sixBits
  · rw [List.eq_of_mem_replicate mem]
    decide

theorem pairs_parameterValue (message : Octets) (padding : Nat) :
    Text.Form.pairs ("dns=" ++ parameterValue message padding) =
      [("dns", parameterValue message padding)] := by
  have plainName : ∀ byte ∈ ([0x64, 0x6E, 0x73] : Octets), Form.IsPlain byte := by
    rw [List.forall_mem_cons, List.forall_mem_cons, List.forall_mem_singleton]
    decide
  have name : Octets.asciiText [0x64, 0x6E, 0x73] = "dns" := by decide
  have written (value : Octets) :
      Octets.asciiText ([0x64, 0x6E, 0x73] ++ 0x3D :: value) = "dns=" ++ Octets.asciiText value :=
    Octets.asciiText_append [0x64, 0x6E, 0x73, 0x3D] value
  rw [parameterValue, ← written, Text.Form.pairs_parameter plainName (by decide)
    fun byte mem => isPlain_of_mem mem, name]

/-- The encoding of a message is read back, whatever its padding is. -/
theorem ofParameter_parameterValue {padding : Nat} {before after : List (String × String)}
    (noOther : ∀ pair ∈ after, pair.1 ≠ "dns") :
    ofParameter (before ++ ("dns", parameterValue message padding) :: after) = ofBody message := by
  have octets : Octets.ofText (parameterValue message padding) =
      Text.Base64.encode .urlSafe message ++ List.replicate padding Text.Base64.padding :=
    Octets.ofText_asciiText fun byte mem => (isPlain_of_mem mem).ascii
  have absent : Text.Base64.padding ∉ Text.Base64.encode .urlSafe message := by
    intro mem
    obtain ⟨bits, sixBits, eq⟩ := Text.Base64.exists_symbol_of_mem_encode mem
    exact Text.Base64.symbol_ne_padding _ sixBits eq.symm
  rw [ofParameter, Text.Form.last?_append noOther]
  simp only [octets, Text.dropEndWhile_append_replicate, Text.dropEndWhile_eq_self absent,
    Text.Base64.decode_encode, ofBody]

namespace CarryBoth

/-- The query string of the GET request has the `dns` parameter among those of the other. -/
theorem exists_parameters (both : CarryBoth gateway message get post) :
    ∃ padding before after,
      parameters get = before ++ ("dns", parameterValue message padding) :: after ∧
        parameters post = before ++ after := by
  obtain ⟨padding, query, uri_eq, adds⟩ := both.uri
  have read : parameters get = Text.Form.pairs query := by
    simp [parameters, uri_eq]
  rw [read, parameters]
  generalize post.uri.query = other at adds
  refine ⟨padding, ?_⟩
  cases adds with
  | alone => exact ⟨[], [], pairs_parameterValue message padding, rfl⟩
  | before query =>
      refine ⟨[], Text.Form.pairs query, ?_, rfl⟩
      rw [Text.Form.pairs_append, pairs_parameterValue]
      rfl
  | behind query =>
      refine ⟨Text.Form.pairs query, [], ?_, (List.append_nil _).symm⟩
      rw [Text.Form.pairs_append, pairs_parameterValue]

theorem message?_eq (both : CarryBoth gateway message get post) : message? get = message? post := by
  obtain ⟨padding, before, after, ofGet, ofPost⟩ := both.exists_parameters
  have noOther : ∀ pair ∈ after, pair.1 ≠ "dns" := by
    intro pair mem
    apply both.noOther
    rw [ofPost]
    exact List.mem_append_right before mem
  simp only [message?, both.getMethod, both.postMethod, both.body, ofGet,
    ofParameter_parameterValue noOther]

/-- Both requests ask for blocked names to be answered as missing, or none does. -/
theorem asksNoAds_eq (both : CarryBoth gateway message get post) :
    (parameters get).any (·.1 = "noad") = (parameters post).any (·.1 = "noad") := by
  obtain ⟨padding, before, after, ofGet, ofPost⟩ := both.exists_parameters
  rw [ofGet, ofPost]
  simp

theorem serve_eq (both : CarryBoth gateway message get post) (token : Option String)
    (source : TokenSource) (peer : Address) (relayedFor : Option String) (now : Instant)
    (ledger : Ledger) :
    serve gateway.resolver gateway.recursor get token source peer relayedFor now ledger =
      serve gateway.resolver gateway.recursor post token source peer relayedFor now ledger := by
  simp only [serve, both.message?_eq, both.asksNoAds_eq]

/-! ## What else is looked at -/

theorem text?_eq (both : CarryBoth gateway message get post) {name : String}
    (read : name ∈ gateway.headersRead) :
    get.headers.text? name = post.headers.text? name := by
  rw [Http.Headers.text?, Http.Headers.text?, both.headers name read]

/-- A path that is written decides the same with a query string as without. -/
theorem path_eq (both : CarryBoth gateway message get post) (isQuery : (token? post).isSome) :
    get.uri.path = post.uri.path := by
  obtain ⟨padding, query, uri_eq, -⟩ := both.uri
  have nonempty : post.uri.rawPath ≠ "" := by
    intro empty
    have path : post.uri.path = "/" ∨ post.uri.path = "" := by
      rw [Http.Uri.path, empty]
      split
      · exact Or.inl rfl
      · exact Or.inr rfl
    have other : post.uri.path ≠ hostPath ∧ pathToken? post.uri.path = none := by
      rcases path with path | path <;> rw [path] <;> decide +kernel
    rw [token?, if_neg other.1, other.2] at isQuery
    cases isQuery
  rw [Http.Uri.path_of_ne_empty nonempty, uri_eq]
  exact Http.Uri.path_of_ne_empty nonempty

theorem token?_eq (both : CarryBoth gateway message get post) (isQuery : (token? post).isSome) :
    token? get = token? post := by
  obtain ⟨padding, query, uri_eq, -⟩ := both.uri
  have host : get.host? = post.host? := by
    rw [Http.Request.host?, Http.Request.host?, both.text?_eq (by simp [Gateway.headersRead]),
      uri_eq]
    rfl
  rw [token?, token?, both.path_eq isQuery, host]

theorem asksForDatagrams_eq (both : CarryBoth gateway message get post) :
    Tunnel.asksForDatagrams get = Tunnel.asksForDatagrams post := by
  have upgrade : get.headers.text? "upgrade" = post.headers.text? "upgrade" :=
    both.text?_eq (by simp [Gateway.headersRead])
  simp [Tunnel.asksForDatagrams, both.getMethod, both.postMethod, upgrade]

theorem asksForTunnel_eq (both : CarryBoth gateway message get post) :
    Tunnel.asksForTunnel get = Tunnel.asksForTunnel post := by
  simp [Tunnel.asksForTunnel, both.getMethod, both.postMethod, both.asksForDatagrams_eq]

/-- Either request is given the same tunnel, should it ask for one. -/
theorem openFor_eq (both : CarryBoth gateway message get post) (isQuery : (token? post).isSome)
    (asks : Tunnel.asksForTunnel post = true) (now : Instant) (ledger : Ledger) :
    Tunnel.openFor gateway.reaches get now ledger =
      Tunnel.openFor gateway.reaches post now ledger := by
  have datagrams : Tunnel.asksForDatagrams post = true := by
    simpa [Tunnel.asksForTunnel, both.postMethod] using asks
  have target : Tunnel.targetOf get = Tunnel.targetOf post := by
    rw [Tunnel.targetOf, Tunnel.targetOf, both.asksForDatagrams_eq, if_pos datagrams,
      if_pos datagrams, both.path_eq isQuery]
  have token : Tunnel.proxyToken? get.headers = Tunnel.proxyToken? post.headers := by
    rw [Tunnel.proxyToken?, Tunnel.proxyToken?, both.text?_eq (by simp [Gateway.headersRead])]
  simp only [Tunnel.openFor, Tunnel.admission, token, target, both.version]

theorem relayedFor_eq (both : CarryBoth gateway message get post) :
    gateway.relayHeader.bind get.headers.text? = gateway.relayHeader.bind post.headers.text? := by
  cases header : gateway.relayHeader with
  | none => rfl
  | some name => exact both.text?_eq (by simp [Gateway.headersRead, header])

end CarryBoth

/-- A message is served in the same way whether it comes in a GET or in a POST request: the response
is the same, and so are the ledger and what was forwarded. -/
theorem get_served_as_post (gateway : Gateway) (message : Octets) (get post : Http.Request)
    (both : CarryBoth gateway message get post) (isQuery : (token? post).isSome)
    (peer : Address) (random : Octets) (now : Instant) (ledger : Ledger) :
    gateway.route get peer random now ledger = gateway.route post peer random now ledger := by
  have dispatched :
      gateway.dispatch get peer random now ledger =
        gateway.dispatch post peer random now ledger := by
    rw [Gateway.dispatch, Gateway.dispatch, both.asksForTunnel_eq, both.token?_eq isQuery]
    split
    next asks => rw [both.openFor_eq isQuery asks]
    next =>
        obtain ⟨⟨token, source⟩, carried⟩ := Option.isSome_iff_exists.mp isQuery
        simp only [carried, both.serve_eq, both.relayedFor_eq]
  rw [Gateway.route, Gateway.route, dispatched]

/-- A gateway without a ticket shop and without a relay. -/
def plainGateway : Gateway where
  resolver := Resolver.plainResolver
  recursor := fun _ => some [1, 2, 3]
  shop := ⟨none, 1024⟩
  reaches := fun _ => true
  relayHeader := none
  altSvc := none

/-- A query of nineteen octets in the body of a request. -/
def postedQuery : Http.Request where
  method := "POST"
  uri := ⟨none, none, "/dns/a", some "noad"⟩
  isHttp2 := true
  headers := [("content-type", Octets.ofText contentType)]
  protocol := none
  body := Resolver.relayedQuery.message

def paddedQuery : Http.Request where
  method := "GET"
  uri := ⟨none, none, "/dns/a", some "dns=AGMBAAABAAAAAAAAAXgAAAEAAQ==&noad"⟩
  isHttp2 := true
  headers := []
  protocol := none
  body := []

/-- A padded query is forwarded, as one in a body is. -/
theorem padded_query_served :
    plainGateway.route paddedQuery (.v4 0x0A000001) [] 2 (.store Resolver.fiveBytes) =
        plainGateway.route postedQuery (.v4 0x0A000001) [] 2 (.store Resolver.fiveBytes) ∧
      (plainGateway.route postedQuery (.v4 0x0A000001) [] 2
        (.store Resolver.fiveBytes)).forwarded.isSome = true := by
  have query : "dns=" ++ parameterValue postedQuery.body 2 ++ "&" ++ "noad" =
      "dns=AGMBAAABAAAAAAAAAXgAAAEAAQ==&noad" := by decide +kernel
  have isQuery : (token? postedQuery).isSome = true := by decide +kernel
  have flag : parameters postedQuery = [("noad", "")] := by decide +kernel
  have both : CarryBoth plainGateway postedQuery.body paddedQuery postedQuery := {
    getMethod := rfl
    postMethod := rfl
    body := rfl
    uri := ⟨2, _, rfl, query ▸ .before "noad"⟩
    noOther := by
      rw [flag]
      decide
    version := rfl
    headers := by decide }
  refine ⟨get_served_as_post plainGateway _ _ _ both isQuery _ _ _ _, ?_⟩
  decide +kernel

end Dns.Doh

end Tollgate
