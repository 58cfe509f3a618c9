import Tollgate.Dns.Discovery
import Tollgate.Http.Message
import Tollgate.Proofs.Dns.LabelText
import Tollgate.Proofs.Text.Case
import Tollgate.Text.Idna.Scripts

/-!
# The token in the name of an endpoint

A client that is told an endpoint for DNS over TLS presents its name there, and the leftmost label
is taken for the token. A token that came in a path is put in front of the server for this. One that
came in the host name is expected there, and taken off for the endpoint of DNS over HTTPS; if the
server in question does not start with it, it is not put there.
-/

namespace Tollgate

/-! ## Leftmost labels -/

namespace Http

/-- A label ends at a dot or at a colon. -/
theorem cut_eq (text : List Char) :
    Text.before '.' (Text.before ':' text) =
      text.takeWhile fun c => decide (c ≠ '.') && decide (c ≠ ':') := by
  rw [Text.before, Text.before, List.takeWhile_takeWhile]
  simp

/-- What follows the dot behind a label does not change the leftmost label. -/
theorem leftmostLabel?_append (label rest : List Char) :
    leftmostLabel? (String.ofList (label ++ '.' :: rest)) =
      leftmostLabel? (String.ofList label) := by
  have same : Text.before '.' (Text.before ':' (label ++ '.' :: rest)) =
      Text.before '.' (Text.before ':' label) := by
    rw [cut_eq, cut_eq]
    exact Text.takeWhile_append_cons (by decide) label rest
  simp only [leftmostLabel?, String.toList_ofList, same]

/-- The case of ASCII letters may be lowered before or after a label is cut off. -/
theorem leftmostLabel?_lowered (host : String) :
    leftmostLabel? (Text.lowered host) = (leftmostLabel? host).map Text.lowered := by
  have same : Text.before '.' (Text.before ':' (host.toList.map Char.toLower)) =
      (Text.before '.' (Text.before ':' host.toList)).map Char.toLower := by
    rw [cut_eq, cut_eq, List.takeWhile_map]
    congr 2
    funext c
    have dot : c.toLower = '.' ↔ c = '.' := Text.toLower_eq_iff (by decide)
    have colon : c.toLower = ':' ↔ c = ':' := Text.toLower_eq_iff (by decide)
    simp [dot, colon]
  rw [leftmostLabel?, leftmostLabel?, Text.lowered, String.toList_ofList, same]
  cases Text.before '.' (Text.before ':' host.toList) with
  | nil => rfl
  | cons first rest => simp [Text.lowered]

end Http

namespace Dns

variable {name server : Name} {token : String} {source : TokenSource} {endpoints : Endpoints}
variable {idna : Text.Idna}

/-! ## Names that start with a token -/

/-- The first label of a name is the token, whatever the case of ASCII letters. -/
def Name.StartsWith (name : Name) (token : String) : Prop :=
  ∃ label rest, name.labels = label :: rest ∧ label.lower = Label.lower (Octets.ofText token)

theorem Name.startsWith_iff :
    name.StartsWith token ↔
      name.labels.head?.any (Label.same (Octets.ofText token)) = true := by
  rw [StartsWith]
  cases name.labels with
  | nil => simp
  | cons label rest =>
      simp only [List.cons.injEq, List.head?_cons, Option.any_some, Label.same, decide_eq_true_eq]
      constructor
      · rintro ⟨_, _, ⟨rfl, rfl⟩, same⟩
        exact same.symm
      · exact fun same => ⟨label, rest, ⟨rfl, rfl⟩, same.symm⟩

/-- What a client presents to the server of a name: the labels with dots between them. -/
def Name.hostName (name : Name) : String := ".".intercalate (name.labels.map Octets.asciiText)

/-- The leftmost label that a client presents is in the first label. -/
theorem Name.leftmostLabel?_of_labels {label : Label} {rest : List Label}
    (labels_eq : name.labels = label :: rest) :
    Http.leftmostLabel? name.hostName = Http.leftmostLabel? (Octets.asciiText label) := by
  rw [hostName, labels_eq, List.map_cons]
  cases rest with
  | nil => rw [List.map_nil, String.intercalate_singleton]
  | cons next rest =>
      have dotted : ".".intercalate (Octets.asciiText label ::
            (next :: rest).map Octets.asciiText) =
          String.ofList ((Octets.asciiText label).toList ++
            '.' :: (".".intercalate ((next :: rest).map Octets.asciiText)).toList) := by
        apply String.toList_inj.mp
        rw [String.intercalate_cons_of_ne_nil (by simp)]
        simp
      rw [dotted, Http.leftmostLabel?_append, String.ofList_toList]

/-- A client of a name that starts with an ASCII token presents the token, or of a token with dots
what stands in front of the first one. -/
theorem Name.StartsWith.leftmostLabel?_hostName (starts : name.StartsWith token)
    (ascii : ∀ c ∈ token.toList, c.toNat < 128) :
    (Http.leftmostLabel? name.hostName).map Text.lowered =
      (Http.leftmostLabel? token).map Text.lowered := by
  obtain ⟨label, rest, labels_eq, same⟩ := starts
  have chars : Text.lowered (Octets.asciiText label) = Text.lowered token := by
    have octets := congrArg Octets.asciiText same
    rwa [Label.asciiText_lower, Label.asciiText_lower, Octets.asciiText_ofText ascii] at octets
  rw [Name.leftmostLabel?_of_labels labels_eq, ← Http.leftmostLabel?_lowered,
    ← Http.leftmostLabel?_lowered, chars]

/-! ## Endpoints -/

/-- The TLS endpoint has the token as its first label, and the HTTPS endpoint is the same name
without that label. -/
structure Endpoints.Carry (endpoints : Endpoints) (token : String) : Prop where
  startsWith : endpoints.tls.StartsWith token
  labels_eq : endpoints.https.labels = endpoints.tls.labels.tail

namespace Discovery

theorem endpoints?_path_eq_some_iff :
    endpoints? idna server token .path = some endpoints ↔
      ∃ label, Label.ofText? idna token.toList = some label ∧
        Name.fits (label :: server.labels) = true ∧
        endpoints = ⟨server, { server with labels := label :: server.labels }⟩ := by
  simp only [endpoints?, Name.prepend?, Name.child?, Option.map_eq_some_iff, Option.bind_eq_bind,
    Option.bind_eq_some_iff, Option.ite_none_right_eq_some, Option.some.injEq]
  constructor
  · rintro ⟨_, ⟨label, typed, fits, rfl⟩, rfl⟩
    exact ⟨label, typed, fits, rfl⟩
  · rintro ⟨label, typed, fits, rfl⟩
    exact ⟨_, ⟨label, typed, fits, rfl⟩, rfl⟩

/-- A token from the path becomes the first label of the TLS endpoint. -/
theorem carry_of_path (found : endpoints? idna server token .path = some endpoints)
    (ascii : ∀ c ∈ token.toList, c.toNat < 128) : endpoints.Carry token := by
  obtain ⟨label, typed, -, rfl⟩ := endpoints?_path_eq_some_iff.mp found
  refine ⟨⟨label, server.labels, rfl, ?_⟩, rfl⟩
  rw [Label.lower_of_ofText? ascii typed, Octets.ofText_of_ascii ascii]

open Classical in
theorem endpoints?_host :
    endpoints? idna server token .host =
      some ⟨if server.StartsWith token then server.parent else server, server⟩ := by
  simp only [endpoints?, Name.startsWith_iff]

/-- A token from the host name is found in the server, or in neither endpoint. -/
theorem carry_iff_of_host (found : endpoints? idna server token .host = some endpoints) :
    endpoints.Carry token ↔ server.StartsWith token := by
  rw [endpoints?_host] at found
  obtain rfl := Option.some.inj found
  constructor
  · exact Endpoints.Carry.startsWith
  · intro starts
    refine ⟨starts, ?_⟩
    rw [if_pos starts, Name.parent, List.drop_one]

theorem absolute_of_endpoints? (found : endpoints? idna server token source = some endpoints)
    (absolute : server.absolute = true) :
    endpoints.https.absolute = true ∧ endpoints.tls.absolute = true := by
  cases source with
  | path =>
      obtain ⟨label, -, -, rfl⟩ := endpoints?_path_eq_some_iff.mp found
      exact ⟨absolute, absolute⟩
  | host =>
      rw [endpoints?_host] at found
      obtain rfl := Option.some.inj found
      refine ⟨?_, absolute⟩
      dsimp only
      split
      next => rfl
      next => exact absolute

/-- Which endpoints carry the token, as long as it is ASCII where it came in the path. With a token
from the path, the HTTPS endpoint is the server and the TLS endpoint carries the token in front of
it. With one from the host name, the TLS endpoint is the server, which carries the token if that is
its first label, and otherwise both endpoints are the server. Where the token is carried, a client
of the TLS endpoint presents the leftmost label of the token as its own. -/
theorem endpoints_carry_token_iff (found : endpoints? idna server token source = some endpoints) :
    ((source = .path → ∀ c ∈ token.toList, c.toNat < 128) →
      (endpoints.Carry token ↔ source = .path ∨ server.StartsWith token)) ∧
    (source = .path → endpoints.https = server) ∧
    (source = .host → endpoints.tls = server ∧
      (¬ server.StartsWith token → endpoints.https = server)) ∧
    (server.absolute = true → endpoints.https.absolute = true ∧ endpoints.tls.absolute = true) ∧
    (endpoints.Carry token → (∀ c ∈ token.toList, c.toNat < 128) →
      (Http.leftmostLabel? endpoints.tls.hostName).map Text.lowered =
        (Http.leftmostLabel? token).map Text.lowered) := by
  refine ⟨?_, ?_, ?_, absolute_of_endpoints? found,
    fun carried ascii => carried.startsWith.leftmostLabel?_hostName ascii⟩
  · intro ascii
    cases source with
    | path => simp [carry_of_path found (ascii rfl)]
    | host => simp [carry_iff_of_host found]
  · rintro rfl
    obtain ⟨label, -, -, rfl⟩ := endpoints?_path_eq_some_iff.mp found
    rfl
  · rintro rfl
    rw [endpoints?_host] at found
    obtain rfl := Option.some.inj found
    exact ⟨rfl, fun other => if_neg other⟩

/-- The name `dns.example.`, below some labels. -/
def exampleServer (below : List String) : Name :=
  ⟨(below ++ ["dns", "example"]).map Octets.ofText, true⟩

/-- The token `tok` in the path is put in front of the server, and clients present it. -/
theorem tok_put_in_front :
    ∃ endpoints, endpoints? .scripts (exampleServer []) "tok" .path = some endpoints ∧
      endpoints.Carry "tok" ∧ endpoints.https = exampleServer [] ∧
      (Http.leftmostLabel? endpoints.tls.hostName).map Text.lowered = some "tok" := by
  have some_endpoints : (endpoints? .scripts (exampleServer []) "tok" .path).isSome = true := by
    decide +kernel
  obtain ⟨endpoints, found⟩ := Option.isSome_iff_exists.mp some_endpoints
  obtain ⟨carry_iff, https_eq, -, -, presented⟩ := endpoints_carry_token_iff found
  have ascii : ∀ c ∈ "tok".toList, c.toNat < 128 := by simp
  have carried := (carry_iff fun _ => ascii).mpr (Or.inl rfl)
  refine ⟨endpoints, found, carried, https_eq rfl, (presented carried ascii).trans ?_⟩
  decide +kernel

/-- A server that does not start with the token of the host name is both endpoints, and neither has
the token. The token `é` of a path is put in front of the server in its Punycode form. -/
theorem tokens_not_carried :
    (endpoints? .scripts (exampleServer []) "tok" .host =
        some ⟨exampleServer [], exampleServer []⟩ ∧
      ¬ (exampleServer []).StartsWith "tok" ∧
      ¬ (⟨exampleServer [], exampleServer []⟩ : Endpoints).Carry "tok") ∧
    (endpoints? .scripts (exampleServer []) "é" .path =
        some ⟨exampleServer [], exampleServer ["xn--9ca"]⟩ ∧
      ¬ (⟨exampleServer [], exampleServer ["xn--9ca"]⟩ : Endpoints).Carry "é") := by
  have other : ¬ (exampleServer []).StartsWith "tok" := by
    rw [Name.startsWith_iff]
    decide +kernel
  have encoded : ¬ (exampleServer ["xn--9ca"]).StartsWith "é" := by
    rw [Name.startsWith_iff]
    decide +kernel
  exact ⟨⟨by decide +kernel, other, fun carried => other carried.startsWith⟩, by decide +kernel,
    fun carried => encoded carried.startsWith⟩

end Discovery

end Dns

end Tollgate
