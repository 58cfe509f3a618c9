import Mathlib.Tactic.ByContra
import Mathlib.Tactic.MkIffOfInductiveProp
import Tollgate.Cli.Startup

/-!
# Starting with valid settings

Settings are validated before anything is opened. Of what a start makes of the settings alone,
validation covers the paths of the certificate and of the key, and leaves out the two headers: their
texts are looked at when the ledger is open already. So valid settings fail only for the files
around the gateway exactly if both headers are legal.
-/

namespace Tollgate

/-! ## Legal headers -/

namespace Http

/-- A header name is a token of at most 65535 octets. -/
def IsHeaderName (text : String) : Prop :=
  text ≠ "" ∧ text.utf8ByteSize ≤ 65535 ∧ ∀ c ∈ text.toList, isTokenChar c = true

/-- The text of a header value has no control characters but tabs. -/
def IsHeaderText (text : String) : Prop :=
  ∀ byte ∈ Octets.ofText text, byte = 0x09 ∨ 0x20 ≤ byte ∧ byte ≠ 0x7F

theorem headerName?_isSome_iff {text : String} :
    (headerName? text).isSome = true ↔ IsHeaderName text := by
  simp only [headerName?, IsHeaderName, maxHeaderNameLength, ← List.all_eq_true, ne_eq,
    ← String.isEmpty_iff]
  cases text.isEmpty <;> cases text.toList.all isTokenChar <;>
    by_cases short : text.utf8ByteSize ≤ 65535 <;> simp [short]

theorem isHeaderValue_iff {text : String} :
    isHeaderValue (Octets.ofText text) = true ↔ IsHeaderText text := by
  unfold isHeaderValue IsHeaderText
  grind

instance (text : String) : Decidable (IsHeaderName text) :=
  decidable_of_iff _ headerName?_isSome_iff

instance (text : String) : Decidable (IsHeaderText text) :=
  decidable_of_iff _ isHeaderValue_iff

end Http

namespace Cli

variable {files : Files} {config : Config} {error : StartError}

/-- The headers that settings name are legal ones. -/
@[mk_iff]
structure HeadersLegal (config : Config) : Prop where
  failoverHeader : Http.IsHeaderName config.resolver.failoverHeader
  altSvc : ∀ text ∈ config.server.altSvc, Http.IsHeaderText text

/-- Whether a start fails for something around the gateway: a file, or a store. -/
def StartError.IsOutside : StartError → Prop
  | .notLoaded _ | .ledger _ | .identity _ => True
  | .invalid _ | .notPrintable | .headerName | .headerValue | .pathNotSet _ => False

def Files.pem (files : Files) (path : String) : Tls.PemFile :=
  ⟨path, (files.content? path).map Octets.ofText⟩

/-- The files hold an identity where the settings say. -/
def Files.HoldIdentity (files : Files) (settings : Config.ServerSettings)
    (protocols : List String) : Prop :=
  ∃ certificate ∈ settings.certPath, ∃ key ∈ settings.keyPath, ∃ identity,
    Tls.Identity.load (files.pem certificate) (files.pem key) protocols = .ok identity

/-- Everything around the gateway is there: its ledger, its blocklist, and the identities of its
listeners. -/
@[mk_iff]
structure Files.Suffice (files : Files) (config : Config) : Prop where
  ledger : ∃ ledger, openLedger files config.ledger = .ok ledger
  blocklist : ∃ blocklist, loadBlocklist files config.resolver = .ok blocklist
  https : config.server.https.isSome = true →
    files.HoldIdentity config.server Tls.Identity.httpsProtocols
  dot : config.server.dot.isSome = true →
    files.HoldIdentity config.server Tls.Identity.dotProtocols

/-! ## Parts of a start -/

theorem isOutside_of_openLedger {settings : Config.LedgerSettings}
    (failed : openLedger files settings = .error error) : error.IsOutside := by
  rw [openLedger] at failed
  grind [StartError.IsOutside]

theorem isOutside_of_loadBlocklist {settings : Config.ResolverSettings}
    (failed : loadBlocklist files settings = .error error) : error.IsOutside := by
  rw [loadBlocklist] at failed
  grind [StartError.IsOutside]

theorem failoverHeader_eq_ok_iff {settings : Config.ResolverSettings} :
    (∃ name, failoverHeader settings = .ok name) ↔
      Http.IsHeaderName settings.failoverHeader := by
  rw [← Http.headerName?_isSome_iff, failoverHeader]
  cases Http.headerName? settings.failoverHeader <;> simp

theorem failoverHeader_eq_error_iff {settings : Config.ResolverSettings} :
    failoverHeader settings = .error error ↔
      error = .headerName ∧ ¬ Http.IsHeaderName settings.failoverHeader := by
  rw [← Http.headerName?_isSome_iff, failoverHeader]
  cases Http.headerName? settings.failoverHeader <;> simp [eq_comm]

theorem altSvc_eq_ok_iff {settings : Config.ServerSettings} :
    (∃ value, altSvc settings = .ok value) ↔ ∀ text ∈ settings.altSvc, Http.IsHeaderText text := by
  rw [altSvc]
  cases settings.altSvc with
  | none => simp
  | some text =>
    by_cases legal : Http.IsHeaderText text <;> simp [legal, Http.isHeaderValue_iff]

theorem altSvc_eq_error_iff {settings : Config.ServerSettings} :
    altSvc settings = .error error ↔
      error = .headerValue ∧ ∃ text ∈ settings.altSvc, ¬ Http.IsHeaderText text := by
  rw [altSvc]
  cases settings.altSvc with
  | none => simp
  | some text =>
    by_cases legal : Http.IsHeaderText text <;>
      simp [legal, Http.isHeaderValue_iff, @eq_comm _ error]

/-- With both paths set, an identity is what its files hold. -/
theorem identity_of_paths {settings : Config.ServerSettings} {certificate key : String}
    (certificate_set : settings.certPath = some certificate) (key_set : settings.keyPath = some key)
    (protocols : List String) :
    identity files settings protocols =
      (Tls.Identity.load (files.pem certificate) (files.pem key) protocols).mapError
        StartError.identity := by
  cases loaded : Tls.Identity.load (files.pem certificate) (files.pem key) protocols <;>
    unfold Files.pem at loaded <;>
    simp only [identity, certificate_set, key_set, loaded, bind, Except.bind, Except.mapError] <;>
    rfl

theorem holdIdentity_iff {settings : Config.ServerSettings} {protocols : List String} :
    files.HoldIdentity settings protocols ↔
      ∃ found, identity files settings protocols = .ok found := by
  cases certificate_set : settings.certPath with
  | none => simp [Files.HoldIdentity, certificate_set, identity, bind, Except.bind]
  | some certificate =>
    cases key_set : settings.keyPath with
    | none => simp [Files.HoldIdentity, certificate_set, key_set, identity, bind, Except.bind]
    | some key =>
      rw [identity_of_paths certificate_set key_set]
      simp only [Files.HoldIdentity, certificate_set, key_set, Option.mem_some_iff]
      cases loaded : Tls.Identity.load (files.pem certificate) (files.pem key) protocols <;>
        simp [Except.mapError, loaded]

/-! ## The whole start -/

private theorem bind_eq_ok_iff {ε α β : Type} {first : Except ε α} {next : α → Except ε β}
    {value : β} : first >>= next = .ok value ↔ ∃ a, first = .ok a ∧ next a = .ok value := by
  cases first <;> simp [bind, Except.bind]

private theorem bind_eq_error_iff {ε α β : Type} {first : Except ε α} {next : α → Except ε β}
    {fault : ε} : first >>= next = .error fault ↔
      first = .error fault ∨ ∃ a, first = .ok a ∧ next a = .error fault := by
  cases first <;> simp [bind, Except.bind]

/-- A start is prepared if its files suffice and its headers are legal. -/
theorem prepare_eq_ok_iff :
    prepare files config = .ok () ↔ files.Suffice config ∧ HeadersLegal config := by
  rw [Files.suffice_iff, headersLegal_iff, holdIdentity_iff, holdIdentity_iff,
    ← failoverHeader_eq_ok_iff, ← altSvc_eq_ok_iff]
  -- Without its listener an identity is not asked for, so there is one sequence of steps per case.
  cases https : config.server.https <;> cases dot : config.server.dot <;>
    simp only [prepare, https, dot, Option.isSome_none, Option.isSome_some, Bool.false_eq_true,
      if_false, if_true, bind_eq_ok_iff, pure, Except.pure, exists_and_right, and_true] <;>
    grind

/-- A start that fails, fails at one of its parts. -/
theorem prepare_eq_error (failed : prepare files config = .error error) :
    openLedger files config.ledger = .error error ∨
      loadBlocklist files config.resolver = .error error ∨
      failoverHeader config.resolver = .error error ∨
      altSvc config.server = .error error ∨
      config.needsTls = true ∧
        ∃ protocols, identity files config.server protocols = .error error := by
  rw [Config.needsTls]
  cases https : config.server.https <;> cases dot : config.server.dot <;>
    simp only [prepare, https, dot, Option.isSome_none, Option.isSome_some, Bool.false_eq_true,
      if_false, if_true, bind_eq_error_iff, pure, Except.pure] at failed <;>
    grind

theorem paths_of_valid (valid : config.isValid = true) (tls : config.needsTls = true) :
    config.server.certPath.isSome = true ∧ config.server.keyPath.isSome = true := by
  have flawless := config.isValid_iff.mp valid
  have certificate_set := flawless .noCertificate
  have key_set := flawless .noKey
  simp only [Config.hasFlaw, tls, Bool.true_and, Option.isNone_eq_false_iff]
    at certificate_set key_set
  exact ⟨certificate_set, key_set⟩

/-- The identities of valid settings fail for what their files hold. -/
theorem isOutside_of_identity {settings : Config.ServerSettings} {protocols : List String}
    (certificate_set : settings.certPath.isSome = true) (key_set : settings.keyPath.isSome = true)
    (failed : identity files settings protocols = .error error) : error.IsOutside := by
  obtain ⟨certificate, certificate_set⟩ := Option.isSome_iff_exists.mp certificate_set
  obtain ⟨key, key_set⟩ := Option.isSome_iff_exists.mp key_set
  rw [identity_of_paths certificate_set key_set] at failed
  cases loaded : Tls.Identity.load (files.pem certificate) (files.pem key) protocols with
  | ok identity => rw [loaded] at failed; cases failed
  | error reason => rw [loaded] at failed; cases failed; trivial

theorem cause_of_prepare (valid : config.isValid = true)
    (failed : prepare files config = .error error) :
    error.IsOutside ∨ error = .headerName ∧ ¬ Http.IsHeaderName config.resolver.failoverHeader ∨
      error = .headerValue ∧ ∃ text ∈ config.server.altSvc, ¬ Http.IsHeaderText text := by
  rcases prepare_eq_error failed with ledger | blocklist | name | value | ⟨tls, _, identity⟩
  · exact .inl (isOutside_of_openLedger ledger)
  · exact .inl (isOutside_of_loadBlocklist blocklist)
  · exact .inr (.inl (failoverHeader_eq_error_iff.mp name))
  · exact .inr (.inr (altSvc_eq_error_iff.mp value))
  · obtain ⟨certificate_set, key_set⟩ := paths_of_valid valid tls
    exact .inl (isOutside_of_identity certificate_set key_set identity)

/-- Files around the gateway that stop no start before its headers are looked at: all are there, and
empty. -/
def Files.blank : Files := ⟨fun _ => some "", fun _ => false⟩

theorem openLedger_blank (settings : Config.LedgerSettings) :
    ∃ ledger, openLedger .blank settings = .ok ledger := by
  rw [openLedger]
  by_cases free : settings.free = true
  · exact ⟨_, if_pos free⟩
  · by_cases memory : settings.dbPath = ":memory:" <;>
      exact ⟨.store .empty, by simp [free, memory, Files.blank]⟩

theorem loadBlocklist_blank (settings : Config.ResolverSettings) :
    ∃ blocklist, loadBlocklist .blank settings = .ok blocklist := by
  rw [loadBlocklist]
  cases settings.blocklistPath <;> exact ⟨_, rfl⟩

/-- An illegal header name ends a start when the ledger is open. -/
theorem prepare_of_illegal_name (illegal : ¬ Http.IsHeaderName config.resolver.failoverHeader)
    (ledger_opened : ∃ ledger, openLedger files config.ledger = .ok ledger)
    (blocklist_loaded : ∃ blocklist, loadBlocklist files config.resolver = .ok blocklist) :
    prepare files config = .error .headerName := by
  obtain ⟨ledger, ledger_opened⟩ := ledger_opened
  obtain ⟨blocklist, blocklist_loaded⟩ := blocklist_loaded
  rw [prepare, ledger_opened, blocklist_loaded, failoverHeader_eq_error_iff.mpr ⟨rfl, illegal⟩]
  rfl

/-- An illegal header value does so behind a legal name. -/
theorem prepare_of_illegal_value (legal : Http.IsHeaderName config.resolver.failoverHeader)
    (illegal : ∃ text ∈ config.server.altSvc, ¬ Http.IsHeaderText text)
    (ledger_opened : ∃ ledger, openLedger files config.ledger = .ok ledger)
    (blocklist_loaded : ∃ blocklist, loadBlocklist files config.resolver = .ok blocklist) :
    prepare files config = .error .headerValue := by
  obtain ⟨ledger, ledger_opened⟩ := ledger_opened
  obtain ⟨blocklist, blocklist_loaded⟩ := blocklist_loaded
  obtain ⟨name, name_read⟩ := failoverHeader_eq_ok_iff.mpr legal
  rw [prepare, ledger_opened, blocklist_loaded, name_read, altSvc_eq_error_iff.mpr ⟨rfl, illegal⟩]
  rfl

/-- If every failure comes from outside, the headers are legal. -/
theorem headersLegal_of_outside
    (outside : ∀ files error, prepare files config = .error error → error.IsOutside) :
    HeadersLegal config := by
  -- Empty files get a start behind the ledger and the blocklist, and no identity is looked at.
  have ledger_opened := openLedger_blank config.ledger
  have blocklist_loaded := loadBlocklist_blank config.resolver
  have name_legal : Http.IsHeaderName config.resolver.failoverHeader := by
    by_contra illegal
    exact outside _ _ (prepare_of_illegal_name illegal ledger_opened blocklist_loaded)
  refine ⟨name_legal, fun text text_set => ?_⟩
  by_contra illegal
  exact outside _ _ (prepare_of_illegal_value name_legal ⟨text, text_set, illegal⟩ ledger_opened
    blocklist_loaded)

/-- Valid settings start whenever the files suffice, exactly if their headers are legal. The paths
of the certificate and of the key are there if a listener needs them, and whatever else fails, fails
for the files; but an illegal header passes validation. -/
theorem valid_starts_iff_headers_legal (valid : config.isValid = true) :
    (config.needsTls = true →
      config.server.certPath.isSome = true ∧ config.server.keyPath.isSome = true) ∧
    (∀ files, prepare files config = .ok () ↔ files.Suffice config ∧ HeadersLegal config) ∧
    (∀ files error, prepare files config = .error error →
      error.IsOutside ∨ error = .headerName ∧ ¬ Http.IsHeaderName config.resolver.failoverHeader ∨
        error = .headerValue ∧ ∃ text ∈ config.server.altSvc, ¬ Http.IsHeaderText text) ∧
    ((∀ files error, prepare files config = .error error → error.IsOutside) ↔
      HeadersLegal config) := by
  refine ⟨paths_of_valid valid, fun files => prepare_eq_ok_iff,
    fun files error => cause_of_prepare valid, headersLegal_of_outside,
    fun legal files error failed => ?_⟩
  rcases cause_of_prepare valid failed with outside | ⟨-, illegal⟩ | ⟨-, text, text_set, illegal⟩
  · exact outside
  · exact absurd legal.failoverHeader illegal
  · exact absurd (legal.altSvc text text_set) illegal

/-- The default settings with a certificate and its key. -/
def certified : Config where
  server := { certPath := some "cert.pem", keyPath := some "key.pem" }

/-- Nothing but files can stop the default settings, once they have a certificate. -/
theorem certified_fails_outside_only :
    certified.isValid = true ∧
      ∀ files error, prepare files certified = .error error → error.IsOutside :=
  ⟨by decide, (valid_starts_iff_headers_legal (by decide)).2.2.2.mpr ⟨by decide, nofun⟩⟩

/-- Settings of a plain listener that open no file, with a header name and a header value. -/
def plain (failoverHeader : String) (altSvc : Option String) : Config where
  server := { https := none, http := some ⟨.v4 0x7F000001, 8080, 0⟩, altSvc }
  resolver := { failoverHeader }
  ledger := { free := true }

/-- A blank in the name of a header, or a line break in the value of one, passes validation and
stops the start, whatever the files are. -/
theorem illegal_headers_pass_validation :
    ((plain "bad header" none).isValid = true ∧
      ∀ files, prepare files (plain "bad header" none) = .error .headerName) ∧
    ((plain "zns-real-addr" (some "a\nb")).isValid = true ∧
      ∀ files, prepare files (plain "zns-real-addr" (some "a\nb")) = .error .headerValue) ∧
    ¬ StartError.IsOutside .headerName ∧ ¬ StartError.IsOutside .headerValue := by
  refine ⟨⟨by decide, fun files => ?_⟩, ⟨by decide, fun files => ?_⟩, id, id⟩
  · exact prepare_of_illegal_name (by decide) ⟨_, rfl⟩ ⟨_, rfl⟩
  · have legal : Http.IsHeaderName "zns-real-addr" := by decide
    exact prepare_of_illegal_value legal ⟨_, rfl, by decide⟩ ⟨_, rfl⟩ ⟨_, rfl⟩

end Cli

end Tollgate
