import Tollgate.Cli.Options
import Tollgate.Config.File
import Tollgate.Config.Validation
import Tollgate.Dns.Blocklist
import Tollgate.Http.Message
import Tollgate.Ledger.Ledger
import Tollgate.Tls.Identity

/-!
# Starting the gateway

The settings come from a file and are overridden by options. Once they are valid, the gateway opens
its ledger, loads its blocklist and the identities of its listeners, in this order; the first thing
that fails ends the start.
-/

namespace Tollgate.Cli

/-- What is known of the files around the gateway. -/
structure Files where
  /-- The content of a file. -/
  content? : String → Option String
  isDirectory : String → Bool

/-- Why the gateway does not start. -/
inductive StartError where
  | notLoaded (path : String)
  | invalid (flaw : Config.Flaw)
  /-- A number is too large to be printed. -/
  | notPrintable
  | ledger (error : LedgerError)
  | headerName
  | headerValue
  | identity (error : Tls.IdentityError)
  | pathNotSet (setting : String)

def StartError.message : StartError → String
  | .notLoaded path => s!"Failed to load {path}"
  | .invalid flaw => flaw.message
  | .notPrintable => "TOML serialize error: out-of-range value for u64 type"
  | .ledger error => error.message
  | .headerName => "invalid HTTP header name"
  | .headerValue => "failed to parse header value"
  | .identity error => error.message
  | .pathNotSet setting => s!"{setting} is not set"

/-- What a start comes to. -/
inductive Outcome where
  /-- The program ends with a status, after it has printed something. -/
  | ended (status : Nat) (printed : String)
  | failed (error : StartError)
  /-- The listeners can be opened. -/
  | ready (config : Config)

/-! ## Settings -/

def configure (files : Files) (given : Given) : Except StartError Config := do
  let loaded ← match given.value? .config with
    | none => pure {}
    | some path =>
      match Config.load path (files.content? path) with
      | .ok config => pure config
      | .error _ => throw (.notLoaded path)
  let config := given.override loaded
  match config.flaw? with
  | some flaw => throw (.invalid flaw)
  | none => return config

/-! ## Parts of the gateway -/

/-- The start of a file that holds a store. -/
def storeMark : String := "SQLite format 3\x00"

def directoryOf (path : String) : String :=
  let name := Text.afterLast '/' path.toList
  if name.length = path.length then "."
  else String.ofList (path.toList.take (path.length - name.length - 1))

/-- Opens the ledger. A store that is not there is created, if its directory is there. -/
def openLedger (files : Files) (settings : Config.LedgerSettings) : Except StartError Ledger :=
  let path := settings.dbPath
  let failed := fun reason => Except.error (StartError.ledger (.storage reason))
  let cannotOpen := failed s!"unable to open database file: {path}"
  if settings.free then .ok .free
  else if path = ":memory:" then .ok (.store .empty)
  else if files.isDirectory path then cannotOpen
  else
    match files.content? path with
    | some content =>
      if content.isEmpty || storeMark.toList.isPrefixOf content.toList then .ok (.store .empty)
      else failed "file is not a database"
    | none => if files.isDirectory (directoryOf path) then .ok (.store .empty) else cannotOpen

/-- Loads the list of blocked names, if there is one. -/
def loadBlocklist (files : Files) (settings : Config.ResolverSettings) :
    Except StartError Dns.Blocklist :=
  match settings.blocklistPath with
  | none => .ok .empty
  | some path =>
    match files.content? path with
    | some text => .ok (Dns.Blocklist.ofText text)
    | none => .error (.notLoaded path)

def failoverHeader (settings : Config.ResolverSettings) : Except StartError String :=
  match Http.headerName? settings.failoverHeader with
  | some name => .ok name
  | none => .error .headerName

/-- The value of the header that is put on every response. -/
def altSvc (settings : Config.ServerSettings) : Except StartError (Option Octets) :=
  match settings.altSvc with
  | none => .ok none
  | some text =>
    let value := Octets.ofText text
    if Http.isHeaderValue value then .ok (some value) else .error .headerValue

def identity (files : Files) (settings : Config.ServerSettings) (protocols : List String) :
    Except StartError Tls.Identity := do
  let file := fun (setting : String) (path : Option String) =>
    match path with
    | none => Except.error (StartError.pathNotSet setting)
    | some path => .ok (⟨path, (files.content? path).map Octets.ofText⟩ : Tls.PemFile)
  let certificates ← file "server.cert_path" settings.certPath
  let key ← file "server.key_path" settings.keyPath
  match Tls.Identity.load certificates key protocols with
  | .ok identity => return identity
  | .error error => throw (.identity error)

/-- Whether everything is there that the listeners need. -/
def prepare (files : Files) (config : Config) : Except StartError Unit := do
  let _ ← openLedger files config.ledger
  let _ ← loadBlocklist files config.resolver
  let _ ← failoverHeader config.resolver
  let _ ← altSvc config.server
  if config.server.https.isSome then
    let _ ← identity files config.server Tls.Identity.httpsProtocols
  if config.server.dot.isSome then
    let _ ← identity files config.server Tls.Identity.dotProtocols

/-! ## The whole start -/

/-- What a start with some arguments comes to. -/
def start (files : Files) (arguments : List String) : Outcome :=
  match Call.ofArguments arguments with
  | .misuse => .ended 2 ""
  | .help => .ended 0 helpText
  | .version => .ended 0 versionText
  | .run given =>
    match configure files given with
    | .error error => .failed error
    | .ok config =>
      if given.has .printConfig then
        match config.toml? with
        | some text => .ended 0 text
        | none => .failed .notPrintable
      else
        match prepare files config with
        | .error error => .failed error
        | .ok () => .ready config

end Tollgate.Cli
