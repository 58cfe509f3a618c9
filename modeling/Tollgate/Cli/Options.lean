import Tollgate.Config.Settings
import Tollgate.Text.Split

/-!
# Command-line options

Options are long words or single letters; those that have a value take it from behind an equals sign
or from the next argument. No option comes twice, and there are no other arguments. Arguments are
read in order, so that whatever comes first of a mistake, a call for help and a call for the version
counts.
-/

namespace Tollgate.Cli

inductive OptionName where
  | config
  | listen
  | noHttps
  | httpListen
  | dotListen
  | tlsCert
  | tlsKey
  | db
  | free
  | recursor
  | blocklist
  | printConfig
  | verbose
  | help
  | version
  deriving DecidableEq, Repr

namespace OptionName

/-- All options, in the order in which help is given on them. -/
def all : List OptionName :=
  [config, listen, noHttps, httpListen, dotListen, tlsCert, tlsKey, db, free, recursor, blocklist,
    printConfig, verbose, help, version]

def long : OptionName → String
  | config => "config"
  | listen => "listen"
  | noHttps => "no-https"
  | httpListen => "http-listen"
  | dotListen => "dot-listen"
  | tlsCert => "tls-cert"
  | tlsKey => "tls-key"
  | db => "db"
  | free => "free"
  | recursor => "upstream"
  | blocklist => "blocklist"
  | printConfig => "print-config"
  | verbose => "verbose"
  | help => "help"
  | version => "version"

def short? : OptionName → Option Char
  | config => some 'c'
  | verbose => some 'v'
  | help => some 'h'
  | version => some 'V'
  | _ => none

def hasValue : OptionName → Bool
  | config | listen | httpListen | dotListen | tlsCert | tlsKey | db | recursor | blocklist => true
  | _ => false

def purpose : OptionName → String
  | config => "Path to configuration file (TOML, or YAML for .yaml/.yml)"
  | listen => "HTTPS listen address"
  | noHttps => "Disable the HTTPS listener"
  | httpListen => "Plain HTTP listen address"
  | dotListen => "DNS over TLS listen address"
  | tlsCert => "TLS certificate chain (PEM)"
  | tlsKey => "TLS private key (PEM)"
  | db => "SQLite ticket database"
  | free => "Free mode: every token has a fixed balance, nothing is persisted"
  | recursor => "Upstream DoH endpoint"
  | blocklist => "Ad-domain list for `noad` queries"
  | printConfig => "Print the effective configuration as TOML and exit"
  | verbose => "Enable verbose logging"
  | help => "Print help"
  | version => "Print version"

/-- Whether a value may be given to an option. -/
def accepts (name : OptionName) (value : String) : Bool :=
  match name with
  | config => !value.isEmpty
  | listen | httpListen | dotListen => (SocketAddress.ofText? value.toList).isSome
  | _ => true

/-- How an option is written in the help. -/
def usage (name : OptionName) : String :=
  let letter := match name.short? with
    | some c => s!"-{c}, "
    | none => "    "
  let placeholder := name.long.map fun c => if c = '-' then '_' else c.toUpper
  let value := if name.hasValue then s!" <{placeholder}>" else ""
  s!"{letter}--{name.long}{value}"

end OptionName

/-- The options that were given, with their values. -/
abbrev Given := List (OptionName × String)

/-- What the arguments ask for. -/
inductive Call where
  | run (given : Given)
  | help
  | version
  /-- The arguments make no sense. -/
  | misuse
  deriving DecidableEq, Repr

inductive Argument where
  /-- An option by its word, perhaps with a value. -/
  | long (word : String) (value : Option String)
  /-- Options by their letters. -/
  | short (letters : List Char)
  /-- The end of the options. -/
  | endMark
  | other (value : String)
  deriving DecidableEq, Repr

def Argument.ofText (text : String) : Argument :=
  match text.toList with
  | ['-', '-'] => .endMark
  | '-' :: '-' :: rest =>
    match Text.cut '=' rest with
    | some (word, value) => .long (String.ofList word) (some (String.ofList value))
    | none => .long (String.ofList rest) none
  | '-' :: c :: rest => .short (c :: rest)
  | _ => .other text

namespace Call

/-- Adds an option, and goes on with what was given then. -/
private def add (name : OptionName) (value : String) (given : Given) (goOn : Given → Call) : Call :=
  if (given.lookup name).isSome || !name.accepts value then .misuse
  else goOn ((name, value) :: given)

/-- Adds an option without a value. Help and version end the reading. -/
private def flag (name : OptionName) (given : Given) (goOn : Given → Call) : Call :=
  match name with
  | .help => .help
  | .version => .version
  | _ => add name "" given goOn

/-- Reads letters. The first that has a value takes the rest of the letters, or the next argument if
there are none, through `next`. -/
private def letters (next : OptionName → Given → Call) (goOn : Given → Call) :
    List Char → Given → Call
  | [], given => goOn given
  | c :: rest, given =>
    match OptionName.all.find? (·.short? = some c) with
    | none => .misuse
    | some name =>
      if name.hasValue then
        match rest with
        | [] => next name given
        | '=' :: value => add name (String.ofList value) given goOn
        | value => add name (String.ofList value) given goOn
      else flag name given (letters next goOn rest)

/-- Reads arguments, after an option that waits for its value or not. -/
private def read : (waiting : Option OptionName) → List String → Given → Call
  | none, [], given => .run given
  | some _, [], _ => .misuse
  | waiting, text :: rest, given =>
    match waiting, Argument.ofText text with
    | some name, .other value => add name value given (read none rest)
    | some _, _ => .misuse
    | none, .long word value =>
      match OptionName.all.find? (·.long = word) with
      | none => .misuse
      | some name =>
        match name.hasValue, value with
        | true, some value => add name value given (read none rest)
        | true, none => if (given.lookup name).isSome then .misuse else read (some name) rest given
        | false, some _ => .misuse
        | false, none => flag name given (read none rest)
    | none, .short all =>
      letters (fun name given =>
        if (given.lookup name).isSome then .misuse else read (some name) rest given)
        (read none rest) all given
    | none, .endMark => if rest.isEmpty then .run given else .misuse
    | none, .other _ => .misuse

def ofArguments (arguments : List String) : Call := read none arguments []

end Call

/-! ## Overriding settings -/

namespace Given

def value? (given : Given) (name : OptionName) : Option String := given.lookup name

def address? (given : Given) (name : OptionName) : Option SocketAddress :=
  (given.value? name).bind fun text => SocketAddress.ofText? text.toList

def has (given : Given) (name : OptionName) : Bool := (given.value? name).isSome

/-- Settings with what the options say instead of it. -/
def override (given : Given) (config : Config) : Config where
  server := { config.server with
    https :=
      if given.has .noHttps then none else given.address? .listen <|> config.server.https
    http := given.address? .httpListen <|> config.server.http
    dot := given.address? .dotListen <|> config.server.dot
    certPath := given.value? .tlsCert <|> config.server.certPath
    keyPath := given.value? .tlsKey <|> config.server.keyPath }
  resolver := { config.resolver with
    recursor := (given.value? .recursor).getD config.resolver.recursor
    blocklistPath := given.value? .blocklist <|> config.resolver.blocklistPath }
  ledger := {
    free := given.has .free || config.ledger.free
    dbPath := (given.value? .db).getD config.ledger.dbPath }
  tunnel := config.tunnel
  tickets := config.tickets

end Given

/-! ## Help -/

def versionText : String := "zns 0.1.0\n"

def helpText : String :=
  let width := (OptionName.all.map (·.usage.length)).foldl max 0
  let line := fun (name : OptionName) =>
    let fill := String.ofList (List.replicate (width - name.usage.length) ' ')
    s!"  {name.usage}{fill}  {name.purpose}\n"
  "Prepaid DNS over HTTPS/TLS resolver and tunnel proxy\n\nUsage: zns [OPTIONS]\n\nOptions:\n"
    ++ String.join (OptionName.all.map line)

end Tollgate.Cli
