import Tollgate.Config.Settings
import Tollgate.Text.Blank

/-!
# Validation of settings

Settings that can be read may still make no sense together. The first thing wrong is reported.
-/

namespace Tollgate.Config

inductive Flaw where
  | noCertificate
  | noKey
  | noListener
  | noRecursor
  | failoverMultiplier
  | costMultiplier
  | meterInterval
  | dialTimeout
  | mibPerCny
  | noLedgerPath
  deriving DecidableEq, Repr

def Flaw.reason : Flaw → String
  | .noCertificate => "server.cert_path is required for HTTPS and DoT listeners"
  | .noKey => "server.key_path is required for HTTPS and DoT listeners"
  | .noListener => "no listener configured"
  | .noRecursor => "resolver.upstream must not be empty"
  | .failoverMultiplier => "resolver.failover_multiplier must be > 0"
  | .costMultiplier => "tunnel.cost_multiplier must be > 0"
  | .meterInterval => "tunnel.meter_interval_ms must be > 0"
  | .dialTimeout => "tunnel.dial_timeout_secs must be > 0"
  | .mibPerCny => "tickets.mib_per_cny must be > 0"
  | .noLedgerPath => "ledger.db_path is required unless ledger.free is set"

def Flaw.message (flaw : Flaw) : String := s!"Invalid configuration: {flaw.reason}"

/-- Whether a listener needs a certificate. -/
def needsTls (config : Config) : Bool := config.server.https.isSome || config.server.dot.isSome

private def isEmpty (text : String) : Bool := (Text.trim text.toList).isEmpty

def hasFlaw (config : Config) : Flaw → Bool
  | .noCertificate => config.needsTls && config.server.certPath.isNone
  | .noKey => config.needsTls && config.server.keyPath.isNone
  | .noListener =>
    config.server.https.isNone && config.server.http.isNone && config.server.dot.isNone
  | .noRecursor => isEmpty config.resolver.recursor
  | .failoverMultiplier => config.resolver.failoverMultiplier ≤ 0
  | .costMultiplier => config.tunnel.costMultiplier ≤ 0
  | .meterInterval => config.tunnel.meterInterval = 0
  | .dialTimeout => config.tunnel.dialTimeout = 0
  | .mibPerCny => config.tickets.mibPerCny ≤ 0
  | .noLedgerPath => !config.ledger.free && isEmpty config.ledger.dbPath

/-- All flaws, in the order in which they are looked for. -/
def Flaw.all : List Flaw :=
  [.noCertificate, .noKey, .noListener, .noRecursor, .failoverMultiplier, .costMultiplier,
    .meterInterval, .dialTimeout, .mibPerCny, .noLedgerPath]

def flaw? (config : Config) : Option Flaw := Flaw.all.find? config.hasFlaw

def isValid (config : Config) : Bool := config.flaw?.isNone

theorem Flaw.mem_all (flaw : Flaw) : flaw ∈ Flaw.all := by cases flaw <;> decide

/-- Valid settings have none of the flaws. -/
theorem isValid_iff (config : Config) : config.isValid ↔ ∀ flaw, config.hasFlaw flaw = false := by
  simp [isValid, flaw?, Flaw.mem_all]

end Tollgate.Config
