import Tollgate.Config.Validation
import Tollgate.Proofs.Net.AddressText
import Tollgate.Proofs.Toml.Document

/-!
# Printed settings are read back

What is printed of a setting is read back as it was. A setting that is absent is not printed, and
its default is read instead. All but one of the optional settings are absent by default, and come
back absent. The HTTPS listener is the exception: settings without it come back with it.
-/

namespace Tollgate.Config

open Toml (IsBareKey IsScalar IsSection)

variable {α : Type} {name : String} {entries : List (String × Node)}
variable {fields : List (String × Option Node)}

/-! ## Settings of a section -/

theorem names_written (fields : List (String × Option Node)) :
    ((written fields).map (·.1)).Sublist (fields.map (·.1)) := by
  induction fields with
  | nil => exact List.Sublist.refl _
  | cons field fields ih =>
      obtain ⟨name, value⟩ := field
      cases value with
      | none => exact ih.cons name
      | some node => exact ih.cons_cons name

theorem lookup_written_of_not_mem (unknown : name ∉ fields.map (·.1)) :
    (written fields).lookup name = none := by
  rw [List.lookup_eq_none_iff]
  intro entry mem
  rw [bne_iff_ne]
  rintro rfl
  exact unknown ((names_written fields).subset (List.mem_map_of_mem mem))

theorem lookup_written (distinct : (fields.map (·.1)).Nodup) :
    ∀ field ∈ fields, (written fields).lookup field.1 = field.2 := by
  induction fields with
  | nil => nofun
  | cons first fields ih =>
      obtain ⟨unknown, distinct_later⟩ := List.nodup_cons.mp distinct
      have absent := lookup_written_of_not_mem unknown
      obtain ⟨key, value⟩ := first
      refine List.forall_mem_cons.mpr ⟨?_, ?_⟩
      · cases value with
        | none => exact absent
        | some node => exact List.lookup_cons_self
      · intro field mem
        have other : field.1 ≠ key := by
          intro same
          have known : field.1 ∈ fields.map (·.1) := List.mem_map_of_mem mem
          exact unknown (same ▸ known)
        rw [← ih distinct_later field mem]
        cases value with
        | none => rfl
        | some node =>
            show ((key, node) :: written fields).lookup field.1 = _
            rw [List.lookup_cons, beq_eq_false_iff_ne.mpr other]

/-- A table of written settings gives each of them as it is. -/
theorem settings?_written {names : List String} (names_eq : fields.map (·.1) = names)
    (distinct : names.Nodup) :
    (Node.table (written fields)).settings? names = some (written fields) ∧
      ∀ field ∈ fields, (written fields).lookup field.1 = field.2 := by
  subst names_eq
  have known := names_written fields
  have all_known : (written fields).filter ((fields.map (·.1)).contains ·.1) = written fields := by
    rw [List.filter_eq_self]
    intro entry mem
    exact List.contains_iff_mem.mpr (known.subset (List.mem_map_of_mem mem))
  refine ⟨?_, lookup_written distinct⟩
  rw [Node.settings?]
  simp only [all_known]
  exact if_pos (distinct.sublist known)

theorem setting_of_some {read : Node → Option α} {node : Node} {value : α} (default : α)
    (found : entries.lookup name = some node) (reads : read node = some value) :
    setting entries name default read = some value := by
  rw [setting, found]
  exact reads

/-- A setting that may be absent is read back, with its default if it is. -/
theorem setting_of_map {read : Node → Option α} {write : α → Node} {value : Option α}
    (default : Option α) (found : entries.lookup name = value.map write)
    (reads : ∀ v ∈ value, Node.optional? read (write v) = some (some v)) :
    setting entries name default (Node.optional? read) = some (value <|> default) := by
  rw [setting, found]
  cases value with
  | none => rfl
  | some v => exact reads v rfl

/-! ## Values -/

theorem fitsInt64_toInt (n : Int64) : Text.fitsInt64 n.toInt = true := by
  rw [Text.fitsInt64_iff]
  exact ⟨n.le_toInt, Int.le_of_lt_add_one n.toInt_lt⟩

theorem int64?_int64Node (n : Int64) : (int64Node n).int64? = some n := by
  simp [Node.int64?, int64Node, Node.int?, Option.filter, fitsInt64_toInt]

theorem uint64?_uint64Node (n : UInt64) : (uint64Node n).uint64? = some n := by
  have fits := n.toNat_lt
  simp [Node.uint64?, Node.uint64?.bounded, uint64Node, Node.int?, Option.filter, Text.maxUInt64]
  omega

theorem optional?_text (text : String) :
    Node.optional? Node.text? (.text text) = some (some text) := rfl

theorem optional?_addressNode {socket : SocketAddress} (formed : socket.WellFormed) :
    Node.optional? address? (addressNode socket) = some (some socket) := by
  have read := SocketAddress.ofText?_text formed
  simp [Node.optional?, address?, addressNode, Node.text?, read]

/-! ## Sections -/

/-- The socket addresses of the listeners there are. -/
def ServerSettings.listeners (settings : ServerSettings) : List SocketAddress :=
  settings.https.toList ++ settings.http.toList ++ settings.dot.toList

/-- Settings whose listeners have well-formed socket addresses. -/
def ServerSettings.WellFormed (settings : ServerSettings) : Prop :=
  ∀ socket ∈ settings.listeners, socket.WellFormed

/-- These settings with the default listener for HTTPS if there is none. -/
def ServerSettings.withDefaultHttps (settings : ServerSettings) : ServerSettings :=
  { settings with https := settings.https <|> ({} : ServerSettings).https }

theorem ServerSettings.ofNode?_written {settings : ServerSettings}
    (formed : settings.WellFormed) :
    ofNode? (.table (written settings.fields)) = some settings.withDefaultHttps := by
  obtain ⟨given, found⟩ := settings?_written (show settings.fields.map (·.1) = names from rfl)
    (by decide)
  generalize written settings.fields = entries at given found ⊢
  simp only [fields, List.forall_mem_cons] at found
  obtain ⟨https, http, dot, cert, key, altSvc, -⟩ := found
  simp only [WellFormed, listeners, List.mem_append, Option.mem_toList] at formed
  have https_read := setting_of_map (some ⟨.v4 0, 443, 0⟩) https
    fun socket mem => optional?_addressNode (formed socket (.inl (.inl mem)))
  have http_read := setting_of_map none http
    fun socket mem => optional?_addressNode (formed socket (.inl (.inr mem)))
  have dot_read := setting_of_map none dot
    fun socket mem => optional?_addressNode (formed socket (.inr mem))
  have cert_read := setting_of_map none cert fun path _ => optional?_text path
  have key_read := setting_of_map none key fun path _ => optional?_text path
  have altSvc_read := setting_of_map none altSvc fun value _ => optional?_text value
  simp only [ofNode?, given, Option.bind_eq_bind, Option.bind_some, https_read, http_read, dot_read,
    cert_read, key_read, altSvc_read, Option.orElse_eq_orElse, Option.orElse_eq_or, Option.or_none]
  simp [withDefaultHttps]

theorem ResolverSettings.ofNode?_written (settings : ResolverSettings) :
    ofNode? (.table (written settings.fields)) = some settings := by
  obtain ⟨given, found⟩ := settings?_written (show settings.fields.map (·.1) = names from rfl)
    (by decide)
  generalize written settings.fields = entries at given found ⊢
  simp only [fields, List.forall_mem_cons] at found
  obtain ⟨recursor, header, multiplier, blocklist, -⟩ := found
  have recursor_read := fun default => setting_of_some default recursor
    (show Node.text? _ = some settings.recursor from rfl)
  have header_read := fun default => setting_of_some default header
    (show Node.text? _ = some settings.failoverHeader from rfl)
  have multiplier_read := fun default => setting_of_some default multiplier
    (int64?_int64Node settings.failoverMultiplier)
  have blocklist_read := setting_of_map none blocklist fun path _ => optional?_text path
  simp only [ofNode?, given, Option.bind_eq_bind, Option.bind_some, recursor_read, header_read,
    multiplier_read, blocklist_read, Option.orElse_eq_orElse, Option.orElse_eq_or, Option.or_none]
  rfl

theorem LedgerSettings.ofNode?_written (settings : LedgerSettings) :
    ofNode? (.table (written settings.fields)) = some settings := by
  obtain ⟨given, found⟩ := settings?_written (show settings.fields.map (·.1) = names from rfl)
    (by decide)
  generalize written settings.fields = entries at given found ⊢
  simp only [fields, List.forall_mem_cons] at found
  obtain ⟨free, path, -⟩ := found
  simp only [ofNode?, given, setting, free, path, Option.bind_eq_bind, Option.bind_some,
    Node.bool?, Node.text?]
  rfl

theorem TunnelSettings.ofNode?_written (settings : TunnelSettings) :
    ofNode? (.table (written settings.fields)) = some settings := by
  obtain ⟨given, found⟩ := settings?_written (show settings.fields.map (·.1) = names from rfl)
    (by decide)
  generalize written settings.fields = entries at given found ⊢
  simp only [fields, List.forall_mem_cons] at found
  obtain ⟨multiplier, interval, timeout, -⟩ := found
  simp only [ofNode?, given, setting, multiplier, interval, timeout, Option.bind_eq_bind,
    Option.bind_some, int64?_int64Node, uint64?_uint64Node]
  rfl

theorem TicketSettings.ofNode?_written (settings : TicketSettings) :
    ofNode? (.table (written settings.fields)) = some settings := by
  obtain ⟨given, found⟩ := settings?_written (show settings.fields.map (·.1) = names from rfl)
    (by decide)
  generalize written settings.fields = entries at given found ⊢
  simp only [fields, List.forall_mem_cons] at found
  obtain ⟨price, -⟩ := found
  simp only [ofNode?, given, setting, price, Option.bind_eq_bind, Option.bind_some,
    int64?_int64Node]
  rfl

/-! ## Files -/

/-- The settings that are read back: with a listener for HTTPS in any case. -/
def withDefaultHttps (config : Config) : Config :=
  { config with server := config.server.withDefaultHttps }

theorem ofNode?_node {config : Config}
    (formed : config.server.WellFormed) :
    ofNode? config.node = some config.withDefaultHttps := by
  -- Every section is there, so the table is one of written settings as well.
  have node_eq : config.node =
    .table (written (config.sections.map fun s => (s.1, some (.table s.2)))) := rfl
  have names_eq : (config.sections.map fun s => (s.1, some (Node.table s.2))).map (·.1) =
    sectionNames := rfl
  obtain ⟨given, found⟩ := settings?_written names_eq (by decide)
  rw [node_eq]
  generalize written (config.sections.map fun s => (s.1, some (.table s.2))) = entries
    at given found ⊢
  simp only [sections, List.map_cons, List.forall_mem_cons] at found
  obtain ⟨server, resolver, ledger, tunnel, tickets, -⟩ := found
  simp only [ofNode?, given, setting, server, resolver, ledger, tunnel, tickets,
    Option.bind_eq_bind, Option.bind_some, ServerSettings.ofNode?_written formed,
    ResolverSettings.ofNode?_written, LedgerSettings.ofNode?_written,
    TunnelSettings.ofNode?_written, TicketSettings.ofNode?_written]
  rfl

/-! ## Files -/

theorem isScalar_map {write : α → Node} (scalar : ∀ v, IsScalar (write v)) (value : Option α) :
    ∀ node ∈ value.map write, IsScalar node := by
  intro node mem
  obtain ⟨v, -, rfl⟩ := Option.map_eq_some_iff.mp mem
  exact scalar v

theorem isScalar_some {node : Node} (scalar : IsScalar node) :
    ∀ written ∈ some node, IsScalar written := by
  rintro _ ⟨⟩
  exact scalar

theorem isScalar_int64Node (n : Int64) : IsScalar (int64Node n) :=
  .integer (fitsInt64_toInt n)

theorem isScalar_uint64Node {n : UInt64} (small : n.toNat ≤ Text.maxInt64) :
    IsScalar (uint64Node n) := by
  refine .integer ?_
  rw [Text.fitsInt64_iff]
  exact ⟨Int.le_trans (by decide) (Int.natCast_nonneg _), small⟩

theorem isSection_written {names : List String} (names_eq : fields.map (·.1) = names)
    (bare : ∀ name ∈ names, IsBareKey name) (distinct : names.Nodup)
    (scalar : ∀ field ∈ fields, ∀ node ∈ field.2, IsScalar node) : IsSection (written fields) := by
  subst names_eq
  have known := names_written fields
  refine ⟨?_, ?_, distinct.sublist known⟩
  · intro entry mem
    exact bare entry.1 (known.subset (List.mem_map_of_mem mem))
  · intro entry mem
    obtain ⟨⟨name, value⟩, field_mem, entry_eq⟩ := List.mem_filterMap.mp mem
    obtain ⟨node, value_eq, rfl⟩ := Option.map_eq_some_iff.mp entry_eq
    exact scalar _ field_mem node value_eq

theorem ServerSettings.isSection_written (settings : ServerSettings) :
    IsSection (written settings.fields) := by
  refine Config.isSection_written (show _ = names from rfl) (by decide) (by decide) ?_
  simp only [fields, List.forall_mem_cons]
  exact ⟨isScalar_map (fun _ => .text _) _, isScalar_map (fun _ => .text _) _,
    isScalar_map (fun _ => .text _) _, isScalar_map (fun _ => .text _) _,
    isScalar_map (fun _ => .text _) _, isScalar_map (fun _ => .text _) _, nofun⟩

theorem ResolverSettings.isSection_written (settings : ResolverSettings) :
    IsSection (written settings.fields) := by
  refine Config.isSection_written (show _ = names from rfl) (by decide) (by decide) ?_
  simp only [fields, List.forall_mem_cons]
  exact ⟨isScalar_some (.text _), isScalar_some (.text _), isScalar_some (isScalar_int64Node _),
    isScalar_map (fun _ => .text _) _, nofun⟩

theorem LedgerSettings.isSection_written (settings : LedgerSettings) :
    IsSection (written settings.fields) := by
  refine Config.isSection_written (show _ = names from rfl) (by decide) (by decide) ?_
  simp only [fields, List.forall_mem_cons]
  exact ⟨isScalar_some (.boolean _), isScalar_some (.text _), nofun⟩

theorem TunnelSettings.isSection_written {settings : TunnelSettings}
    (interval : settings.meterInterval.toNat ≤ Text.maxInt64)
    (timeout : settings.dialTimeout.toNat ≤ Text.maxInt64) :
    IsSection (written settings.fields) := by
  refine Config.isSection_written (show _ = names from rfl) (by decide) (by decide) ?_
  simp only [fields, List.forall_mem_cons]
  exact ⟨isScalar_some (isScalar_int64Node _), isScalar_some (isScalar_uint64Node interval),
    isScalar_some (isScalar_uint64Node timeout), nofun⟩

theorem TicketSettings.isSection_written (settings : TicketSettings) :
    IsSection (written settings.fields) := by
  refine Config.isSection_written (show _ = names from rfl) (by decide) (by decide) ?_
  simp only [fields, List.forall_mem_cons]
  exact ⟨isScalar_some (isScalar_int64Node _), nofun⟩

/-- Whether the numbers without a sign are small enough to be printed. -/
def Printable (config : Config) : Prop :=
  config.tunnel.meterInterval.toNat ≤ Text.maxInt64 ∧
    config.tunnel.dialTimeout.toNat ≤ Text.maxInt64

instance (config : Config) : Decidable config.Printable :=
  inferInstanceAs (Decidable (_ ∧ _))

theorem toml?_eq_some_iff {config : Config} {text : String} :
    config.toml? = some text ↔ config.Printable ∧ text = sectionsText config.node := by
  simp only [toml?, Printable, Bool.and_eq_true, decide_eq_true_eq, Option.ite_none_right_eq_some,
    Option.some.injEq]
  exact and_congr_right fun _ => eq_comm

/-- The printed text is read back as the tree that it was printed from. -/
theorem parse?_of_printable {config : Config} (printable : config.Printable) :
    Toml.parse? (sectionsText config.node) = some config.node := by
  have node_eq : config.node = Toml.sectionsNode config.sections := rfl
  rw [node_eq]
  apply Toml.parse?_sectionsText
  · simp only [sections, List.forall_mem_cons]
    exact ⟨by decide, by decide, by decide, by decide, by decide, nofun⟩
  · simp only [sections, List.forall_mem_cons]
    exact ⟨config.server.isSection_written, config.resolver.isSection_written,
      config.ledger.isSection_written, TunnelSettings.isSection_written printable.1 printable.2,
      config.tickets.isSection_written, nofun⟩
  · show sectionNames.Nodup
    decide

/-- What is printed is read back, with a listener for HTTPS in any case. -/
theorem ofText?_of_toml? {config : Config} {text : String}
    (formed : config.server.WellFormed)
    (printed : config.toml? = some text) :
    ofText? .toml text = some config.withDefaultHttps := by
  obtain ⟨printable, rfl⟩ := toml?_eq_some_iff.mp printed
  rw [ofText?, parse?_of_printable printable]
  exact ofNode?_node formed

theorem withDefaultHttps_eq_iff {config : Config} :
    config.withDefaultHttps = config ↔ config.server.https ≠ none := by
  obtain ⟨⟨https⟩⟩ := config
  cases https with
  | none => simp [withDefaultHttps, ServerSettings.withDefaultHttps]
  | some socket => simp [withDefaultHttps, ServerSettings.withDefaultHttps]

theorem listeners_withDefaultHttps {settings : ServerSettings} :
    settings.withDefaultHttps.listeners = settings.listeners ↔ settings.https ≠ none := by
  cases https : settings.https with
  | none => simp [ServerSettings.withDefaultHttps, ServerSettings.listeners, https]
  | some socket => simp [ServerSettings.withDefaultHttps, ServerSettings.listeners, https]

/-- Printed settings are read back, whatever they are, as they were but for the HTTPS listener: they
come back as they were, and with the same listeners, exactly if they have one. -/
theorem toml_reloads_iff {config : Config} {text : String}
    (formed : config.server.WellFormed)
    (printed : config.toml? = some text) :
    ofText? .toml text = some config.withDefaultHttps ∧
      (ofText? .toml text = some config ↔ config.server.https ≠ none) ∧
      (config.server.withDefaultHttps.listeners = config.server.listeners ↔
        config.server.https ≠ none) := by
  have reloaded := ofText?_of_toml? formed printed
  refine ⟨reloaded, ?_, listeners_withDefaultHttps⟩
  rw [reloaded, Option.some.injEq]
  exact withDefaultHttps_eq_iff

/-- Settings with a certificate, an IPv6 listener and a path that needs escapes. -/
def withCertificate : Config where
  server := {
    https := some ⟨.v6 1, 443, 0⟩
    certPath := some "it's a \"cert\\path\"\n"
    keyPath := some "" }

/-- These come back as they were. -/
theorem withCertificate_reloads :
    withCertificate.server.WellFormed ∧
    ∃ text, withCertificate.toml? = some text ∧ ofText? .toml text = some withCertificate := by
  have formed : withCertificate.server.WellFormed := by
    intro socket mem
    obtain rfl := List.mem_singleton.mp mem
    exact ⟨by decide, by decide, nofun⟩
  have printed := toml?_eq_some_iff.mpr
    ⟨(by decide : withCertificate.Printable), rfl⟩
  exact ⟨formed, _, printed, (toml_reloads_iff formed printed).2.1.mpr nofun⟩

/-- Settings for a gateway behind an ingress that has the encryption: there is no HTTPS listener. -/
def behindIngress : Config where
  server := { https := none, http := some ⟨.v4 0x7F000001, 8080, 0⟩ }
  ledger := { free := true }

/-- What is printed of them has one listener more, and this one needs a certificate. -/
theorem listener_added_behind_ingress :
    behindIngress.isValid = true ∧
    behindIngress.server.listeners = [⟨.v4 0x7F000001, 8080, 0⟩] ∧
    ∃ text reloaded, behindIngress.toml? = some text ∧ ofText? .toml text = some reloaded ∧
      reloaded ≠ behindIngress ∧
      reloaded.server.listeners = [⟨.v4 0, 443, 0⟩, ⟨.v4 0x7F000001, 8080, 0⟩] ∧
      reloaded.flaw? = some .noCertificate := by
  have formed : behindIngress.server.WellFormed := by
    intro socket mem
    obtain rfl := List.mem_singleton.mp mem
    exact ⟨by decide, by decide, fun _ _ => rfl⟩
  have printed := toml?_eq_some_iff.mpr ⟨(by decide : behindIngress.Printable), rfl⟩
  refine ⟨by decide +kernel, rfl, _, _, printed, ofText?_of_toml? formed printed, ?_, ?_, ?_⟩
  · decide
  · decide
  · decide

end Tollgate.Config
