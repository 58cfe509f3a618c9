import Tollgate.Cli.Startup
import Tollgate.Proofs.Config.RoundTrip

/-!
# Printing the settings of a start

The settings of a start come from a file and from options, and socket addresses in them were read
from text. So they are well-formed, and what a start prints is read back: as the settings that it
would have gone on with, but for a listener for HTTPS.
-/

namespace Tollgate

namespace Config

variable {config : Config} {node : Node}

/-- A listener that was read is well-formed, if the default is. -/
theorem wellFormed_of_setting {entries : List (String × Node)} {name : String}
    {default value : Option SocketAddress} (default_formed : ∀ socket ∈ default, socket.WellFormed)
    (read : setting entries name default (Node.optional? address?) = some value) :
    ∀ socket ∈ value, socket.WellFormed := by
  have formed_of_read : ∀ {node socket}, address? node = some socket → socket.WellFormed := by
    intro node socket address_read
    obtain ⟨text, -, spelled⟩ := Option.bind_eq_some_iff.mp address_read
    exact SocketAddress.wellFormed_of_ofText? spelled
  have formed_of_map : ∀ {node}, (address? node).map some = some value →
      ∀ socket ∈ value, socket.WellFormed := by
    intro node some_read
    obtain ⟨socket, address_read, rfl⟩ := Option.map_eq_some_iff.mp some_read
    rintro _ ⟨⟩
    exact formed_of_read address_read
  unfold setting at read
  split at read
  next =>
      unfold Node.optional? at read
      split at read
      next =>
          split at read
          next =>
              cases read
              nofun
          next => exact formed_of_map read
      next => exact formed_of_map read
  next =>
      cases read
      exact default_formed

theorem ServerSettings.wellFormed_iff {settings : ServerSettings} :
    settings.WellFormed ↔ (∀ socket ∈ settings.https, socket.WellFormed) ∧
      (∀ socket ∈ settings.http, socket.WellFormed) ∧
      ∀ socket ∈ settings.dot, socket.WellFormed := by
  simp only [WellFormed, listeners, List.mem_append, Option.mem_toList, or_imp, forall_and,
    and_assoc]
  exact Iff.rfl

theorem ServerSettings.wellFormed_default : ({} : ServerSettings).WellFormed := by
  rw [wellFormed_iff]
  refine ⟨?_, nofun, nofun⟩
  rintro _ ⟨⟩
  exact ⟨by decide, by decide, fun _ _ => rfl⟩

theorem ServerSettings.wellFormed_of_ofNode? {settings : ServerSettings}
    (read : ofNode? node = some settings) : settings.WellFormed := by
  obtain ⟨https_formed, http_formed, dot_formed⟩ := wellFormed_iff.mp wellFormed_default
  obtain ⟨entries, -, read⟩ := Option.bind_eq_some_iff.mp read
  obtain ⟨https, https_read, read⟩ := Option.bind_eq_some_iff.mp read
  obtain ⟨http, http_read, read⟩ := Option.bind_eq_some_iff.mp read
  obtain ⟨dot, dot_read, read⟩ := Option.bind_eq_some_iff.mp read
  obtain ⟨cert, -, read⟩ := Option.bind_eq_some_iff.mp read
  obtain ⟨key, -, read⟩ := Option.bind_eq_some_iff.mp read
  obtain ⟨altSvc, -, read⟩ := Option.bind_eq_some_iff.mp read
  cases read
  exact wellFormed_iff.mpr ⟨wellFormed_of_setting https_formed https_read,
    wellFormed_of_setting http_formed http_read, wellFormed_of_setting dot_formed dot_read⟩

theorem wellFormed_of_ofNode? (read : ofNode? node = some config) : config.server.WellFormed := by
  obtain ⟨entries, -, read⟩ := Option.bind_eq_some_iff.mp read
  obtain ⟨server, server_read, read⟩ := Option.bind_eq_some_iff.mp read
  obtain ⟨resolver, -, read⟩ := Option.bind_eq_some_iff.mp read
  obtain ⟨ledger, -, read⟩ := Option.bind_eq_some_iff.mp read
  obtain ⟨tunnel, -, read⟩ := Option.bind_eq_some_iff.mp read
  obtain ⟨tickets, -, read⟩ := Option.bind_eq_some_iff.mp read
  cases read
  unfold setting at server_read
  split at server_read
  next => exact ServerSettings.wellFormed_of_ofNode? server_read
  next =>
      cases server_read
      exact ServerSettings.wellFormed_default

/-- The settings of every file have well-formed socket addresses, in both formats. -/
theorem wellFormed_of_load {path : String} {content : Option String}
    (loaded : load path content = .ok config) : config.server.WellFormed := by
  cases content with
  | none => cases loaded
  | some text =>
      rw [load] at loaded
      split at loaded
      next read =>
          cases loaded
          unfold ofText? at read
          split at read
          next =>
              obtain ⟨node, -, node_read⟩ := Option.bind_eq_some_iff.mp read
              exact wellFormed_of_ofNode? node_read
          next =>
              obtain ⟨node, -, node_read⟩ := Option.bind_eq_some_iff.mp read
              exact wellFormed_of_ofNode? node_read
      next => cases loaded

end Config

namespace Cli

variable {files : Files} {given : Given} {config : Config}

theorem Given.wellFormed_of_address? (given : Given) (name : OptionName) :
    ∀ socket ∈ given.address? name, socket.WellFormed := by
  intro socket read
  obtain ⟨text, -, spelled⟩ := Option.bind_eq_some_iff.mp read
  exact SocketAddress.wellFormed_of_ofText? spelled

theorem wellFormed_orElse {first second : Option SocketAddress}
    (first_formed : ∀ socket ∈ first, socket.WellFormed)
    (second_formed : ∀ socket ∈ second, socket.WellFormed) :
    ∀ socket ∈ (first <|> second), socket.WellFormed := by
  cases first with
  | none => exact second_formed
  | some socket => exact first_formed

/-- Options keep socket addresses well-formed. -/
theorem Given.wellFormed_override (given : Given) (formed : config.server.WellFormed) :
    (given.override config).server.WellFormed := by
  rw [Config.ServerSettings.wellFormed_iff] at formed ⊢
  obtain ⟨https_formed, http_formed, dot_formed⟩ := formed
  refine ⟨?_, wellFormed_orElse (given.wellFormed_of_address? _) http_formed,
    wellFormed_orElse (given.wellFormed_of_address? _) dot_formed⟩
  have https_eq : (given.override config).server.https =
    if given.has .noHttps then none else given.address? .listen <|> config.server.https := rfl
  rw [https_eq]
  split
  next => nofun
  next => exact wellFormed_orElse (given.wellFormed_of_address? _) https_formed

/-- The settings of a start are those of a file, or the default ones, with the options over them. -/
theorem exists_loaded_of_configure (configured : configure files given = .ok config) :
    ∃ loaded : Config, loaded.server.WellFormed ∧ config = given.override loaded := by
  rw [configure] at configured
  split at configured
  next =>
      refine ⟨{}, Config.ServerSettings.wellFormed_default, ?_⟩
      simp only [pure_bind] at configured
      split at configured
      next => cases configured
      next => exact (Except.ok.inj configured).symm
  next =>
      split at configured
      next loaded read =>
          refine ⟨loaded, Config.wellFormed_of_load read, ?_⟩
          simp only [pure_bind] at configured
          split at configured
          next => cases configured
          next => exact (Except.ok.inj configured).symm
      next => cases configured

/-- The settings of every start have well-formed socket addresses. -/
theorem wellFormed_of_configure (configured : configure files given = .ok config) :
    config.server.WellFormed := by
  obtain ⟨loaded, formed, rfl⟩ := exists_loaded_of_configure configured
  exact given.wellFormed_override formed

/-- What a start prints is read back as its settings, with a listener for HTTPS in any case. -/
theorem printed_settings_reload {arguments : List String} {text : String}
    (asked : Call.ofArguments arguments = .run given) (print : given.has .printConfig = true)
    (configured : configure files given = .ok config)
    (printed : start files arguments = .ended 0 text) :
    Config.ofText? .toml text = some config.withDefaultHttps := by
  have formed := wellFormed_of_configure configured
  rw [start, asked] at printed
  simp only [configured, print, if_true] at printed
  split at printed
  next written =>
      cases printed
      exact Config.ofText?_of_toml? formed written
  next => cases printed

end Cli

end Tollgate
