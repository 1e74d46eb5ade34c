import PeerDiscovery.Configuration.Basic
import PeerDiscovery.Toml.Document
import PeerDiscovery.Toml.Printer

/-!
# Configuration files

A configuration is kept in a TOML file.  Whatever the file leaves out has its
default, but an overlay names its service; what the file has besides is ignored.
-/

namespace PeerDiscovery

open Toml (Value)

namespace WalkEntry

def ofValue? (value : Value) : Option WalkEntry := do
  let plain : WalkEntry := {}
  let [enabled, timeout, window, interval, peers] ←
    value.fields? ["enabled", "timeout_secs", "window_size", "target_interval_secs", "peers"]
    | none
  return {
    enabled := ← Value.orDefault plain.enabled Value.toBool? enabled
    timeout := ← Value.orDefault plain.timeout Value.toFloat? timeout
    window := ← Value.orDefault plain.window Value.toNat? window
    interval := ← Value.orDefault plain.interval Value.toNat? interval
    peers := ← Value.orDefault plain.peers Value.toInt? peers }

def pairs (entry : WalkEntry) : List (List String × Value) :=
  [(["enabled"], .boolean entry.enabled),
    (["timeout_secs"], .float entry.timeout),
    (["window_size"], .integer entry.window),
    (["target_interval_secs"], .integer entry.interval),
    (["peers"], .integer entry.peers)]

end WalkEntry

namespace OverlayEntry

def texts? (value : Value) : Option (List String) :=
  value.toList?.bind fun items => items.mapM Value.toString?

def ofValue? (value : Value) : Option OverlayEntry := do
  let [some service, maxPeers, bootstrap, walk] ←
    value.fields? ["service_id", "max_peers", "bootstrap", "random_walk"]
    | none
  let plain : OverlayEntry := { service := ← service.toString? }
  return { plain with
    maxPeers := ← Value.orDefault plain.maxPeers Value.toInt? maxPeers
    bootstrap := ← Value.orDefault plain.bootstrap texts? bootstrap
    walk := ← Value.orDefault plain.walk WalkEntry.ofValue? walk }

def sections (entry : OverlayEntry) : List Toml.Section :=
  [{ path := ["overlays"]
     isRow := true
     pairs :=
      [(["service_id"], .string entry.service),
        (["max_peers"], .integer entry.maxPeers),
        (["bootstrap"], .array (entry.bootstrap.map Value.string))] },
    { path := ["overlays", "random_walk"]
      isRow := false
      pairs := entry.walk.pairs }]

end OverlayEntry

namespace Configuration

def overlays? (value : Value) : Option (List OverlayEntry) :=
  value.toList?.bind fun items => items.mapM OverlayEntry.ofValue?

def ofText? (home text : String) : Option Configuration := do
  let plain := default home
  let entries ← Toml.read? text
  let missing : Value := .table .header []
  let part (name : String) := (entries.lookup name).getD missing
  let [keyFile] ← (part "node").fields? ["private_key_file"] | none
  let [listen, walkInterval, lanInterval] ← (part "network").fields?
    ["listen_addr", "walker_interval_secs", "lan_estimation_interval_secs"] | none
  let [logLevel] ← (part "logging").fields? ["level"] | none
  return {
    keyFile := ← Value.orDefault plain.keyFile Value.toString? keyFile
    listen := ← Value.orDefault plain.listen Value.toString? listen
    walkInterval := ← Value.orDefault plain.walkInterval Value.toNat? walkInterval
    lanInterval := ← Value.orDefault plain.lanInterval Value.toNat? lanInterval
    overlays := ← Value.orDefault plain.overlays overlays? (entries.lookup "overlays")
    logLevel := ← Value.orDefault plain.logLevel Value.toString? logLevel }

def document (configuration : Configuration) : Toml.Document :=
  let node : Toml.Section := ⟨["node"], false,
    [(["private_key_file"], .string configuration.keyFile)]⟩
  let network : Toml.Section := ⟨["network"], false,
    [(["listen_addr"], .string configuration.listen),
      (["walker_interval_secs"], .integer configuration.walkInterval),
      (["lan_estimation_interval_secs"], .integer configuration.lanInterval)]⟩
  let logging : Toml.Section := ⟨["logging"], false,
    [(["level"], .string configuration.logLevel)]⟩
  { pairs := if configuration.overlays.isEmpty then [(["overlays"], .array [])] else []
    sections := [node, network] ++ configuration.overlays.flatMap OverlayEntry.sections ++
      [logging] }

def text (configuration : Configuration) : String := configuration.document.text

end Configuration

end PeerDiscovery
