import PeerDiscovery.Decimal.Shortest
import PeerDiscovery.Identifier
import PeerDiscovery.Address.Socket

/-!
# Settings of overlays, walks and nodes

Settings are plain values; what is wrong with them is a `SettingsError`, and
the first fault found is the one that is told.
-/

namespace PeerDiscovery

inductive SettingsError where
  | resetChance (chance : Binary64)
  | emptyBootstrap
  | walkInterval
  | lanInterval
deriving DecidableEq

namespace SettingsError

def message : SettingsError → String
  | resetChance chance => "reset chance must be within 0..=1, got " ++ chance.text
  | emptyBootstrap => "bootstrap address must not be empty"
  | walkInterval => "walker interval must be positive"
  | lanInterval => "LAN estimation interval must be positive"

end SettingsError

structure OverlaySettings where
  service : ServiceId
  /-- With so many peers the overlay verifies no further requester. -/
  maxPeers : Option Nat := some 30
  bootstrap : List Address := []
  bootstrapInterval : Duration := Duration.ofSeconds 5
  /-- How often a bootstrap address is asked although peers are known. -/
  resetChance : Binary64 := .half
deriving DecidableEq

namespace OverlaySettings

def validate (settings : OverlaySettings) : Except SettingsError Unit :=
  if !settings.resetChance.isFraction then .error (.resetChance settings.resetChance)
  else if settings.bootstrap.any Address.isEmpty then .error .emptyBootstrap
  else .ok ()

end OverlaySettings

structure WalkSettings where
  timeout : Duration := Duration.ofSeconds 3
  /-- So many walks may be unanswered at once; zero is no limit. -/
  window : Nat := 5
  interval : Duration := 0
  targetPeers : Option Nat := some 20
deriving DecidableEq

end PeerDiscovery
