import PeerDiscovery.Address.Basic
import PeerDiscovery.Payload.Connection
import PeerDiscovery.Peer

/-!
# The log of reported WAN addresses

Every introduction response tells at which address the responder saw the node.
The log keeps the first report of each pair of sender and WAN address, in the
order of arrival.  The last three reports vote on the WAN address, and the log
as a whole tells how the node is connected.
-/

namespace PeerDiscovery

/-- One report of the node's WAN address. -/
@[ext]
structure WanReport where
  time : Instant
  sender : Address
  /-- The node's LAN address at that time. -/
  lan : Address
  /-- The address at which the sender saw the node. -/
  wan : Address
deriving DecidableEq

/-- The reports in the order of arrival. -/
@[ext]
structure WanLog where
  reports : List WanReport
deriving DecidableEq

namespace WanLog

def empty : WanLog := ⟨[]⟩

/-- How many of the last reports vote. -/
def voters : Nat := 3

/-- Whether a sender has reported this WAN address already. -/
def repeats (log : WanLog) (report : WanReport) : Bool :=
  log.reports.any fun known => known.wan == report.wan && known.sender == report.sender

/-- The log with one more report, unless its sender repeats itself. -/
def add (log : WanLog) (report : WanReport) : WanLog :=
  if log.repeats report then log else ⟨log.reports ++ [report]⟩

/-- The WAN addresses of the last reports, oldest first. -/
def votes (log : WanLog) : List Address :=
  (log.reports.drop (log.reports.length - voters)).map (·.wan)

/-- One more vote: a candidate that has votes gets one more, and a new candidate comes last. -/
def tally : List (Address × Nat) → Address → List (Address × Nat)
  | [], vote => [(vote, 1)]
  | (candidate, count) :: rest, vote =>
    if candidate = vote then (candidate, count + 1) :: rest
    else (candidate, count) :: tally rest vote

/-- A candidate takes the lead only if it has more votes than the one before it. -/
def lead (best : Option (Address × Nat)) (candidate : Address × Nat) : Option (Address × Nat) :=
  match best with
  | none => some candidate
  | some best => if best.2 < candidate.2 then some candidate else some best

/-- The WAN address that most of the last reports name; in a tie, the one named
first. -/
def estimate? (log : WanLog) : Option Address :=
  let counts := log.votes.foldl tally []
  (counts.foldl lead none).map (·.1)

/-- The number of different WAN addresses in the log. -/
def distinct (log : WanLog) : Nat :=
  (log.reports.map (·.wan)).eraseDups.length

/-- How the node is connected: reachable when its WAN address is the LAN address
of the last report; behind a symmetric NAT when, among at least two
reports, more than a tenth name yet another WAN address; else unknown. -/
def connection (log : WanLog) : ConnectionType :=
  let lan := log.reports.getLast?.map (·.lan)
  if log.estimate?.isSome && log.estimate? == lan then .reachable
  else if 1 < log.reports.length && log.reports.length < 10 * (log.distinct - 1) then .symmetric
  else .unknown

end WanLog

end PeerDiscovery
