import PeerDiscovery.Proofs.WanLog.Vote

/-!
# Reports that agree

When all reports of a WAN log name one WAN address, the vote is for that address,
and the node never takes itself to be behind a symmetric NAT.
-/

namespace PeerDiscovery

namespace WanLog

def Reports (log : WanLog) (holds : WanReport → Prop) : Prop :=
  ∀ report ∈ log.reports, holds report

theorem Reports.add {log : WanLog} {holds : WanReport → Prop} (reports : log.Reports holds)
    {report : WanReport} (new : holds report) : (log.add report).Reports holds := by
  unfold WanLog.add
  split
  · exact reports
  · intro other reported
    rcases List.mem_append.1 reported with before | last
    · exact reports other before
    · cases List.mem_singleton.1 last
      exact new

theorem reports_add_ne_nil (log : WanLog) (report : WanReport) : (log.add report).reports ≠ [] := by
  unfold WanLog.add
  split
  · rename_i repeated
    intro silent
    unfold repeats at repeated
    rw [silent] at repeated
    cases repeated
  · simp

def Names (log : WanLog) (wan : Address) : Prop := log.Reports fun report => report.wan = wan

namespace Names

variable {log : WanLog} {wan : Address}

theorem mem_votes (names : Names log wan) {vote : Address} (voted : vote ∈ log.votes) :
    vote = wan := by
  obtain ⟨report, reported, rfl⟩ := List.mem_map.1 voted
  exact names report (List.mem_of_mem_drop reported)

/-- The estimate is the one address as soon as there is a report. -/
theorem estimate?_eq (names : Names log wan) :
    log.estimate? = if log.reports = [] then none else some wan := by
  rw [estimate?_eq_argmax]
  split
  · rename_i silent
    rw [(votes_eq_nil_iff log).2 silent]
    rfl
  · rename_i reported
    have someone : log.votes.argmax log.votes.count ≠ none :=
      fun none => reported ((votes_eq_nil_iff log).1 (List.argmax_eq_none.1 none))
    obtain ⟨best, elected⟩ := Option.ne_none_iff_exists'.1 someone
    rw [elected, names.mem_votes (List.argmax_mem elected)]

theorem estimate_cases (names : Names log wan) :
    log.estimate?.getD .empty = .empty ∨ log.estimate?.getD .empty = wan := by
  rw [names.estimate?_eq]
  by_cases silent : log.reports = []
  · exact .inl (by rw [if_pos silent]; rfl)
  · exact .inr (by rw [if_neg silent]; rfl)

theorem distinct_le_one (names : Names log wan) : log.distinct ≤ 1 := by
  unfold distinct
  cases listed : log.reports with
  | nil => simp
  | cons first others =>
      have alike : ∀ report ∈ first :: others, report.wan = wan := by
        intro report reported
        rw [← listed] at reported
        exact names report reported
      have nobodyElse : ((others.map (·.wan)).filter fun other => !other == first.wan) = [] := by
        rw [List.filter_eq_nil_iff]
        intro other named
        obtain ⟨report, reported, rfl⟩ := List.mem_map.1 named
        rw [alike report (List.mem_cons_of_mem first reported), alike first (by simp)]
        simp
      rw [List.map_cons, List.eraseDups_cons, nobodyElse]
      simp

end Names

/-- Every report was made while the node had one LAN address, and names one WAN
address. -/
def Agrees (log : WanLog) (lan wan : Address) : Prop :=
  log.Reports fun report => report.lan = lan ∧ report.wan = wan

namespace Agrees

variable {log : WanLog} {lan wan : Address}

theorem empty (lan wan : Address) : Agrees WanLog.empty lan wan := by
  intro report reported
  cases reported

theorem names (agrees : Agrees log lan wan) : Names log wan :=
  fun report reported => (agrees report reported).2

/-- The connection is public where LAN and WAN address are the same, and unknown
otherwise. -/
theorem connection_eq (agrees : Agrees log lan wan) :
    log.connection =
      if log.reports ≠ [] ∧ lan = wan then .reachable else .unknown := by
  have few := agrees.names.distinct_le_one
  have notSymmetric : ¬log.reports.length < 10 * (log.distinct - 1) := by omega
  unfold connection
  dsimp only
  rw [agrees.names.estimate?_eq]
  by_cases silent : log.reports = []
  · simp [silent]
  · have ends : log.reports.getLast? = some (log.reports.getLast silent) :=
      List.getLast?_eq_some_getLast silent
    generalize log.reports.getLast silent = last at ends
    have lastLan : last.lan = lan := (agrees last (List.mem_of_getLast? ends)).1
    by_cases same : lan = wan
    · simp [silent, ends, lastLan, same]
    · simp [silent, ends, lastLan, same, Ne.symm same, notSymmetric]

end Agrees

end WanLog

end PeerDiscovery
