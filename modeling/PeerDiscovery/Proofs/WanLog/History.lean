import Mathlib.Data.List.DropRight
import Mathlib.Data.List.Induction
import Mathlib.Data.List.Nodup
import PeerDiscovery.WanLog

/-!
# What the log of WAN addresses remembers

A report is looked up among the reports in the log before it is added.  Over a whole history of
reports and clearings this comes to the same as going through the reports since the last clearing
once and erasing each that has the sender and the WAN address of an earlier one.  It takes both to
be a repetition: a sender may see the node at several addresses, and several senders at one.
-/

namespace PeerDiscovery

namespace WanReport

def testimony (report : WanReport) : Address × Address := (report.sender, report.wan)

end WanReport

namespace WanLog

inductive Change where
  | add (report : WanReport)
  | clear

def Change.report? : Change → Option WanReport
  | add report => some report
  | clear => none

def change (log : WanLog) : Change → WanLog
  | .add report => log.add report
  | .clear => .empty

def run (log : WanLog) (changes : List Change) : WanLog := changes.foldl change log

/-- The reports since the last clearing, or all of them. -/
def sinceClear (changes : List Change) : List WanReport :=
  (changes.rtakeWhile fun change => change.report?.isSome).filterMap Change.report?

/-- The reports without those that repeat the testimony of an earlier one. -/
def firstReports (reports : List WanReport) : List WanReport :=
  reports.eraseDupsBy fun report known => known.testimony == report.testimony

private theorem loop_concat (same : WanReport → WanReport → Bool) (reports known : List WanReport)
    (last : WanReport) :
    List.eraseDupsBy.loop same (reports ++ [last]) known =
      if (List.eraseDupsBy.loop same reports known).any (same last) then
        List.eraseDupsBy.loop same reports known
      else List.eraseDupsBy.loop same reports known ++ [last] := by
  induction reports generalizing known with
  | nil => cases repeated : known.any (same last) <;> simp [List.eraseDupsBy.loop, repeated]
  | cons report reports ih =>
      cases repeated : known.any (same report) <;>
        simp only [List.cons_append, List.eraseDupsBy.loop, repeated, ih]

theorem firstReports_concat (reports : List WanReport) (last : WanReport) :
    firstReports (reports ++ [last]) =
      if last.testimony ∈ (firstReports reports).map WanReport.testimony then firstReports reports
      else firstReports reports ++ [last] := by
  have step := loop_concat (fun report known => known.testimony == report.testimony) reports [] last
  simp only [List.any_eq_true, beq_iff_eq, ← List.mem_map] at step
  exact step

theorem mem_testimonies_firstReports (reports : List WanReport) (testimony : Address × Address) :
    testimony ∈ (firstReports reports).map WanReport.testimony ↔
      testimony ∈ reports.map WanReport.testimony := by
  induction reports using List.reverseRecOn generalizing testimony with
  | nil => exact Iff.rfl
  | append_singleton reports last ih =>
      rw [firstReports_concat]
      simp only [List.map_append, List.map_singleton, List.mem_append, List.mem_singleton]
      split
      · rename_i repeated
        constructor
        · intro named
          exact .inl ((ih testimony).1 named)
        · rintro (before | rfl)
          · exact (ih testimony).2 before
          · exact repeated
      · simp only [List.map_append, List.map_singleton, List.mem_append, List.mem_singleton, ih]

theorem nodup_testimonies_firstReports (reports : List WanReport) :
    ((firstReports reports).map WanReport.testimony).Nodup := by
  induction reports using List.reverseRecOn with
  | nil => exact List.nodup_nil
  | append_singleton reports last ih =>
      rw [firstReports_concat]
      split
      · exact ih
      · rename_i new
        rw [List.map_append, List.map_singleton, ← List.concat_eq_append]
        exact List.Nodup.concat new ih

theorem firstReports_sublist (reports : List WanReport) :
    (firstReports reports).Sublist reports := by
  induction reports using List.reverseRecOn with
  | nil => exact List.Sublist.refl []
  | append_singleton reports last ih =>
      rw [firstReports_concat]
      split
      · exact ih.trans (List.sublist_append_left reports [last])
      · exact ih.append_right [last]

/-- Of all that bear its testimony, a report that is kept is the first. -/
theorem find?_of_mem_firstReports {reports : List WanReport} {report : WanReport}
    (kept : report ∈ firstReports reports) :
    reports.find? (fun known => known.testimony == report.testimony) = some report := by
  induction reports using List.reverseRecOn with
  | nil => cases kept
  | append_singleton reports last ih =>
      rw [List.find?_append]
      rw [firstReports_concat] at kept
      split at kept
      · rw [ih kept, Option.some_or]
      · rename_i new
        rcases List.mem_append.1 kept with before | itself
        · rw [ih before, Option.some_or]
        · cases List.mem_singleton.1 itself
          have unsaid : reports.find? (fun known => known.testimony == report.testimony) = none := by
            rw [List.find?_eq_none]
            intro known listed same
            refine new ((mem_testimonies_firstReports reports _).2 ?_)
            exact List.mem_map.2 ⟨known, listed, by simpa using same⟩
          simp [unsaid]

theorem repeats_iff (log : WanLog) (report : WanReport) :
    log.repeats report = true ↔ report.testimony ∈ log.reports.map WanReport.testimony := by
  simp only [repeats, List.any_eq_true, Bool.and_eq_true, beq_iff_eq, List.mem_map,
    WanReport.testimony, Prod.mk.injEq, and_comm]

/-- Adding to the first reports of a history goes on with the history. -/
theorem add_firstReports (reports : List WanReport) (last : WanReport) :
    add ⟨firstReports reports⟩ last = ⟨firstReports (reports ++ [last])⟩ := by
  rw [firstReports_concat, add]
  by_cases repeated : last.testimony ∈ (firstReports reports).map WanReport.testimony
  · rw [if_pos ((repeats_iff ⟨firstReports reports⟩ last).2 repeated), if_pos repeated]
  · rw [if_neg (mt (repeats_iff ⟨firstReports reports⟩ last).1 repeated), if_neg repeated]

theorem sinceClear_add (changes : List Change) (report : WanReport) :
    sinceClear (changes ++ [.add report]) = sinceClear changes ++ [report] := by
  rw [sinceClear, List.rtakeWhile_concat_pos _ _ _ rfl, List.filterMap_append]
  rfl

theorem sinceClear_clear (changes : List Change) : sinceClear (changes ++ [.clear]) = [] := by
  rw [sinceClear, List.rtakeWhile_concat_neg _ _ _ Bool.false_ne_true]
  rfl

theorem run_concat (log : WanLog) (changes : List Change) (last : Change) :
    log.run (changes ++ [last]) = (log.run changes).change last :=
  List.foldl_concat change log last changes

/-- The log holds the first reports since it was last cleared. -/
theorem run_empty_eq (changes : List Change) :
    WanLog.empty.run changes = ⟨firstReports (sinceClear changes)⟩ := by
  induction changes using List.reverseRecOn with
  | nil => rfl
  | append_singleton changes last ih =>
      rw [run_concat, ih]
      cases last with
      | add report =>
          rw [sinceClear_add]
          exact add_firstReports (sinceClear changes) report
      | clear =>
          rw [sinceClear_clear]
          rfl

/-- What a log is that remembers the first report of every testimony among some reports. -/
structure Remembers (log : WanLog) (added : List WanReport) : Prop where
  reports : log.reports = firstReports added
  inOrder : log.reports.Sublist added
  unique : (log.reports.map WanReport.testimony).Nodup
  complete : ∀ report ∈ added, report.testimony ∈ log.reports.map WanReport.testimony
  first : ∀ report ∈ log.reports,
    added.find? (fun known => known.testimony == report.testimony) = some report
  repeated : ∀ report, report.testimony ∈ added.map WanReport.testimony →
    log.add report = log ∧ (log.add report).estimate? = log.estimate? ∧
      (log.add report).connection = log.connection
  new : ∀ report, report.testimony ∉ added.map WanReport.testimony →
    (log.add report).reports = log.reports ++ [report]

theorem remembers_run_empty (changes : List Change) :
    (WanLog.empty.run changes).Remembers (sinceClear changes) := by
  rw [run_empty_eq]
  refine ⟨rfl, firstReports_sublist _, nodup_testimonies_firstReports _, ?_, ?_, ?_, ?_⟩
  · intro report listed
    exact (mem_testimonies_firstReports _ _).2 (List.mem_map_of_mem listed)
  · intro report kept
    exact find?_of_mem_firstReports kept
  · intro report said
    have same : add ⟨firstReports (sinceClear changes)⟩ report =
        ⟨firstReports (sinceClear changes)⟩ := by
      rw [add_firstReports, firstReports_concat,
        if_pos ((mem_testimonies_firstReports _ _).2 said)]
    rw [same]
    exact ⟨rfl, rfl, rfl⟩
  · intro report unsaid
    rw [add_firstReports, firstReports_concat,
      if_neg (mt (mem_testimonies_firstReports _ _).1 unsaid)]

/-- One sender names two addresses, and two senders name the same; only the fourth report repeats
an earlier one, though from another LAN. -/
example :
    (firstReports
      [⟨1, ⟨⟨5, 5, 5, 5⟩, 5⟩, .empty, ⟨⟨1, 1, 1, 1⟩, 1⟩⟩,
        ⟨2, ⟨⟨5, 5, 5, 5⟩, 5⟩, .empty, ⟨⟨2, 2, 2, 2⟩, 2⟩⟩,
        ⟨3, ⟨⟨6, 6, 6, 6⟩, 6⟩, .empty, ⟨⟨1, 1, 1, 1⟩, 1⟩⟩,
        ⟨4, ⟨⟨5, 5, 5, 5⟩, 5⟩, ⟨⟨10, 0, 0, 1⟩, 1⟩, ⟨⟨1, 1, 1, 1⟩, 1⟩⟩]).map (·.time) =
      [1, 2, 3] := by
  decide

end WanLog

end PeerDiscovery
