import Mathlib.Data.List.DropRight
import Mathlib.Data.List.MinMax
import PeerDiscovery.WanLog

/-!
# The vote on the WAN address

The WAN addresses of the last three reports vote.  The candidates are counted in the order in
which they are first named, and the scan of the counts gives up the best one so far only for one
that has more votes.  So it finds the most frequent address, and of several the one that is named
first.  Older reports do not count, and two votes of three decide.
-/

namespace PeerDiscovery

namespace WanLog

/-- An address has won a vote: none has more votes, and those with as many come in later. -/
structure Elects (votes : List Address) (wan : Address) : Prop where
  named : wan ∈ votes
  most : ∀ other, votes.count other ≤ votes.count wan
  first : ∀ other ∈ votes, other ≠ wan → votes.count other = votes.count wan →
    votes.idxOf wan < votes.idxOf other

/-- The counts after some votes: every candidate has its number of votes, and the candidates stand
in the order in which they were first named. -/
structure Tallied (votes : List Address) (counts : List (Address × Nat)) : Prop where
  counted : ∀ entry ∈ counts, entry.2 = votes.count entry.1
  named : ∀ candidate, candidate ∈ counts.map (·.1) ↔ candidate ∈ votes
  ordered : (counts.map (·.1)).Pairwise fun first second =>
    votes.idxOf first < votes.idxOf second

theorem candidates_tally (counts : List (Address × Nat)) (vote : Address) :
    (tally counts vote).map (·.1) =
      if vote ∈ counts.map (·.1) then counts.map (·.1) else counts.map (·.1) ++ [vote] := by
  induction counts with
  | nil => rfl
  | cons entry others ih =>
      obtain ⟨candidate, count⟩ := entry
      unfold tally
      by_cases again : candidate = vote
      · simp [again]
      · rw [if_neg again, List.map_cons, ih]
        by_cases known : vote ∈ others.map (·.1) <;> simp [known, Ne.symm again]

theorem counted_tally (votesFor : Address → Nat) {counts : List (Address × Nat)} {vote : Address}
    (counted : ∀ entry ∈ counts, entry.2 = votesFor entry.1)
    (distinct : (counts.map (·.1)).Nodup)
    (fresh : vote ∉ counts.map (·.1) → votesFor vote = 0) :
    ∀ entry ∈ tally counts vote,
      entry.2 = votesFor entry.1 + if entry.1 = vote then 1 else 0 := by
  induction counts with
  | nil => simpa [tally] using fresh
  | cons first others ih =>
      obtain ⟨candidate, count⟩ := first
      obtain ⟨countedFirst, countedOthers⟩ := List.forall_mem_cons.1 counted
      obtain ⟨notAgain, distinctOthers⟩ := List.nodup_cons.1 distinct
      unfold tally
      by_cases again : candidate = vote
      · rw [if_pos again]
        refine List.forall_mem_cons.2 ⟨?_, fun entry listed => ?_⟩
        · simpa [again] using countedFirst
        · have differs : entry.1 ≠ vote := fun same =>
            notAgain (List.mem_map.2 ⟨entry, listed, same.trans again.symm⟩)
          rw [if_neg differs]
          exact countedOthers entry listed
      · rw [if_neg again]
        refine List.forall_mem_cons.2 ⟨?_, ih countedOthers distinctOthers fun unknown => ?_⟩
        · simpa [again] using countedFirst
        · exact fresh (by simpa [Ne.symm again] using unknown)

theorem Tallied.vote {votes : List Address} {counts : List (Address × Nat)}
    (tallied : Tallied votes counts) (vote : Address) :
    Tallied (votes ++ [vote]) (tally counts vote) := by
  have distinct : (counts.map (·.1)).Nodup := by
    refine tallied.ordered.imp fun earlier same => ?_
    rw [same] at earlier
    exact Nat.lt_irrefl _ earlier
  have ordered : (counts.map (·.1)).Pairwise fun first second =>
      (votes ++ [vote]).idxOf first < (votes ++ [vote]).idxOf second := by
    refine tallied.ordered.imp_of_mem fun {first second} named namedToo earlier => ?_
    rwa [List.idxOf_append_of_mem ((tallied.named _).1 named),
      List.idxOf_append_of_mem ((tallied.named _).1 namedToo)]
  have keys := candidates_tally counts vote
  refine ⟨fun entry listed => ?_, fun candidate => ?_, ?_⟩
  · have counted := counted_tally (votes.count ·) tallied.counted distinct (fun unknown =>
      List.count_eq_zero.2 (mt (tallied.named vote).2 unknown)) entry listed
    rw [counted, List.count_append, List.count_singleton]
    by_cases same : entry.1 = vote <;> simp [same, Ne.symm]
  · rw [keys, List.mem_append, List.mem_singleton, ← tallied.named]
    split
    · rename_i known
      exact ⟨.inl, fun either => either.elim id fun same => same ▸ known⟩
    · rw [List.mem_append, List.mem_singleton]
  · rw [keys]
    split
    · exact ordered
    · rename_i unknown
      refine List.pairwise_append.2 ⟨ordered, List.pairwise_singleton _ _, ?_⟩
      intro candidate named last isVote
      have voted := (tallied.named candidate).1 named
      rw [List.mem_singleton.1 isVote, List.idxOf_append_of_mem voted,
        List.idxOf_append_of_notMem (mt (tallied.named vote).2 unknown)]
      exact Nat.lt_of_lt_of_le (List.idxOf_lt_length_of_mem voted) (Nat.le_add_right _ _)

theorem tallied_foldl (votes : List Address) : Tallied votes (votes.foldl tally []) := by
  induction votes using List.reverseRecOn with
  | nil => exact ⟨by simp, by simp, List.Pairwise.nil⟩
  | append_singleton votes vote ih =>
      rw [List.foldl_append]
      exact ih.vote vote

theorem count_le_of_voted {votes : List Address} {limit : Nat}
    (most : ∀ other ∈ votes, votes.count other ≤ limit) (other : Address) :
    votes.count other ≤ limit := by
  by_cases voted : other ∈ votes
  · exact most other voted
  · rw [List.count_eq_zero_of_not_mem voted]
    exact Nat.zero_le _

theorem le_of_mem_split {before after : List (Address × Nat)} {best entry : Address × Nat}
    (more : ∀ entry ∈ before, entry.2 < best.2) (notMore : ∀ entry ∈ after, entry.2 ≤ best.2)
    (among : entry ∈ before ++ best :: after) : entry.2 ≤ best.2 := by
  rcases List.mem_append.1 among with earlier | later
  · exact Nat.le_of_lt (more entry earlier)
  · rcases List.mem_cons.1 later with rfl | later
    · exact Nat.le_refl _
    · exact notMore entry later

/-- The scan ends with a candidate that has more votes than all before it, and that no later one
has surpassed. -/
theorem exists_eq_append_of_foldl_lead {counts : List (Address × Nat)} {first best : Address × Nat}
    (leads : counts.foldl lead (some first) = some best) :
    ∃ before after, first :: counts = before ++ best :: after ∧
      (∀ entry ∈ before, entry.2 < best.2) ∧ ∀ entry ∈ after, entry.2 ≤ best.2 := by
  induction counts generalizing first with
  | nil =>
      obtain rfl : first = best := Option.some.inj leads
      exact ⟨[], [], rfl, by simp, by simp⟩
  | cons second rest ih =>
      rw [List.foldl_cons, lead] at leads
      split at leads
      · rename_i surpassed
        obtain ⟨before, after, split, more, notMore⟩ := ih leads
        have reached : second.2 ≤ best.2 :=
          le_of_mem_split more notMore (split ▸ List.mem_cons_self)
        refine ⟨first :: before, after, by rw [split, List.cons_append], ?_, notMore⟩
        exact List.forall_mem_cons.2 ⟨Nat.lt_of_lt_of_le surpassed reached, more⟩
      · rename_i held
        obtain ⟨before, after, split, more, notMore⟩ := ih leads
        cases before with
        | nil =>
            obtain ⟨rfl, rfl⟩ := List.cons.inj split
            exact ⟨[], second :: rest, rfl, by simp,
              List.forall_mem_cons.2 ⟨Nat.le_of_not_lt held, notMore⟩⟩
        | cons head others =>
            obtain ⟨rfl, rfl⟩ := List.cons.inj split
            obtain ⟨moreThanFirst, moreThanOthers⟩ := List.forall_mem_cons.1 more
            refine ⟨first :: second :: others, after, rfl, ?_, notMore⟩
            refine List.forall_mem_cons.2 ⟨moreThanFirst, ?_⟩
            exact List.forall_mem_cons.2
              ⟨Nat.lt_of_le_of_lt (Nat.le_of_not_lt held) moreThanFirst, moreThanOthers⟩

theorem elects_iff_mem_argmax {votes : List Address} {wan : Address} :
    Elects votes wan ↔ wan ∈ votes.argmax votes.count := by
  rw [List.mem_argmax_iff]
  constructor
  · rintro ⟨named, most, first⟩
    refine ⟨named, fun other _ => most other, fun other voted many => ?_⟩
    by_cases same : other = wan
    · rw [same]
    · exact Nat.le_of_lt (first other voted same (Nat.le_antisymm (most other) many))
  · rintro ⟨named, most, first⟩
    refine ⟨named, count_le_of_voted most, fun other voted differs equal => ?_⟩
    have before := first other voted (Nat.le_of_eq equal.symm)
    have apart : votes.idxOf wan ≠ votes.idxOf other :=
      fun same => differs ((List.idxOf_inj named).1 same).symm
    exact Nat.lt_of_le_of_ne before apart

theorem Tallied.elects {votes : List Address} {counts : List (Address × Nat)}
    (tallied : Tallied votes counts) {best : Address × Nat}
    (leads : counts.foldl lead none = some best) : Elects votes best.1 := by
  cases counts with
  | nil => cases leads
  | cons first rest =>
      obtain ⟨before, after, split, more, notMore⟩ := exists_eq_append_of_foldl_lead leads
      rw [split] at tallied
      have counted := tallied.counted best (by simp)
      have entryOf : ∀ candidate ∈ votes, ∃ count,
          (candidate, count) ∈ before ++ best :: after ∧ count = votes.count candidate := by
        intro candidate voted
        obtain ⟨⟨_, count⟩, among, rfl⟩ := List.mem_map.1 ((tallied.named candidate).2 voted)
        exact ⟨count, among, tallied.counted _ among⟩
      refine ⟨(tallied.named _).1 (by simp), count_le_of_voted fun other voted => ?_,
        fun other voted differs equal => ?_⟩
      · obtain ⟨count, among, rfl⟩ := entryOf other voted
        rw [← counted]
        exact le_of_mem_split more notMore among
      · -- as many votes are found only behind the best entry
        obtain ⟨count, among, rfl⟩ := entryOf other voted
        have behind : other ∈ after.map (·.1) := by
          rcases List.mem_append.1 among with earlier | later
          · have fewer := more _ earlier
            rw [counted, ← equal] at fewer
            exact absurd fewer (Nat.lt_irrefl _)
          · rcases List.mem_cons.1 later with rfl | later
            · exact absurd rfl differs
            · exact List.mem_map_of_mem later
        have ordered := tallied.ordered
        rw [List.map_append, List.map_cons] at ordered
        exact (List.pairwise_cons.1 (List.pairwise_append.1 ordered).2.1).1 other behind

theorem foldl_lead_ne_none (counts : List (Address × Nat)) (first : Address × Nat) :
    counts.foldl lead (some first) ≠ none := by
  induction counts generalizing first with
  | nil => exact Option.some_ne_none first
  | cons second rest ih =>
      rw [List.foldl_cons, lead]
      split
      · exact ih second
      · exact ih first

/-- Counting and scanning comes to looking for the first of the most frequent votes. -/
theorem estimate?_eq_argmax (log : WanLog) : log.estimate? = log.votes.argmax log.votes.count := by
  have tallied := tallied_foldl log.votes
  unfold estimate?
  dsimp only
  cases leads : (log.votes.foldl tally []).foldl lead none with
  | none =>
      have nobody : log.votes = [] := by
        cases counts : log.votes.foldl tally [] with
        | nil =>
            rw [counts] at tallied
            exact List.eq_nil_iff_forall_not_mem.2 fun candidate voted =>
              List.not_mem_nil ((tallied.named candidate).2 voted)
        | cons first rest =>
            rw [counts] at leads
            exact absurd leads (foldl_lead_ne_none rest first)
      rw [nobody]
      rfl
  | some best => exact (elects_iff_mem_argmax.1 (tallied.elects leads)).symm

theorem estimate?_eq_some_iff (log : WanLog) (wan : Address) :
    log.estimate? = some wan ↔ Elects log.votes wan := by
  rw [estimate?_eq_argmax, elects_iff_mem_argmax, Option.mem_def]

theorem count_add_count_le (votes : List Address) {wan other : Address} (differs : other ≠ wan) :
    votes.count other + votes.count wan ≤ votes.length := by
  induction votes with
  | nil => exact Nat.le_refl 0
  | cons vote others ih =>
      by_cases forWan : vote = wan
      · subst forWan
        rw [List.count_cons_self, List.count_cons_of_ne differs.symm, List.length_cons]
        omega
      · rw [List.count_cons_of_ne forWan, List.count_cons, List.length_cons]
        split <;> omega

theorem elects_of_majority {votes : List Address} {wan : Address}
    (majority : votes.length < 2 * votes.count wan) : Elects votes wan := by
  have fewer : ∀ other, other ≠ wan → votes.count other < votes.count wan := by
    intro other differs
    have both := count_add_count_le votes differs
    omega
  refine ⟨List.count_pos_iff.1 (by omega), fun other => ?_, fun other _ differs equal => ?_⟩
  · by_cases same : other = wan
    · rw [same]
    · exact Nat.le_of_lt (fewer other same)
  · exact absurd equal (Nat.ne_of_lt (fewer other differs))

theorem votes_eq_rtake (log : WanLog) : log.votes = (log.reports.map (·.wan)).rtake voters := by
  rw [votes, List.rtake, List.map_drop, List.length_map]

theorem length_votes (log : WanLog) : log.votes.length = min voters log.reports.length := by
  rw [votes, List.length_map, List.length_drop]
  omega

theorem votes_eq_nil_iff (log : WanLog) : log.votes = [] ↔ log.reports = [] := by
  rw [← List.length_eq_zero_iff, length_votes, ← List.length_eq_zero_iff, voters]
  omega

/-- What the estimate has to do with the reports. -/
structure Voted (log : WanLog) : Prop where
  nobody : log.estimate? = none ↔ log.reports = []
  window : ∃ earlier last, log.reports = earlier ++ last ∧
    last.length = min 3 log.reports.length ∧ log.votes = last.map (·.wan)
  winner : ∀ wan, log.estimate? = some wan ↔ Elects log.votes wan
  recent : ∀ other : WanLog,
    (other.reports.map (·.wan)).rtake 3 = (log.reports.map (·.wan)).rtake 3 →
      other.estimate? = log.estimate?
  majority : ∀ wan, 2 ≤ log.votes.count wan → log.estimate? = some wan

theorem voted (log : WanLog) : Voted log where
  nobody := by rw [estimate?_eq_argmax, List.argmax_eq_none, votes_eq_nil_iff]
  window := by
    refine ⟨_, _, (List.take_append_drop (log.reports.length - voters) log.reports).symm, ?_, rfl⟩
    rw [List.length_drop, voters]
    omega
  winner := log.estimate?_eq_some_iff
  recent other same := by
    have votes : other.votes = log.votes := by
      rw [votes_eq_rtake, votes_eq_rtake]
      exact same
    rw [estimate?_eq_argmax, estimate?_eq_argmax, votes]
  majority wan two := by
    have few := log.length_votes
    rw [voters] at few
    exact (log.estimate?_eq_some_iff wan).2 (elects_of_majority (by omega))

/-- Of four reports the first is too old; the other three name three addresses, and the one named
first of them wins, though the oldest report names another. -/
example :
    (⟨[⟨1, ⟨⟨5, 5, 5, 5⟩, 5⟩, .empty, ⟨⟨3, 3, 3, 3⟩, 3⟩⟩,
        ⟨2, ⟨⟨5, 5, 5, 5⟩, 5⟩, .empty, ⟨⟨2, 2, 2, 2⟩, 2⟩⟩,
        ⟨3, ⟨⟨5, 5, 5, 5⟩, 5⟩, .empty, ⟨⟨1, 1, 1, 1⟩, 1⟩⟩,
        ⟨4, ⟨⟨6, 6, 6, 6⟩, 6⟩, .empty, ⟨⟨3, 3, 3, 3⟩, 3⟩⟩]⟩ : WanLog).estimate? =
      some ⟨⟨2, 2, 2, 2⟩, 2⟩ := by
  decide

end WanLog

end PeerDiscovery
