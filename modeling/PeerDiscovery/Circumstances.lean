/-!
# Time and chance

Points in time and lengths of time are counted in whole nanoseconds.  Whatever is left to chance
is a function of numbers that are drawn elsewhere, so that every outcome of a draw can be spoken
about.
-/

namespace PeerDiscovery

abbrev Instant := Nat

abbrev Duration := Nat

namespace Duration

def ofMillis (count : Nat) : Duration := count * 1000000

def ofSeconds (count : Nat) : Duration := count * 1000000000

def toMillis (duration : Duration) : Nat := duration / 1000000

end Duration

namespace Instant

/-- The later of two points in time that may be missing. -/
def latest? (left right : Option Instant) : Option Instant :=
  match left, right with
  | some left, some right => some (max left right)
  | some left, none => some left
  | none, right => right

/-- The time from a point to a later one, or none at all. -/
def elapsed (since now : Instant) : Duration := now - since

end Instant

/-- One toss and one choice. -/
structure Draw where
  /-- A fraction of one in units of `2 ^ -53`. -/
  coin : Nat
  /-- Any number, which chooses modulo the number of candidates. -/
  pick : Nat

def choose? {Candidate : Type} (candidates : List Candidate) (pick : Nat) : Option Candidate :=
  candidates[pick % candidates.length]?

theorem mem_of_choose?_eq_some {Candidate : Type} {candidates : List Candidate} {pick : Nat}
    {chosen : Candidate} (found : choose? candidates pick = some chosen) : chosen ∈ candidates :=
  List.mem_of_getElem? found

theorem choose?_eq_none_iff {Candidate : Type} {candidates : List Candidate} {pick : Nat} :
    choose? candidates pick = none ↔ candidates = [] := by
  unfold choose?
  rw [List.getElem?_eq_none_iff]
  cases candidates with
  | nil => simp
  | cons first others =>
    simp only [reduceCtorEq, iff_false, Nat.not_le]
    exact Nat.mod_lt pick (Nat.succ_pos others.length)

end PeerDiscovery
