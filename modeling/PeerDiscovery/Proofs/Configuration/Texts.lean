import Mathlib.Data.List.Basic
import PeerDiscovery.Configuration.Basic

/-!
# What the texts of a configuration say

The owner of a node writes service identifiers, levels and lengths of time as texts and numbers.
Letters of either case count the same: a text of forty hexadecimal digits spells the service
whose own text is the same up to case, and nothing else spells a service.
-/

namespace PeerDiscovery

def SameUpToCase (left right : String) : Prop :=
  left.toList.map Char.toLower = right.toList.map Char.toLower

namespace Hex

def IsDigit (char : Char) : Prop :=
  ('0' ≤ char ∧ char ≤ '9') ∨ ('a' ≤ char ∧ char ≤ 'f') ∨ ('A' ≤ char ∧ char ≤ 'F')

theorem isSome_value?_iff (char : Char) : (value? char).isSome ↔ IsDigit char := by
  unfold value? IsDigit
  split
  · simp_all
  · split
    · simp_all
    · split <;> simp_all

/-- A character beyond ASCII is neither a digit nor a letter that has another case. -/
theorem value?_of_not_ascii {char : Char} (beyond : 128 ≤ char.toNat) :
    value? char = none ∧ char.toLower = char := by
  have above : ∀ limit : Char, limit.toNat < 128 → ¬char ≤ limit := by
    intro limit ascii within
    have bound : char.toNat ≤ limit.toNat := UInt32.le_iff_toNat_le.1 within
    omega
  constructor
  · rw [value?, if_neg fun both => above '9' (by decide) both.2,
      if_neg fun both => above 'f' (by decide) both.2,
      if_neg fun both => above 'F' (by decide) both.2]
  · exact dif_neg fun both => above 'Z' (by decide) both.2

/-- What is so of all ASCII characters and of all others is so of each character. -/
theorem forall_char {holds : Char → Prop} (ascii : ∀ code : Fin 128, holds (Char.ofNat code))
    (others : ∀ char, 128 ≤ char.toNat → holds char) (char : Char) : holds char := by
  by_cases beyond : 128 ≤ char.toNat
  · exact others char beyond
  · have found := ascii ⟨char.toNat, Nat.not_le.1 beyond⟩
    rwa [Char.ofNat_toNat] at found

theorem value?_toLower (char : Char) : value? char.toLower = value? char := by
  revert char
  refine forall_char (by decide) fun char beyond => ?_
  rw [(value?_of_not_ascii beyond).2]

/-- In lower case a digit is the one that is written for its value. -/
theorem digit_of_value? {char : Char} {value : Nat} (read : value? char = some value) :
    value < 16 ∧ digit value = char.toLower := by
  have each : ∀ char, (value? char).all
      fun value => value < 16 ∧ digit value = char.toLower := by
    refine forall_char (by decide) fun char beyond => ?_
    rw [(value?_of_not_ascii beyond).1]
    rfl
  have this := each char
  rw [read] at this
  simpa using this

theorem forall_mem_digits {holds : Char → Prop} {bytes : Bytes}
    (each : ∀ value < 16, holds (digit value)) : ∀ char ∈ digits bytes, holds char := by
  intro char listed
  obtain ⟨byte, -, written⟩ := List.mem_flatMap.1 listed
  have bound := byte.toNat_lt
  rcases List.mem_cons.1 written with rfl | second
  · exact each _ (by omega)
  · cases List.mem_singleton.1 second
    exact each _ (by omega)

theorem map_toLower_digits (bytes : Bytes) :
    (digits bytes).map Char.toLower = digits bytes := by
  have lower : ∀ value : Fin 16, (digit value).toLower = digit value := by decide
  have each : ∀ char ∈ digits bytes, char.toLower = id char :=
    forall_mem_digits fun value below => lower ⟨value, below⟩
  rw [List.map_congr_left each, List.map_id]

theorem length_digits (bytes : Bytes) : (digits bytes).length = 2 * bytes.length := by
  simp [digits, Nat.mul_comm]

theorem ofDigits?_map_toLower (chars : List Char) :
    ofDigits? (chars.map Char.toLower) = ofDigits? chars := by
  induction chars using ofDigits?.induct with
  | case1 => rfl
  | case2 high low rest ih => simp only [List.map_cons, ofDigits?, value?_toLower, ih]
  | case3 => rfl

/-- Reading two digits of either case, and then the rest. -/
theorem ofDigits?_cons_cons_eq_some_iff {high low : Char} {rest : List Char} {bytes : Bytes} :
    ofDigits? (high :: low :: rest) = some bytes ↔
      ∃ first second others, value? high = some first ∧ value? low = some second ∧
        ofDigits? rest = some others ∧ UInt8.ofNat (16 * first + second) :: others = bytes := by
  simp [ofDigits?, Option.bind_eq_some_iff]

theorem digits_of_ofDigits? {chars : List Char} {bytes : Bytes}
    (read : ofDigits? chars = some bytes) : digits bytes = chars.map Char.toLower := by
  induction chars using ofDigits?.induct generalizing bytes with
  | case1 => cases read; rfl
  | case2 high low rest ih =>
    obtain ⟨first, second, others, highRead, lowRead, restRead, rfl⟩ :=
      ofDigits?_cons_cons_eq_some_iff.1 read
    obtain ⟨firstBelow, firstDigit⟩ := digit_of_value? highRead
    obtain ⟨secondBelow, secondDigit⟩ := digit_of_value? lowRead
    have value : (UInt8.ofNat (16 * first + second)).toNat = 16 * first + second :=
      UInt8.toNat_ofNat_of_lt' (by change _ < 256; omega)
    have highHalf : (16 * first + second) / 16 = first := by omega
    have lowHalf : (16 * first + second) % 16 = second := by omega
    have written : digits (UInt8.ofNat (16 * first + second) :: others) =
        digit ((16 * first + second) / 16) :: digit ((16 * first + second) % 16) ::
          digits others := by
      rw [digits, List.flatMap_cons, value]
      rfl
    rw [written, highHalf, lowHalf, firstDigit, secondDigit, ih restRead]
    rfl
  | case3 => cases read

/-- Text is read as the bytes whose digits it has, up to case. -/
theorem ofDigits?_eq_some_iff {chars : List Char} {bytes : Bytes} :
    ofDigits? chars = some bytes ↔ digits bytes = chars.map Char.toLower := by
  constructor
  · exact digits_of_ofDigits?
  · intro same
    rw [← ofDigits?_map_toLower, ← same, ofDigits?_digits]

theorem exists_ofDigits? {chars : List Char} (even : chars.length % 2 = 0)
    (each : ∀ char ∈ chars, IsDigit char) : ∃ bytes, ofDigits? chars = some bytes := by
  induction chars using ofDigits?.induct with
  | case1 => exact ⟨[], rfl⟩
  | case2 high low rest ih =>
    have digitOf : ∀ char ∈ high :: low :: rest, ∃ value, value? char = some value :=
      fun char listed => Option.isSome_iff_exists.1 ((isSome_value?_iff char).2 (each char listed))
    obtain ⟨first, highRead⟩ := digitOf high (by simp)
    obtain ⟨second, lowRead⟩ := digitOf low (by simp)
    have evenRest : rest.length % 2 = 0 := by
      simp only [List.length_cons] at even
      omega
    obtain ⟨others, restRead⟩ := ih evenRest fun char listed => each char (by simp [listed])
    exact ⟨_, ofDigits?_cons_cons_eq_some_iff.2
      ⟨first, second, others, highRead, lowRead, restRead, rfl⟩⟩
  | case3 => simp at even

end Hex

namespace ServiceId

def IsSpelled (text : String) : Prop :=
  text.toList.length = 40 ∧ ∀ char ∈ text.toList, Hex.IsDigit char

theorem ofText_eq_ok_iff_decode? {text : String} {service : ServiceId} :
    ofText text = .ok service ↔ Hex.decode? text = some service.id.bytes := by
  unfold ofText
  split
  · rename_i unread
    simp [unread]
  · rename_i bytes read
    rw [read, Option.some.injEq, ← Block.ofBytes?_eq_some_iff]
    split
    · rename_i short
      simp [short]
    · rename_i id cut
      rw [cut, Option.some.injEq, Except.ok.injEq, ServiceId.ext_iff]

/-- A text spells the service whose own text it is, up to case. -/
theorem ofText_eq_ok_iff {text : String} {service : ServiceId} :
    ofText text = .ok service ↔ SameUpToCase service.text text := by
  rw [ofText_eq_ok_iff_decode?, Hex.decode?, Hex.ofDigits?_eq_some_iff, SameUpToCase,
    ServiceId.text, Hex.encode, String.toList_ofList, Hex.map_toLower_digits]

theorem exists_ofText_iff {text : String} :
    (∃ service, ofText text = .ok service) ↔ IsSpelled text := by
  constructor
  · rintro ⟨service, read⟩
    have same := ofText_eq_ok_iff.1 read
    have digits : text.toList.map Char.toLower = Hex.digits service.id.bytes :=
      (Hex.digits_of_ofDigits? (ofText_eq_ok_iff_decode?.1 read)).symm
    constructor
    · have lengths := congrArg List.length digits
      rwa [List.length_map, Hex.length_digits, service.id.length_bytes] at lengths
    · intro char listed
      have lower : char.toLower ∈ Hex.digits service.id.bytes := by
        rw [← digits]
        exact List.mem_map_of_mem listed
      rw [← Hex.isSome_value?_iff, ← Hex.value?_toLower]
      revert lower
      generalize char.toLower = written
      revert written
      exact Hex.forall_mem_digits fun value below => by rw [Hex.value?_digit value below]; rfl
  · rintro ⟨forty, each⟩
    obtain ⟨bytes, read⟩ := Hex.exists_ofDigits? (by rw [forty]) each
    have lengths := congrArg List.length (Hex.digits_of_ofDigits? read)
    rw [Hex.length_digits, List.length_map, forty] at lengths
    have twenty : bytes.length = 20 := by omega
    exact ⟨⟨⟨bytes, twenty⟩⟩, ofText_eq_ok_iff_decode?.2 read⟩

/-- Of two texts that spell services, both spell the same one exactly if they differ in case only. -/
theorem ofText_eq_iff {left right : String} (spelled : IsSpelled left) :
    ofText left = ofText right ↔ SameUpToCase left right := by
  obtain ⟨service, read⟩ := exists_ofText_iff.2 spelled
  have leftSame : SameUpToCase service.text left := ofText_eq_ok_iff.1 read
  rw [read, eq_comm, ofText_eq_ok_iff]
  constructor
  · exact fun rightSame => leftSame.symm.trans rightSame
  · exact fun same => leftSame.trans same

end ServiceId

theorem isLogLevel_iff (level : String) :
    Configuration.isLogLevel level = true ↔ ∃ name ∈ logLevels, SameUpToCase level name := by
  have lower : ∀ name ∈ logLevels, name.toList.map Char.toLower = name.toList := by decide
  rw [Configuration.isLogLevel, List.contains_iff_mem]
  constructor
  · intro listed
    refine ⟨_, listed, ?_⟩
    rw [SameUpToCase, lower _ listed, String.toList_ofList]
  · rintro ⟨name, listed, same⟩
    rw [SameUpToCase, lower name listed] at same
    rwa [same, String.ofList_toList]

/-- What a number says as a limit: negative ones set none. -/
def IsLimit (number : Int) : Option Nat → Prop
  | none => number < 0
  | some limit => number = limit

theorem limitOf_eq_iff {number : Int} {limit : Option Nat} :
    limitOf number = limit ↔ IsLimit number limit := by
  cases number with
  | ofNat count =>
    cases limit with
    | none => simp [limitOf, IsLimit]
    | some limit =>
      rw [limitOf, IsLimit, Option.some.injEq]
      exact Int.ofNat_inj.symm
  | negSucc count =>
    cases limit with
    | none => simp [limitOf, IsLimit]
    | some limit => simp [limitOf, IsLimit]

namespace Binary64

/-- So many seconds are a length of time: they are finite, not below zero, and fewer than
`2 ^ 64`. -/
def IsSpan : Binary64 → Prop
  | finite negative significand shift =>
    (negative = true → significand = 0) ∧ significand <<< shift < one <<< 64
  | _ => False

theorem exists_toDuration?_iff (seconds : Binary64) :
    (∃ span, seconds.toDuration? = some span) ↔ seconds.IsSpan := by
  cases seconds with
  | nan => simp [toDuration?, IsSpan]
  | infinite negative => simp [toDuration?, IsSpan]
  | finite negative significand shift =>
    have zero : significand <<< shift = 0 ↔ significand = 0 := by
      rw [Nat.shiftLeft_eq, Nat.mul_eq_zero]
      exact or_iff_left (Nat.pos_iff_ne_zero.1 (Nat.two_pow_pos shift))
    simp only [toDuration?, IsSpan]
    split
    · rename_i below
      rw [Bool.and_eq_true, decide_eq_true_iff, ne_eq, zero] at below
      simp [below]
    · rename_i notBelow
      rw [Bool.and_eq_true, decide_eq_true_iff, ne_eq, zero, not_and, Decidable.not_not] at notBelow
      split
      · rename_i long
        simp [Nat.not_lt.2 long]
      · rename_i short
        exact iff_of_true ⟨_, rfl⟩ ⟨notBelow, Nat.not_le.1 short⟩

end Binary64

end PeerDiscovery
