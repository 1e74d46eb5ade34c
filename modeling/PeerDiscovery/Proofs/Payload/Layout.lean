import PeerDiscovery.Proofs.Payload.RoundTrip

/-!
# Where fields end

Every reader of payloads goes through a row of fields.  It fails only when a field
ends behind the byte string, and tells where that field would end.  What it reads is
written with the bytes that it has read, up to the bits of the connection byte that
mean nothing.

`IsField` says so of one field and `ReadsRow` of a row, so the readers of the payloads
follow from the widths of their fields (`Payload.reading`).
-/

namespace PeerDiscovery

/-- The end of the first field that does not fit into a length, if there is one. -/
def missing? (ends : List Nat) (length : Nat) : Option Nat := ends.find? (length < ·)

/-- What comes of reading fields that end at some places from a byte string. -/
inductive Reading {Result : Type} (ends : List Nat) (length : Nat) (holds : Result → Prop) :
    Except PacketError Result → Prop where
  | short (needed : Nat) :
      missing? ends length = some needed →
      Reading ends length holds (.error (.tooShort needed length))
  | complete (result : Result) :
      missing? ends length = none → holds result → Reading ends length holds (.ok result)

namespace Reading

variable {First Second : Type} {ends : List Nat} {length : Nat} {holds : First → Prop}
  {outcome : Except PacketError First}

theorem map (reading : Reading ends length holds outcome) (convert : First → Second)
    {after : Second → Prop} (carries : ∀ result, holds result → after (convert result)) :
    Reading ends length after (outcome.map convert) := by
  cases reading with
  | short needed absent => exact .short needed absent
  | complete result enough held => exact .complete _ enough (carries result held)

theorem imp (reading : Reading ends length holds outcome) {weaker : First → Prop}
    (weakens : ∀ result, holds result → weaker result) :
    Reading ends length weaker outcome := by
  cases reading with
  | short needed absent => exact .short needed absent
  | complete result enough held => exact .complete result enough (weakens result held)

theorem isOk_iff (reading : Reading ends length holds outcome) :
    (∃ result, outcome = .ok result) ↔ missing? ends length = none := by
  cases reading with
  | short needed absent => simp [absent]
  | complete result enough held => simp [enough]

theorem eq_error_iff (reading : Reading ends length holds outcome) (cause : PacketError) :
    outcome = .error cause ↔
      ∃ needed, missing? ends length = some needed ∧ cause = .tooShort needed length := by
  cases reading with
  | short needed absent => simp [absent, eq_comm]
  | complete result enough held => simp [enough]

theorem of_eq_ok (reading : Reading ends length holds outcome) {result : First}
    (read : outcome = .ok result) : holds result := by
  cases reading with
  | short needed absent => cases read
  | complete found enough held =>
    cases read
    exact held

end Reading

namespace Cursor

variable {Value Result : Type} {width : Nat} {widths : List Nat}

def total (cursor : Cursor) : Nat := cursor.position + cursor.rest.length

/-- Reads a field of a width, as the value that is written with the same bytes. -/
structure IsField (width : Nat) (write : Value → Bytes)
    (read : Cursor → Except PacketError (Value × Cursor)) : Prop where
  fits : ∀ cursor : Cursor, width ≤ cursor.rest.length →
    ∃ value, write value = cursor.rest.take width ∧
      read cursor = .ok (value, ⟨cursor.position + width, cursor.rest.drop width⟩)
  short : ∀ cursor : Cursor, cursor.rest.length < width →
    read cursor = .error (.tooShort (cursor.position + width) cursor.total)

theorem isField_of_take {write : Value → Bytes}
    {read : Cursor → Except PacketError (Value × Cursor)} (convert : Bytes → Value)
    (same : ∀ front : Bytes, front.length = width → write (convert front) = front)
    (reads : ∀ cursor : Cursor, read cursor =
      (cursor.take width).map fun (front, next) => (convert front, next)) :
    IsField width write read where
  fits cursor enough := by
    refine ⟨convert (cursor.rest.take width), same _ (List.length_take_of_le enough), ?_⟩
    simp [reads, take, enough, Except.map]
  short cursor few := by
    simp [reads, take, Nat.not_le.2 few, total, Except.map]

theorem isField_take (width : Nat) :
    IsField width (fun bytes : Bytes => bytes) fun cursor => cursor.take width := by
  refine isField_of_take (fun front => front) (fun _ _ => rfl) fun cursor => ?_
  cases cursor.take width <;> rfl

theorem number_eq_map (cursor : Cursor) (width : Nat) :
    cursor.number width =
      (cursor.take width).map fun (front, next) => (Bytes.toNatBE front, next) := by
  unfold number
  cases cursor.take width <;> rfl

theorem isField_uint8 : IsField 1 (fun byte => [byte]) uint8 := by
  refine isField_of_take (fun front => .ofNat front.toNatBE) ?_ fun cursor => ?_
  · intro front one
    obtain ⟨byte, rfl⟩ := List.length_eq_one_iff.1 one
    simp [Bytes.toNatBE]
  · unfold uint8
    rw [number_eq_map]
    cases cursor.take 1 <;> rfl

/-- Two bytes are written as the number that they spell. -/
theorem ofNatBE_uint16 {front : Bytes} (two : front.length = 2) :
    Bytes.ofNatBE 2 (UInt16.ofNat front.toNatBE).toNat = front := by
  have small := front.toNatBE_lt
  rw [two] at small
  rw [UInt16.toNat_ofNat_of_lt' small, ← two, Bytes.ofNatBE_toNatBE]

theorem isField_uint16 :
    IsField 2 (fun value : UInt16 => Bytes.ofNatBE 2 value.toNat) uint16 := by
  refine isField_of_take (fun front => .ofNat front.toNatBE) ?_ fun cursor => ?_
  · intro front two
    exact ofNatBE_uint16 two
  · unfold uint16
    rw [number_eq_map]
    cases cursor.take 2 <;> rfl

theorem isField_uint64 :
    IsField 8 (fun value : UInt64 => Bytes.ofNatBE 8 value.toNat) uint64 := by
  refine isField_of_take (fun front => .ofNat front.toNatBE) ?_ fun cursor => ?_
  · intro front eight
    have small := front.toNatBE_lt
    rw [eight] at small
    rw [UInt64.toNat_ofNat_of_lt' small, ← eight, Bytes.ofNatBE_toNatBE]
  · unfold uint64
    rw [number_eq_map]
    cases cursor.take 8 <;> rfl

theorem isField_address : IsField Address.size Address.encode address := by
  refine isField_of_take (fun front => (Address.ofBytes? front).getD .empty) ?_ fun cursor => ?_
  · intro front six
    match front, six with
    | [first, second, third, fourth, high, low], _ =>
      have port := ofNatBE_uint16 (show [high, low].length = 2 from rfl)
      simp only [Address.ofBytes?, Option.getD_some, Address.encode, Ipv4.octets, port,
        List.cons_append, List.nil_append]
  · unfold address
    cases cursor.take Address.size <;> rfl

theorem IsField.reading {write : Value → Bytes}
    {read : Cursor → Except PacketError (Value × Cursor)} (field : IsField width write read)
    (cursor : Cursor) {laterEnds : List Nat} (next : Value → Cursor → Except PacketError Result)
    (holds : Value → Result → Prop)
    (later : width ≤ cursor.rest.length → ∀ value, write value = cursor.rest.take width →
      Reading laterEnds cursor.total (holds value)
        (next value ⟨cursor.position + width, cursor.rest.drop width⟩)) :
    Reading ((cursor.position + width) :: laterEnds) cursor.total
      (fun result => ∃ value, write value = cursor.rest.take width ∧ holds value result)
      (read cursor >>= fun found => next found.1 found.2) := by
  by_cases few : cursor.rest.length < width
  · have outside : cursor.total < cursor.position + width := Nat.add_lt_add_left few _
    rw [field.short cursor few]
    exact .short _ (by simp [missing?, outside])
  · have enough : width ≤ cursor.rest.length := Nat.not_lt.1 few
    have inside : ¬cursor.total < cursor.position + width :=
      Nat.not_lt.2 (Nat.add_le_add_left enough _)
    have skip : missing? ((cursor.position + width) :: laterEnds) cursor.total =
        missing? laterEnds cursor.total := by
      simp [missing?, inside]
    obtain ⟨value, written, found⟩ := field.fits cursor enough
    have reads : (read cursor >>= fun found => next found.1 found.2) =
        next value ⟨cursor.position + width, cursor.rest.drop width⟩ := by
      rw [found]
      rfl
    have following := later enough value written
    rw [reads]
    generalize next value _ = outcome at following
    cases following with
    | short needed absent => exact .short needed (skip.trans absent)
    | complete result fitting held =>
      exact .complete result (skip.trans fitting) ⟨value, written, held⟩

/-- Where fields of these widths end, when the first one starts at a position. -/
def ends (position : Nat) : List Nat → List Nat
  | [] => []
  | width :: widths => (position + width) :: ends (position + width) widths

/-- Reads fields of these widths in a row, with a result that the bytes account for. -/
def ReadsRow (widths : List Nat) (holds : Bytes → Result → Prop)
    (read : Cursor → Except PacketError Result) : Prop :=
  ∀ cursor : Cursor,
    Reading (ends cursor.position widths) cursor.total (holds cursor.rest) (read cursor)

theorem readsRow_nil (result : Bytes → Result) :
    ReadsRow [] (fun rest found => found = result rest) fun cursor => .ok (result cursor.rest) :=
  fun _ => .complete _ rfl rfl

theorem total_skip {cursor : Cursor} (enough : width ≤ cursor.rest.length) :
    total ⟨cursor.position + width, cursor.rest.drop width⟩ = cursor.total := by
  simp only [total, List.length_drop]
  omega

theorem IsField.readsRow {write : Value → Bytes}
    {read : Cursor → Except PacketError (Value × Cursor)} (field : IsField width write read)
    {holds : Value → Bytes → Result → Prop}
    {next : Value → Cursor → Except PacketError Result}
    (others : ∀ value, ReadsRow widths (holds value) (next value)) :
    ReadsRow (width :: widths)
      (fun bytes result => ∃ value rest, bytes = write value ++ rest ∧ holds value rest result)
      fun cursor => read cursor >>= fun found => next found.1 found.2 := by
  intro cursor
  have reading := field.reading cursor next (fun value => holds value (cursor.rest.drop width))
    fun enough value _ => total_skip enough ▸
      others value ⟨cursor.position + width, cursor.rest.drop width⟩
  refine reading.imp ?_
  rintro result ⟨value, written, held⟩
  refine ⟨value, cursor.rest.drop width, ?_, held⟩
  rw [written, List.take_append_drop]

end Cursor

namespace ConnectionFlags

/-- A connection byte as it is written again: of the bits that a message keeps, with an
undefined connection as an unknown one. -/
def canonical (kept byte : UInt8) : UInt8 :=
  if byte &&& 0xc0 = 0x40 then byte &&& kept &&& 0x3f else byte &&& kept

theorem forall_byte {motive : UInt8 → Prop}
    (numbers : ∀ number : Fin 256, motive (.ofNat number)) (byte : UInt8) : motive byte := by
  have found := numbers ⟨byte.toNat, byte.toNat_lt⟩
  rwa [UInt8.ofNat_toNat] at found

/-- A request keeps the advice bit and the connection. -/
theorem encode_advice (byte : UInt8) :
    encode ⟨(decode byte).connection, (decode byte).advice, false⟩ = canonical 0xc1 byte := by
  revert byte
  exact forall_byte (by decide +kernel)

/-- A response keeps the tunnel bit and the connection. -/
theorem encode_tunnel (byte : UInt8) :
    encode ⟨(decode byte).connection, false, (decode byte).tunnel⟩ = canonical 0xc2 byte := by
  revert byte
  exact forall_byte (by decide +kernel)

end ConnectionFlags

private theorem modify_append_cons (front : Bytes) (byte : UInt8) (rest : Bytes)
    (change : UInt8 → UInt8) :
    (front ++ byte :: rest).modify front.length change = front ++ change byte :: rest := by
  induction front with
  | nil => rfl
  | cons first front ih => simpa using ih

namespace Cursor

theorem ReadsRow.reading {Result : Type} {widths : List Nat} {holds : Bytes → Result → Prop}
    {read : Cursor → Except PacketError Result} (row : ReadsRow widths holds read)
    (bytes : Bytes) :
    Reading (ends 0 widths) bytes.length (holds bytes) (read (start bytes)) := by
  have reading := row (start bytes)
  rwa [show (start bytes).total = bytes.length from Nat.zero_add _] at reading

end Cursor

open Cursor

namespace IntroductionRequest

theorem reading (bytes : Bytes) :
    Reading [6, 12, 18, 19, 21] bytes.length
      (fun found => found.2 = [] ∧
        found.1.encode = bytes.modify 18 (ConnectionFlags.canonical 0xc1))
      (decode bytes) := by
  have row := isField_address.readsRow fun destination =>
    isField_address.readsRow fun sourceLan =>
    isField_address.readsRow fun sourceWan =>
    isField_uint8.readsRow fun byte =>
    isField_uint16.readsRow fun identifier =>
    readsRow_nil fun rest => ((⟨destination, sourceLan, sourceWan,
      (ConnectionFlags.decode byte).advice, (ConnectionFlags.decode byte).connection, identifier,
      rest⟩ : IntroductionRequest), ([] : Bytes))
  refine (row.reading bytes).imp ?_
  rintro _ ⟨destination, _, rfl, sourceLan, _, rfl, sourceWan, _, rfl, byte, _, rfl, identifier,
    extra, rfl, rfl⟩
  refine ⟨rfl, ?_⟩
  have written := modify_append_cons
    (destination.encode ++ sourceLan.encode ++ sourceWan.encode) byte
    (Bytes.ofNatBE 2 identifier.toNat ++ extra) (ConnectionFlags.canonical 0xc1)
  simp only [List.append_assoc, List.cons_append, List.nil_append] at written ⊢
  simp only [encode, ConnectionFlags.encode_advice, List.append_assoc, List.cons_append,
    List.nil_append]
  exact written.symm

end IntroductionRequest

namespace IntroductionResponse

theorem reading (bytes : Bytes) :
    Reading [6, 12, 18, 24, 30, 31, 33] bytes.length
      (fun found => found.2 = [] ∧
        found.1.encode = bytes.modify 30 (ConnectionFlags.canonical 0xc2))
      (decode bytes) := by
  have row := isField_address.readsRow fun destination =>
    isField_address.readsRow fun sourceLan =>
    isField_address.readsRow fun sourceWan =>
    isField_address.readsRow fun introLan =>
    isField_address.readsRow fun introWan =>
    isField_uint8.readsRow fun byte =>
    isField_uint16.readsRow fun identifier =>
    readsRow_nil fun rest => ((⟨destination, sourceLan, sourceWan, introLan, introWan,
      (ConnectionFlags.decode byte).connection, (ConnectionFlags.decode byte).tunnel, identifier,
      rest⟩ : IntroductionResponse), ([] : Bytes))
  refine (row.reading bytes).imp ?_
  rintro _ ⟨destination, _, rfl, sourceLan, _, rfl, sourceWan, _, rfl, introLan, _, rfl, introWan,
    _, rfl, byte, _, rfl, identifier, extra, rfl, rfl⟩
  refine ⟨rfl, ?_⟩
  have written := modify_append_cons
    (destination.encode ++ sourceLan.encode ++ sourceWan.encode ++ introLan.encode ++
      introWan.encode) byte
    (Bytes.ofNatBE 2 identifier.toNat ++ extra) (ConnectionFlags.canonical 0xc2)
  simp only [List.append_assoc, List.cons_append, List.nil_append] at written ⊢
  simp only [encode, ConnectionFlags.encode_tunnel, List.append_assoc, List.cons_append,
    List.nil_append]
  exact written.symm

end IntroductionResponse

namespace Puncture

theorem reading (bytes : Bytes) :
    Reading [6, 12, 14] bytes.length (fun found => found.1.encode ++ found.2 = bytes)
      (decode bytes) := by
  have row := isField_address.readsRow fun lan =>
    isField_address.readsRow fun wan =>
    isField_uint16.readsRow fun identifier =>
    readsRow_nil fun rest => ((⟨lan, wan, identifier⟩ : Puncture), rest)
  refine (row.reading bytes).imp ?_
  rintro _ ⟨lan, _, rfl, wan, _, rfl, identifier, rest, rfl, rfl⟩
  simp only [encode, List.append_assoc]

end Puncture

namespace GlobalTime

theorem reading (bytes : Bytes) :
    Reading [8] bytes.length (fun found => encode found.1 ++ found.2 = bytes) (decode bytes) := by
  have row := isField_uint64.readsRow fun time => readsRow_nil fun rest => (time, rest)
  refine (row.reading bytes).imp ?_
  rintro _ ⟨time, rest, rfl, rfl⟩
  rfl

end GlobalTime

namespace KeyField

/-- The length that the first two bytes claim for the key behind them. -/
def claimed (bytes : Bytes) : Nat := Bytes.toNatBE (bytes.take 2)

theorem reading_key (cursor : Cursor) (length : Nat) :
    Reading [cursor.position + length] cursor.total
      (fun found => found.1 ++ found.2 = cursor.rest ∧ found.1.length = length)
      (cursor.take length >>= fun found => .ok (found.1, found.2.rest)) := by
  have reading := (isField_take length).reading cursor
    (fun key behind => .ok (key, behind.rest))
    (fun key found => found = (key, cursor.rest.drop length) ∧ length ≤ cursor.rest.length)
    fun enough key _ => .complete _ (rfl : missing? [] cursor.total = none) ⟨rfl, enough⟩
  refine reading.imp ?_
  rintro _ ⟨key, rfl, rfl, enough⟩
  exact ⟨List.take_append_drop _ _, List.length_take_of_le enough⟩

theorem reading (bytes : Bytes) :
    Reading [2, 2 + claimed bytes] bytes.length
      (fun found => encode found.1 ++ found.2 = bytes ∧ found.1.length = claimed bytes)
      (decode bytes) := by
  have whole : (start bytes).total = bytes.length := Nat.zero_add _
  have reading := isField_uint16.reading (start bytes)
    (fun length cursor => cursor.take length.toNat >>= fun found => .ok (found.1, found.2.rest))
    (fun length found => length.toNat = claimed bytes ∧ found.1 ++ found.2 = bytes.drop 2 ∧
      found.1.length = claimed bytes)
    fun enough length written => by
      have small : length.toNat < Bytes.bound 2 := length.toNat_lt
      have claims : length.toNat = claimed bytes := by
        rw [claimed, show bytes.take 2 = _ from written.symm, Bytes.toNatBE_ofNatBE,
          Nat.mod_eq_of_lt small]
      rw [← total_skip enough, claims]
      exact (reading_key ⟨2, bytes.drop 2⟩ (claimed bytes)).imp fun found held => ⟨rfl, held⟩
  rw [whole] at reading
  refine reading.imp ?_
  rintro ⟨key, rest⟩ ⟨length, written, claims, behind, long⟩
  refine ⟨?_, long⟩
  dsimp only at behind long ⊢
  rw [encode, List.append_assoc, behind, long, ← claims, written]
  exact List.take_append_drop 2 bytes

end KeyField

end PeerDiscovery
