import PeerDiscovery.Payload.Basic

/-!
# Written payloads read back

A cursor at the front of a written field reads that field and stops behind it.
From the fields follow the formats: what was written is read back, and the
formats of fixed width leave alone whatever follows.  For keys and global times
the converse is shown too, since the signature of a packet covers them: what is
read is how it was written.
-/

namespace PeerDiscovery

/-- A chain of readers succeeds when each of them does. -/
theorem bind_eq_ok_iff {Cause First Second : Type} {first : Except Cause First}
    {next : First → Except Cause Second} {result : Second} :
    first >>= next = .ok result ↔ ∃ value, first = .ok value ∧ next value = .ok result := by
  cases first with
  | error cause => simp [bind, Except.bind]
  | ok value => simp [bind, Except.bind]

namespace Cursor

theorem take_eq_ok_iff {cursor next : Cursor} {count : Nat} {front : Bytes} :
    cursor.take count = .ok (front, next) ↔
      cursor.rest = front ++ next.rest ∧ front.length = count ∧
        next.position = cursor.position + count := by
  obtain ⟨position, rest⟩ := cursor
  obtain ⟨nextPosition, nextRest⟩ := next
  unfold take
  dsimp only
  constructor
  · intro read
    split at read
    · rename_i enough
      simp only [Except.ok.injEq, Prod.mk.injEq, Cursor.mk.injEq] at read
      obtain ⟨rfl, rfl, rfl⟩ := read
      exact ⟨(List.take_append_drop count rest).symm, List.length_take_of_le enough, rfl⟩
    · cases read
  · rintro ⟨rfl, rfl, rfl⟩
    simp

theorem take_append (position : Nat) (front rest : Bytes) :
    (⟨position, front ++ rest⟩ : Cursor).take front.length =
      .ok (front, ⟨position + front.length, rest⟩) :=
  take_eq_ok_iff.2 ⟨rfl, rfl, rfl⟩

theorem number_eq_ok_iff {cursor next : Cursor} {width value : Nat} :
    cursor.number width = .ok (value, next) ↔
      cursor.rest = Bytes.ofNatBE width value ++ next.rest ∧ value < Bytes.bound width ∧
        next.position = cursor.position + width := by
  rw [number, bind_eq_ok_iff]
  constructor
  · rintro ⟨⟨front, after⟩, taken, ⟨⟩⟩
    obtain ⟨split, rfl, moved⟩ := take_eq_ok_iff.1 taken
    exact ⟨by rw [Bytes.ofNatBE_toNatBE]; exact split, Bytes.toNatBE_lt front, moved⟩
  · rintro ⟨split, small, moved⟩
    refine ⟨(Bytes.ofNatBE width value, next),
      take_eq_ok_iff.2 ⟨split, Bytes.length_ofNatBE width value, moved⟩, ?_⟩
    simp [pure, Except.pure, Bytes.toNatBE_ofNatBE, Nat.mod_eq_of_lt small]

theorem uint8_cons (position : Nat) (byte : UInt8) (rest : Bytes) :
    (⟨position, byte :: rest⟩ : Cursor).uint8 = .ok (byte, ⟨position + 1, rest⟩) := by
  have written : Bytes.ofNatBE 1 byte.toNat = [byte] := by
    have roundTrip := Bytes.ofNatBE_toNatBE [byte]
    simpa [Bytes.toNatBE] using roundTrip
  rw [uint8, bind_eq_ok_iff]
  refine ⟨(byte.toNat, ⟨position + 1, rest⟩),
    number_eq_ok_iff.2 ⟨by simp [written], byte.toNat_lt, rfl⟩, ?_⟩
  simp [pure, Except.pure]

theorem uint16_eq_ok_iff {cursor next : Cursor} {value : UInt16} :
    cursor.uint16 = .ok (value, next) ↔
      cursor.rest = Bytes.ofNatBE 2 value.toNat ++ next.rest ∧
        next.position = cursor.position + 2 := by
  rw [uint16, bind_eq_ok_iff]
  constructor
  · rintro ⟨⟨number, after⟩, taken, ⟨⟩⟩
    obtain ⟨split, small, moved⟩ := number_eq_ok_iff.1 taken
    have kept : (UInt16.ofNat number).toNat = number := UInt16.toNat_ofNat_of_lt' small
    exact ⟨by rw [kept]; exact split, moved⟩
  · rintro ⟨split, moved⟩
    refine ⟨(value.toNat, next), number_eq_ok_iff.2 ⟨split, value.toNat_lt, moved⟩, ?_⟩
    simp [pure, Except.pure]

theorem uint64_eq_ok_iff {cursor next : Cursor} {value : UInt64} :
    cursor.uint64 = .ok (value, next) ↔
      cursor.rest = Bytes.ofNatBE 8 value.toNat ++ next.rest ∧
        next.position = cursor.position + 8 := by
  rw [uint64, bind_eq_ok_iff]
  constructor
  · rintro ⟨⟨number, after⟩, taken, ⟨⟩⟩
    obtain ⟨split, small, moved⟩ := number_eq_ok_iff.1 taken
    have kept : (UInt64.ofNat number).toNat = number := UInt64.toNat_ofNat_of_lt' small
    exact ⟨by rw [kept]; exact split, moved⟩
  · rintro ⟨split, moved⟩
    refine ⟨(value.toNat, next), number_eq_ok_iff.2 ⟨split, value.toNat_lt, moved⟩, ?_⟩
    simp [pure, Except.pure]

theorem uint16_ofNatBE (position : Nat) (value : UInt16) (rest : Bytes) :
    (⟨position, Bytes.ofNatBE 2 value.toNat ++ rest⟩ : Cursor).uint16 =
      .ok (value, ⟨position + 2, rest⟩) :=
  uint16_eq_ok_iff.2 ⟨rfl, rfl⟩

theorem address_encode (position : Nat) (address : Address) (rest : Bytes) :
    (⟨position, address.encode ++ rest⟩ : Cursor).address =
      .ok (address, ⟨position + Address.size, rest⟩) := by
  have taken := take_append position address.encode rest
  have readBack := Address.ofBytes?_encode_append address []
  rw [Address.length_encode] at taken
  rw [List.append_nil] at readBack
  simp [Cursor.address, taken, readBack, bind, Except.bind, pure, Except.pure]

end Cursor

namespace GlobalTime

@[simp]
theorem length_encode (time : UInt64) : (encode time).length = 8 := Bytes.length_ofNatBE 8 _

theorem decode_eq_ok_iff {bytes rest : Bytes} {time : UInt64} :
    decode bytes = .ok (time, rest) ↔ bytes = encode time ++ rest := by
  rw [decode, bind_eq_ok_iff]
  constructor
  · rintro ⟨⟨value, after⟩, taken, ⟨⟩⟩
    exact (Cursor.uint64_eq_ok_iff.1 taken).1
  · intro written
    exact ⟨(time, ⟨8, rest⟩), Cursor.uint64_eq_ok_iff.2 ⟨written, rfl⟩, rfl⟩

end GlobalTime

namespace KeyField

@[simp]
theorem length_encode (key : Bytes) : (encode key).length = 2 + key.length := by
  simp [encode]

/-- A key of an ordinary length is read exactly where it was written. -/
theorem decode_eq_ok_iff {bytes key rest : Bytes} :
    decode bytes = .ok (key, rest) ↔
      bytes = encode key ++ rest ∧ key.length < Bytes.bound 2 := by
  rw [decode, bind_eq_ok_iff]
  constructor
  · rintro ⟨⟨length, middle⟩, sized, following⟩
    obtain ⟨⟨front, after⟩, taken, ⟨⟩⟩ := bind_eq_ok_iff.1 following
    obtain ⟨split, -⟩ := Cursor.uint16_eq_ok_iff.1 sized
    obtain ⟨behind, long, -⟩ := Cursor.take_eq_ok_iff.1 taken
    rw [behind, ← long, ← List.append_assoc] at split
    exact ⟨split, long ▸ length.toNat_lt⟩
  · rintro ⟨rfl, short⟩
    have fits : (UInt16.ofNat key.length).toNat = key.length := UInt16.toNat_ofNat_of_lt' short
    refine ⟨(UInt16.ofNat key.length, ⟨2, key ++ rest⟩),
      Cursor.uint16_eq_ok_iff.2 ⟨by simp [Cursor.start, encode, fits], rfl⟩, ?_⟩
    rw [bind_eq_ok_iff]
    exact ⟨(key, ⟨2 + key.length, rest⟩), by rw [fits]; exact Cursor.take_append 2 key rest, rfl⟩

end KeyField

namespace IntroductionRequest

theorem decode_encode (request : IntroductionRequest) :
    decode request.encode = .ok (request, []) := by
  have flags := ConnectionFlags.decode_encode ⟨request.connection, request.advice, false⟩
  simp [decode, encode, Cursor.start, Cursor.address_encode, Cursor.uint8_cons,
    Cursor.uint16_ofNatBE, flags, bind, Except.bind, pure, Except.pure]

end IntroductionRequest

namespace IntroductionResponse

theorem decode_encode (response : IntroductionResponse) :
    decode response.encode = .ok (response, []) := by
  have flags := ConnectionFlags.decode_encode ⟨response.connection, false, response.tunnel⟩
  simp [decode, encode, Cursor.start, Cursor.address_encode, Cursor.uint8_cons,
    Cursor.uint16_ofNatBE, flags, bind, Except.bind, pure, Except.pure]

end IntroductionResponse

namespace Puncture

/-- A written puncture reads back, whatever follows it. -/
theorem decode_encode_append (puncture : Puncture) (rest : Bytes) :
    decode (puncture.encode ++ rest) = .ok (puncture, rest) := by
  simp [decode, encode, Cursor.start, Cursor.address_encode, Cursor.uint16_ofNatBE, bind,
    Except.bind, pure, Except.pure]

end Puncture

end PeerDiscovery
