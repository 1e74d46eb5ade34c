import PeerDiscovery.Proofs.Payload.Layout

/-!
# The formats are exact

What is written is read back, and what is read is how it was written: writing it again
gives the bytes that were read, but for the connection byte, whose meaningless bits are
zero then.  A byte string is refused exactly when it is too short.
-/

namespace PeerDiscovery

namespace PayloadKind

/-- Whether a payload of this kind takes all the bytes that are left. -/
def takesRest : PayloadKind → Bool
  | request | response | raw => true
  | key | time | punctureRequest | puncture => false

/-- Where the fields end that every payload of this kind has. -/
def ends (bytes : Bytes) : PayloadKind → List Nat
  | key => [2, 2 + KeyField.claimed bytes]
  | time => [8]
  | request => [6, 12, 18, 19, 21]
  | response => [6, 12, 18, 24, 30, 31, 33]
  | punctureRequest | puncture => [6, 12, 14]
  | raw => []

def size (bytes : Bytes) : PayloadKind → Nat
  | key => 2 + KeyField.claimed bytes
  | time => 8
  | request => 21
  | response => 33
  | punctureRequest | puncture => 14
  | raw => 0

/-- The part of a byte string that is read, if it is long enough. -/
def consumed (kind : PayloadKind) (bytes : Bytes) : Bytes :=
  if kind.takesRest then bytes else bytes.take (kind.size bytes)

/-- The bytes of a payload as they are written again. -/
def canonical : PayloadKind → Bytes → Bytes
  | request, bytes => bytes.modify 18 (ConnectionFlags.canonical 0xc1)
  | response, bytes => bytes.modify 30 (ConnectionFlags.canonical 0xc2)
  | _, bytes => bytes

theorem missing?_eq_none_iff (kind : PayloadKind) (bytes : Bytes) :
    missing? (kind.ends bytes) bytes.length = none ↔ kind.size bytes ≤ bytes.length := by
  cases kind <;> simp [missing?, ends, size] <;> omega

end PayloadKind

namespace Payload

def kind : Payload → PayloadKind
  | key _ => .key
  | time _ => .time
  | request _ => .request
  | response _ => .response
  | punctureRequest _ => .punctureRequest
  | puncture _ => .puncture
  | raw _ => .raw

/-- The length of a key fits into the two bytes in front of it. -/
def Fits : Payload → Prop
  | key bytes => bytes.length < 65536
  | _ => True

theorem decode_encode_append {payload : Payload} {rest : Bytes} (fits : payload.Fits)
    (closed : payload.kind.takesRest = true → rest = []) :
    decode payload.kind (payload.encode ++ rest) = .ok (payload, rest) := by
  cases payload with
  | key bytes =>
    have read : KeyField.decode (KeyField.encode bytes ++ rest) = .ok (bytes, rest) :=
      KeyField.decode_eq_ok_iff.2 ⟨rfl, fits⟩
    simp only [kind, encode, decode, read, Except.map]
  | time value =>
    have read : GlobalTime.decode (GlobalTime.encode value ++ rest) = .ok (value, rest) :=
      GlobalTime.decode_eq_ok_iff.2 rfl
    simp only [kind, encode, decode, read, Except.map]
  | request value =>
    cases closed rfl
    simp only [kind, encode, decode, List.append_nil, value.decode_encode, Except.map]
  | response value =>
    cases closed rfl
    simp only [kind, encode, decode, List.append_nil, value.decode_encode, Except.map]
  | punctureRequest value =>
    simp only [kind, encode, decode, value.decode_encode_append, Except.map]
  | puncture value =>
    simp only [kind, encode, decode, value.decode_encode_append, Except.map]
  | raw bytes =>
    cases closed rfl
    simp only [kind, encode, decode, List.append_nil]

/-- What reading a payload of some kind comes to. -/
structure Exact (kind : PayloadKind) (bytes : Bytes) (found : Payload × Bytes) : Prop where
  kind_eq : found.1.kind = kind
  split : kind.consumed bytes ++ found.2 = bytes
  encode : found.1.encode = kind.canonical (kind.consumed bytes)

theorem Exact.of_split {kind : PayloadKind} {bytes : Bytes} {found : Payload × Bytes}
    (kind_eq : found.1.kind = kind) (closed : kind.takesRest = false)
    (split : found.1.encode ++ found.2 = bytes)
    (length : found.1.encode.length = kind.size bytes)
    (same : ∀ front, kind.canonical front = front) : Exact kind bytes found := by
  have front : kind.consumed bytes = found.1.encode := by
    have taken : bytes.take found.1.encode.length = found.1.encode := by
      rw [← split, List.take_left]
    simp only [PayloadKind.consumed, closed, Bool.false_eq_true, if_false, ← length, taken]
  exact ⟨kind_eq, by rw [front, split], by rw [front, same]⟩

theorem reading (kind : PayloadKind) (bytes : Bytes) :
    Reading (kind.ends bytes) bytes.length (Exact kind bytes) (decode kind bytes) := by
  cases kind with
  | key =>
    refine (KeyField.reading bytes).map _ ?_
    rintro ⟨key, rest⟩ ⟨split, long⟩
    exact .of_split rfl rfl split (by simp [encode, PayloadKind.size, long]) fun _ => rfl
  | time =>
    refine (GlobalTime.reading bytes).map _ ?_
    rintro ⟨time, rest⟩ split
    exact .of_split rfl rfl split (GlobalTime.length_encode time) fun _ => rfl
  | request =>
    refine (IntroductionRequest.reading bytes).map _ ?_
    rintro ⟨request, _⟩ ⟨rfl, written⟩
    exact ⟨rfl, List.append_nil _, written⟩
  | response =>
    refine (IntroductionResponse.reading bytes).map _ ?_
    rintro ⟨response, _⟩ ⟨rfl, written⟩
    exact ⟨rfl, List.append_nil _, written⟩
  | punctureRequest =>
    refine (Puncture.reading bytes).map _ ?_
    rintro ⟨walker, rest⟩ split
    exact .of_split rfl rfl split rfl fun _ => rfl
  | puncture =>
    refine (Puncture.reading bytes).map _ ?_
    rintro ⟨sender, rest⟩ split
    exact .of_split rfl rfl split rfl fun _ => rfl
  | raw => exact .complete _ rfl ⟨rfl, List.append_nil _, rfl⟩

/-- Payloads are read exactly as they are written. -/
theorem coded_exactly :
    (∀ (payload : Payload) (rest : Bytes), payload.Fits →
      (payload.kind.takesRest = true → rest = []) →
      decode payload.kind (payload.encode ++ rest) = .ok (payload, rest)) ∧
    ∀ (kind : PayloadKind) (bytes : Bytes),
      ((∃ found, decode kind bytes = .ok found) ↔ kind.size bytes ≤ bytes.length) ∧
      (∀ cause, decode kind bytes = .error cause ↔
        ∃ needed, (kind.ends bytes).find? (bytes.length < ·) = some needed ∧
          cause = .tooShort needed bytes.length) ∧
      ∀ payload rest, decode kind bytes = .ok (payload, rest) →
        payload.kind = kind ∧ kind.consumed bytes ++ rest = bytes ∧
          payload.encode = kind.canonical (kind.consumed bytes) := by
  refine ⟨fun payload rest => decode_encode_append, fun kind bytes => ?_⟩
  have read := reading kind bytes
  refine ⟨?_, read.eq_error_iff, fun payload rest decoded => ?_⟩
  · rw [read.isOk_iff, PayloadKind.missing?_eq_none_iff]
  · have exact := read.of_eq_ok decoded
    exact ⟨exact.kind_eq, exact.split, exact.encode⟩

/-- A request whose connection byte has an undefined connection and meaningless bits. -/
def sampleRequest (connection : UInt8) : Bytes :=
  [4, 4, 4, 4, 0, 1, 10, 0, 0, 1, 0, 2, 5, 5, 5, 5, 0, 3, connection, 1, 2, 9]

theorem coded_exactly_sample :
    (Payload.key [1, 2, 3]).Fits ∧
      decode .key [0, 3, 1, 2, 3, 9] = .ok (.key [1, 2, 3], [9]) ∧
      ∃ request, decode .request (sampleRequest 0x7d) = .ok (request, []) ∧
        request.encode = sampleRequest 0x01 := by
  have fits : (Payload.key [1, 2, 3]).Fits := by
    change 3 < 65536
    decide
  have request : decode .request (sampleRequest 0x7d) = .ok (.request ⟨⟨⟨4, 4, 4, 4⟩, 1⟩,
      ⟨⟨10, 0, 0, 1⟩, 2⟩, ⟨⟨5, 5, 5, 5⟩, 3⟩, true, .unknown, 0x102, [9]⟩, []) := rfl
  exact ⟨fits, coded_exactly.1 _ [9] fits (fun closed => nomatch closed), _, request,
    ((coded_exactly.2 .request _).2.2 _ _ request).2.2⟩

end Payload

end PeerDiscovery
