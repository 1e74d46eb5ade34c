import PeerDiscovery.Key.SealedBox

/-!
# Sealed boxes open for their recipient

Whoever seals a text knows the ephemeral secret, and whoever opens it the recipient's.  Both come
to the same terms for the cipher: a key that is derived from what they agree on and from both
public halves, the nonce, and the ephemeral half as associated data.  So the text comes out again.
Of the curve only one thing is assumed, that the two sides of the exchange at hand agree.

An exchange that comes to zero is refused by both sides.  With the coordinate zero every exchange
does, whatever the secret is: after one step of the ladder both points have no second coordinate.
-/

namespace PeerDiscovery

namespace X25519

open Field25519

theorem sub_self_of_lt {value : Nat} (reduced : value < modulus) : sub value value = 0 := by
  have whole : value + (modulus - value) = modulus := by omega
  rw [sub, whole, Nat.mod_self]

theorem mul_zero_left (value : Nat) : mul 0 value = 0 := by
  rw [mul, Nat.zero_mul, Nat.zero_mod]

theorem mul_lt (left right : Nat) : mul left right < modulus :=
  Nat.mod_lt _ (by decide)

structure Pair.Flat (pair : Pair) : Prop where
  z2 : pair.z2 = 0
  z3 : pair.z3 = 0

namespace Pair.Flat

variable {pair : Pair}

theorem swap (flat : pair.Flat) : pair.swap.Flat := ⟨flat.z3, flat.z2⟩

theorem step (flat : pair.Flat) : (pair.step 0).Flat where
  z2 := by
    have sum : add pair.x2 pair.z2 = sub pair.x2 pair.z2 := by
      rw [flat.z2, add, sub, Nat.sub_zero, Nat.add_mod_right, Nat.add_zero]
    have none : sub (square (add pair.x2 pair.z2)) (square (sub pair.x2 pair.z2)) = 0 := by
      rw [sum]
      exact sub_self_of_lt (mul_lt _ _)
    rw [Pair.step]
    dsimp only
    rw [none, mul_zero_left]
  z3 := mul_zero_left _

theorem ladder (flat : pair.Flat) (scalar bits : Nat) :
    (X25519.ladder 0 scalar bits pair).Flat := by
  induction bits generalizing pair with
  | zero => exact flat
  | succ bits ih =>
      rw [X25519.ladder]
      split
      · exact ih flat.swap.step.swap
      · exact ih flat.step

end Pair.Flat

/-- A point with the coordinate zero agrees on zero with every secret. -/
theorem agree_of_ofBlock_eq_zero (secret : Block 32) {point : Block 32}
    (zero : ofBlock point = 0) : agree secret point = toBlock 0 := by
  have flat : (ladder 0 (clamp secret) 255 ⟨1, 0, 0, 1⟩).Flat := by
    rw [ladder]
    split
    · exact Pair.Flat.ladder ⟨by decide, by decide⟩ (clamp secret) 254
    · exact Pair.Flat.ladder ⟨by decide, by decide⟩ (clamp secret) 254
  have infinite : inverse 0 = 0 := by decide +kernel
  rw [agree, zero, flat.z2, infinite, mul, Nat.mul_zero, Nat.zero_mod]

theorem not_contributory_of_ofBlock_eq_zero (secret : Block 32) {point : Block 32}
    (zero : ofBlock point = 0) : isContributory (agree secret point) = false := by
  rw [agree_of_ofBlock_eq_zero secret zero]
  decide

end X25519

namespace SealedBox

@[ext]
structure Terms where
  key : Bytes
  nonce : Bytes
  associated : Bytes

namespace Terms

def encrypt (terms : Terms) (text : Bytes) : Bytes :=
  XChaCha20Poly1305.encrypt terms.key terms.nonce terms.associated text

def decrypt? (terms : Terms) (ciphertext : Bytes) : Option Bytes :=
  XChaCha20Poly1305.decrypt? terms.key terms.nonce terms.associated ciphertext

theorem decrypt?_encrypt (terms : Terms) (text : Bytes) :
    terms.decrypt? (terms.encrypt text) = some text :=
  XChaCha20Poly1305.decrypt?_encrypt _ _ _ _

theorem length_encrypt (terms : Terms) (text : Bytes) :
    (terms.encrypt text).length = text.length + 16 :=
  XChaCha20Poly1305.length_encrypt _ _ _ _

end Terms

def sealingTerms (recipient secret : Block 32) (nonce : Block 24) : Terms where
  key := key (X25519.agree secret recipient) (X25519.publicKey secret) recipient
  nonce := nonce.bytes
  associated := (X25519.publicKey secret).bytes

def openingTerms (secret recipient : Block 32) (box : Bytes) : Terms where
  key := key (X25519.agree secret (Block.slice box 0 ephemeralSize))
    (Block.slice box 0 ephemeralSize) recipient
  nonce := (Block.slice box ephemeralSize nonceSize).bytes
  associated := (Block.slice box 0 ephemeralSize).bytes

theorem encrypt_eq (recipient secret : Block 32) (nonce : Block 24) (text : Bytes) :
    encrypt recipient secret nonce text =
      if X25519.isContributory (X25519.agree secret recipient) then
        .ok ((X25519.publicKey secret).bytes ++ nonce.bytes ++
          (sealingTerms recipient secret nonce).encrypt text)
      else .error .invalidPublicKey := rfl

theorem decrypt_eq (secret recipient : Block 32) (box : Bytes) :
    decrypt secret recipient box =
      if box.length < overhead then .error .openingFailed
      else if X25519.isContributory (X25519.agree secret (Block.slice box 0 ephemeralSize)) then
        ((openingTerms secret recipient box).decrypt?
          (box.drop (ephemeralSize + nonceSize))).elim (.error .openingFailed) .ok
      else .error .openingFailed := by
  unfold decrypt
  dsimp only
  split
  · rfl
  · split
    · split <;> rename_i found <;> · rw [openingTerms, Terms.decrypt?, found]; rfl
    · rfl

section

variable (ephemeral : Block 32) (nonce : Block 24) (ciphertext : Bytes)

theorem slice_ephemeral (rest : Bytes) :
    Block.slice (ephemeral.bytes ++ rest) 0 ephemeralSize = ephemeral := by
  have found := Block.slice_append [] ephemeral rest
  rwa [List.nil_append] at found

theorem slice_nonce :
    Block.slice (ephemeral.bytes ++ nonce.bytes ++ ciphertext) ephemeralSize nonceSize = nonce := by
  have found := Block.slice_append ephemeral.bytes nonce ciphertext
  rwa [ephemeral.length_bytes] at found

theorem length_front : (ephemeral.bytes ++ nonce.bytes).length = ephemeralSize + nonceSize := by
  rw [List.length_append, ephemeral.length_bytes, nonce.length_bytes]
  rfl

theorem drop_front :
    (ephemeral.bytes ++ nonce.bytes ++ ciphertext).drop (ephemeralSize + nonceSize) =
      ciphertext :=
  List.drop_left' (length_front ephemeral nonce)

end

section

variable {recipient secret own : Block 32} {nonce : Block 24} {text box : Bytes}

theorem encrypt_eq_ok_iff :
    encrypt recipient secret nonce text = .ok box ↔
      X25519.isContributory (X25519.agree secret recipient) = true ∧
      box = (X25519.publicKey secret).bytes ++ nonce.bytes ++
        (sealingTerms recipient secret nonce).encrypt text := by
  rw [encrypt_eq]
  split
  · rename_i contributory
    rw [Except.ok.injEq, eq_comm]
    exact (and_iff_right contributory).symm
  · rename_i idle
    simp [idle]

theorem length_of_encrypt (boxed : encrypt recipient secret nonce text = .ok box) :
    box.length = text.length + overhead := by
  obtain ⟨-, rfl⟩ := encrypt_eq_ok_iff.1 boxed
  rw [List.length_append, length_front, Terms.length_encrypt, overhead,
    XChaCha20Poly1305.tagSize]
  omega

/-- Both sides come to the same terms, if they agree. -/
theorem openingTerms_eq (boxed : encrypt recipient secret nonce text = .ok box)
    (agrees : X25519.agree own (X25519.publicKey secret) = X25519.agree secret recipient) :
    openingTerms own recipient box = sealingTerms recipient secret nonce := by
  obtain ⟨-, rfl⟩ := encrypt_eq_ok_iff.1 boxed
  rw [openingTerms, slice_nonce, List.append_assoc, slice_ephemeral, agrees]
  rfl

/-- A box opens as what was sealed, if both sides agree. -/
theorem decrypt_of_encrypt (boxed : encrypt recipient secret nonce text = .ok box)
    (agrees : X25519.agree own (X25519.publicKey secret) = X25519.agree secret recipient) :
    decrypt own recipient box = .ok text := by
  have terms := openingTerms_eq boxed agrees
  have long : ¬box.length < overhead := by
    have size := length_of_encrypt boxed
    omega
  obtain ⟨contributory, rfl⟩ := encrypt_eq_ok_iff.1 boxed
  rw [decrypt_eq, if_neg long, terms, drop_front, Terms.decrypt?_encrypt, List.append_assoc,
    slice_ephemeral, agrees, if_pos contributory]
  rfl

theorem encrypt_of_not_contributory
    (idle : X25519.isContributory (X25519.agree secret recipient) = false) (nonce : Block 24)
    (text : Bytes) : encrypt recipient secret nonce text = .error .invalidPublicKey := by
  rw [encrypt_eq, idle]
  rfl

theorem decrypt_of_short (own recipient : Block 32) (short : box.length < overhead) :
    decrypt own recipient box = .error .openingFailed := by
  rw [decrypt_eq, if_pos short]

theorem decrypt_of_not_contributory {ephemeral : Block 32}
    (idle : X25519.isContributory (X25519.agree own ephemeral) = false) (recipient : Block 32)
    (rest : Bytes) : decrypt own recipient (ephemeral.bytes ++ rest) = .error .openingFailed := by
  rw [decrypt_eq, slice_ephemeral, idle]
  split <;> rfl

end

/-- A box of a text, sealed with a fresh secret and nonce for the owner of a secret. -/
structure SealedFor (own secret : Block 32) (nonce : Block 24) (text box : Bytes) : Prop where
  length : box.length = text.length + 72
  whole : box = (X25519.publicKey secret).bytes ++ nonce.bytes ++
    (sealingTerms (X25519.publicKey own) secret nonce).encrypt text
  terms : openingTerms own (X25519.publicKey own) box =
    sealingTerms (X25519.publicKey own) secret nonce
  opens : decrypt own (X25519.publicKey own) box = .ok text

/-- What is sealed for the owner of a secret opens with the secret.  Whatever is too short, or
leads to an exchange of nothing, is refused. -/
theorem opens_for_owner (own secret : Block 32) (nonce : Block 24) (text : Bytes) :
    (X25519.agree own (X25519.publicKey secret) = X25519.agree secret (X25519.publicKey own) →
      X25519.isContributory (X25519.agree secret (X25519.publicKey own)) = true →
      ∃ box, encrypt (X25519.publicKey own) secret nonce text = .ok box ∧
        SealedFor own secret nonce text box) ∧
    (∀ box : Bytes, box.length < 72 →
      decrypt own (X25519.publicKey own) box = .error .openingFailed) ∧
    (∀ (ephemeral : Block 32) (rest : Bytes),
      X25519.isContributory (X25519.agree own ephemeral) = false →
      decrypt own (X25519.publicKey own) (ephemeral.bytes ++ rest) = .error .openingFailed) ∧
    ∀ recipient : Block 32, X25519.isContributory (X25519.agree secret recipient) = false →
      encrypt recipient secret nonce text = .error .invalidPublicKey := by
  refine ⟨fun agrees contributory => ?_, fun box short => decrypt_of_short _ _ short,
    fun ephemeral rest idle => decrypt_of_not_contributory idle _ rest,
    fun recipient idle => encrypt_of_not_contributory idle nonce text⟩
  have boxed := (encrypt_eq (X25519.publicKey own) secret nonce text).trans (if_pos contributory)
  exact ⟨_, boxed,
    { length := length_of_encrypt boxed
      whole := rfl
      terms := openingTerms_eq boxed agrees
      opens := decrypt_of_encrypt boxed agrees }⟩

theorem opens_for_owner_sample :
    (∃ box, encrypt (X25519.publicKey (Block.ofNatLE 32 2)) (Block.ofNatLE 32 3)
        (Block.ofNatLE 24 4) [] = .ok box ∧
      SealedFor (Block.ofNatLE 32 2) (Block.ofNatLE 32 3) (Block.ofNatLE 24 4) [] box) ∧
    decrypt (Block.ofNatLE 32 2) (X25519.publicKey (Block.ofNatLE 32 2))
      (Bytes.filled 71 9) = .error .openingFailed ∧
    decrypt (Block.ofNatLE 32 2) (X25519.publicKey (Block.ofNatLE 32 2))
      ((Block.ofNatLE 32 0).bytes ++ Bytes.filled 50 9) = .error .openingFailed ∧
    encrypt (Block.ofNatLE 32 0) (Block.ofNatLE 32 3) (Block.ofNatLE 24 4) [] =
      .error .invalidPublicKey := by
  obtain ⟨sealed, short, idle, nobody⟩ := opens_for_owner (Block.ofNatLE 32 2)
    (Block.ofNatLE 32 3) (Block.ofNatLE 24 4) []
  have zero : Field25519.ofBlock (Block.ofNatLE 32 0) = 0 := by decide
  exact ⟨sealed (by decide +kernel) (by decide +kernel), short _ (by decide),
    idle _ _ (X25519.not_contributory_of_ofBlock_eq_zero _ zero),
    nobody _ (X25519.not_contributory_of_ofBlock_eq_zero _ zero)⟩

end SealedBox

end PeerDiscovery
