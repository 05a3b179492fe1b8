import TradeInterfaces.Wire.Adapters

/-! The wire number format: each decoder reads the big-endian positional value of
its message, and each encoder writes the message with nothing left out. -/
namespace TradeInterfaces.Grpc
open Foundations.BigEndian

/-- A format whose messages may leave zero parts out. `normal` writes them out and
`number` is the positional value. -/
structure Lossless {π ν : Type} (encode : ν → π) (decode : π → ν) (toNat : ν → Nat)
    (number : π → Nat) (normal : π → π) : Prop where
  decode_encode : ∀ n, decode (encode n) = n
  positional : ∀ m, toNat (decode m) = number m
  encode_decode : ∀ m, encode (decode m) = normal m

/-- Two messages stand for one number exactly when they have one normal form. -/
theorem Lossless.decode_eq_iff {π ν : Type} {encode : ν → π} {decode : π → ν} {toNat : ν → Nat}
    {number : π → Nat} {normal : π → π} (h : Lossless encode decode toNat number normal) (m m' : π) :
    decode m = decode m' ↔ normal m = normal m' := by
  constructor
  · intro he
    rw [← h.encode_decode, ← h.encode_decode, he]
  · intro he
    rw [← h.encode_decode, ← h.encode_decode] at he
    rw [← h.decode_encode (decode m), he, h.decode_encode]

theorem H128.lossless : Lossless H128.ofU128 H128.toU128 BitVec.toNat H128.number id :=
  ⟨H128.toU128_ofU128, H128.toNat_toU128, H128.ofU128_toU128⟩

theorem H128.hash_lossless : Lossless H128.ofHash H128.toHash ofBytes H128.number id :=
  ⟨H128.toHash_ofHash, H128.ofBytes_toHash, H128.ofHash_toHash⟩

theorem H160.hash_lossless : Lossless H160.ofHash H160.toHash ofBytes H160.number H160.filled :=
  ⟨H160.toHash_ofHash, H160.ofBytes_toHash, H160.ofHash_toHash⟩

theorem H256.lossless : Lossless H256.ofU256 H256.toU256 BitVec.toNat H256.number H256.filled :=
  ⟨H256.toU256_ofU256, H256.toNat_toU256, H256.ofU256_toU256⟩

theorem H256.hash_lossless : Lossless H256.ofHash H256.toHash ofBytes H256.number H256.filled :=
  ⟨H256.toHash_ofHash, H256.ofBytes_toHash, H256.ofHash_toHash⟩

/-- Numbers and fixed hashes survive the wire; a message decodes to its positional
value whatever parts it leaves out, is written back in full, and shares its number
only with the messages that agree once absent parts read as zero. -/
theorem wire_words_lossless :
    (Lossless H128.ofU128 H128.toU128 BitVec.toNat H128.number id ∧
      Lossless H128.ofHash H128.toHash ofBytes H128.number id ∧
      Lossless H160.ofHash H160.toHash ofBytes H160.number H160.filled ∧
      Lossless H256.ofU256 H256.toU256 BitVec.toNat H256.number H256.filled ∧
      Lossless H256.ofHash H256.toHash ofBytes H256.number H256.filled) ∧
    (∀ m m' : H128, m.toU128 = m'.toU128 ↔ m = m') ∧
    (∀ m m' : H160, m.toHash = m'.toHash ↔ m.filled = m'.filled) ∧
    (∀ m m' : H256, m.toU256 = m'.toU256 ↔ m.filled = m'.filled) :=
  ⟨⟨H128.lossless, H128.hash_lossless, H160.hash_lossless, H256.lossless, H256.hash_lossless⟩,
    H128.lossless.decode_eq_iff, H160.hash_lossless.decode_eq_iff, H256.lossless.decode_eq_iff⟩

/-- A message without its high half stands for its low half. -/
example : (⟨none, some ⟨1, 2⟩⟩ : H256).toU256.toNat = 2^64 + 2 := by decide +kernel

end TradeInterfaces.Grpc
