import TradeInterfaces.Foundations.Masks
import TradeInterfaces.Maker.Quotes

/-! The salt of an order: 32 bits name Valorem, all others are random. -/
namespace TradeInterfaces.Maker
open Foundations.Panics Foundations.Effects Foundations.Masks Ethers

private theorem tagged_eq (entropy : U128) :
    tagged entropy = replace lowBits domainTag (entropy.setWidth 256) := rfl

private theorem lowBits_getLsbD (i : Nat) : lowBits.getLsbD i = decide (i < 32) := by
  have h : lowBits = (BitVec.allOnes 32).setWidth 256 := by decide +kernel
  rw [h, BitVec.getLsbD_setWidth, BitVec.getLsbD_allOnes]
  by_cases hi : i < 32
  · have hw : i < 256 := by omega
    simp [hi, hw]
  · simp [hi]

private theorem domainTag_within : Within lowBits domainTag := by
  intro i _ hb
  have hlt : domainTag.toNat < 2^32 := by decide +kernel
  rw [lowBits_getLsbD]
  apply decide_eq_true
  by_contra hi
  rw [BitVec.getLsbD, Nat.testBit_lt_two_pow (lt_of_lt_of_le hlt (Nat.pow_le_pow_right (by decide) (by omega)))] at hb
  cases hb

private theorem tagged_low (entropy : U128) {i : Nat} (hi : i < 32) :
    (tagged entropy).getLsbD i = domainTag.getLsbD i := by
  rw [tagged_eq]
  apply getLsbD_replace_inside domainTag_within
  rw [lowBits_getLsbD]
  exact decide_eq_true hi

/-- The random value has no bits to lose or to gain above its own width. -/
theorem widened_getLsbD (entropy : U128) (i : Nat) : (entropy.setWidth 256).getLsbD i = entropy.getLsbD i := by
  rw [BitVec.getLsbD_setWidth]
  by_cases hw : i < 256
  · simp [hw]
  · rw [BitVec.getLsbD_of_ge entropy i (by omega), Bool.and_false]

private theorem tagged_high (entropy : U128) {i : Nat} (hi : 32 ≤ i) :
    (tagged entropy).getLsbD i = entropy.getLsbD i := by
  have hout : lowBits.getLsbD i = false := by
    rw [lowBits_getLsbD]
    exact decide_eq_false (by omega)
  rw [tagged_eq, getLsbD_replace_outside domainTag_within _ hout, widened_getLsbD]

private theorem toNat_tagged (entropy : U128) :
    (tagged entropy).toNat = (entropy.setWidth 256 &&& ~~~lowBits).toNat + domainTag.toNat :=
  toNat_replace domainTag_within (entropy.setWidth 256)

private theorem toNat_tagged_lt (entropy : U128) : (tagged entropy).toNat < 2^128 := by
  apply Nat.lt_pow_two_of_testBit
  intro i hi
  have h := tagged_high entropy (show 32 ≤ i by omega)
  rw [BitVec.getLsbD_of_ge entropy i hi] at h
  exact h

/-- Two salts are equal when the random values agree above the tag. -/
theorem tagged_eq_iff (entropy other : U128) :
    tagged entropy = tagged other ↔ ∀ i, 32 ≤ i → entropy.getLsbD i = other.getLsbD i := by
  rw [tagged_eq, tagged_eq, replace_eq_iff domainTag_within]
  simp only [widened_getLsbD, lowBits_getLsbD, decide_eq_false_iff_not, not_lt]

/-- For all random bits the sum does not overflow, the tag and the random bits above it
stand side by side in the salt, and this is what both quotes carry on the wire. -/
theorem taggedSalt_exact (entropy : U128) :
    ∃ salt, taggedSalt entropy = .ok salt ∧
      salt.toNat = (entropy.setWidth 256 &&& ~~~lowBits).toNat + domainTag.toNat ∧
      (∀ i < 32, salt.getLsbD i = domainTag.getLsbD i) ∧
      (∀ i, 32 ≤ i → salt.getLsbD i = entropy.getLsbD i) ∧ salt.toNat < 2^128 ∧
      (∀ other salt', taggedSalt other = .ok salt' →
        (salt = salt' ↔ ∀ i, 32 ≤ i → entropy.getLsbD i = other.getLsbD i)) ∧
      (Grpc.H256.ofU256 salt).toU256 = salt ∧ (Grpc.H256.ofU256 salt).number = salt.toNat ∧
      ∀ maker offered considered rpc order, rpc.entropy = entropy →
        quoteParameters maker offered considered rpc = .ok order → order.salt = some (.ofU256 salt) := by
  refine ⟨tagged entropy, taggedSalt_ok entropy, toNat_tagged entropy, fun i hi => tagged_low entropy hi,
    fun i hi => tagged_high entropy hi, toNat_tagged_lt entropy, ?_, Grpc.H256.toU256_ofU256 _, ?_, ?_⟩
  · intro other salt' h
    rw [taggedSalt_ok] at h
    rw [← Except.ok.inj h]
    exact tagged_eq_iff entropy other
  · rw [← Grpc.H256.toNat_toU256, Grpc.H256.toU256_ofU256]
  · intro maker offered considered rpc order he h
    rw [quoteParameters_ok] at h
    rw [← Except.ok.inj h, quoteOrder, he]

end TradeInterfaces.Maker
