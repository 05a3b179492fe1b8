import TradeInterfaces.Taker.TransformOrder

/-! Signatures between ethers and the wire. One byte carries `v`, and the taker passes
on what it read. -/
namespace TradeInterfaces.Taker
open Foundations.BigEndian Foundations.Panics Ethers
open Grpc (EthSignature)

private theorem v_read (v : UInt64) : v.toUInt8.toUInt64 = v ↔ v.toNat < 256 := by
  rw [← UInt64.toNat_inj, UInt8.toNat_toUInt64, UInt64.toNat_toUInt8]
  omega

private theorem ofSignature_read_iff (sig : Signature) :
    (EthSignature.ofSignature sig).toSignature = .ok sig ↔ sig.v.toNat < 256 := by
  rw [EthSignature.toSignature_ofSignature, Except.ok.injEq, ← v_read]
  obtain ⟨r, s, v⟩ := sig
  simp

/-- What is read from a message, written again: the same words and one byte of `v`. -/
theorem ofSignature_of_read {value : EthSignature} {sig : Signature} (h : value.toSignature = .ok sig) :
    ∃ v rest, value.v = v :: rest ∧ EthSignature.ofSignature sig = ⟨value.r, value.s, [v]⟩ ∧
      sig.toVec = value.r ++ value.s ++ [v] := by
  obtain ⟨r, s, v, rest, hr, hs, hv, rfl⟩ := EthSignature.toSignature_ok_iff.mp h
  refine ⟨v, rest, hv, ?_, ?_⟩
  · rw [EthSignature.ofSignature, hr, hs, toBeBytes_fromBeBytes, toBeBytes_fromBeBytes]
    simp
  · rw [Signature.toVec, hr, hs, toBeBytes_fromBeBytes, toBeBytes_fromBeBytes]
    simp

/-- Writing and reading a signature are inverse exactly on a `v` of one byte: for all
signatures, and for all messages that are read at all. -/
theorem ethSignature_codec :
    (∀ sig : Signature,
      (EthSignature.ofSignature sig).r.length = 32 ∧ (EthSignature.ofSignature sig).s.length = 32 ∧
      (EthSignature.ofSignature sig).v.length = 1 ∧
      (∃ back, (EthSignature.ofSignature sig).toSignature = .ok back ∧ back.r = sig.r ∧ back.s = sig.s ∧
        back.v.toNat = sig.v.toNat % 256) ∧
      ((EthSignature.ofSignature sig).toSignature = .ok sig ↔ sig.v.toNat < 256)) ∧
    ∀ value : EthSignature,
      ((∃ p, value.toSignature = .error p) ↔ value.r.length ≠ 32 ∨ value.s.length ≠ 32 ∨ value.v = []) ∧
      ∀ sig, value.toSignature = .ok sig → ∃ v rest, value.v = v :: rest ∧
        EthSignature.ofSignature sig = ⟨value.r, value.s, [v]⟩ ∧
        (EthSignature.ofSignature sig = value ↔ value.v.length = 1) ∧
        sig.toVec = value.r ++ value.s ++ [v] ∧
        ∀ parameters order out, transformToSeaportOrder ⟨parameters, some value⟩ order = .ok out →
          out.signature = value.r ++ value.s ++ [v] := by
  refine ⟨fun sig => ⟨List.Vector.toList_length _, List.Vector.toList_length _, rfl, ?_, ofSignature_read_iff sig⟩,
    fun value => ⟨EthSignature.toSignature_panics_iff value, fun sig h => ?_⟩⟩
  · refine ⟨_, EthSignature.toSignature_ofSignature sig, rfl, rfl, ?_⟩
    rw [UInt8.toNat_toUInt64, UInt64.toNat_toUInt8]
  · obtain ⟨v, rest, hv, hwritten, hbytes⟩ := ofSignature_of_read h
    refine ⟨v, rest, hv, hwritten, ?_, hbytes, ?_⟩
    · rw [hwritten, hv]
      obtain ⟨r, s, vs⟩ := value
      cases hv
      simp [eq_comm]
    · intro parameters order out hout
      obtain ⟨value', sig', parameters', hvalue, hsig, _, rfl⟩ := transformToSeaportOrder_ok_iff.mp hout
      cases hvalue
      rw [h] at hsig
      cases hsig
      exact hbytes

end TradeInterfaces.Taker
