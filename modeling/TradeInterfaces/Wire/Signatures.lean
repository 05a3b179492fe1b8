import TradeInterfaces.Wire.Adapters
import TradeInterfaces.Foundations.Panics

/-! The signature on the wire: `r` and `s` as 32 bytes each and one byte of `v`. -/
namespace TradeInterfaces
open Foundations.BigEndian Foundations.Panics

namespace Ethers.Signature

/-- Reading 65 bytes; `try_from` fails on other lengths only. -/
def ofBytes (bytes : Bytes 65) : Signature where
  r := fromBeBytes (slice bytes 0 32 (by decide))
  s := fromBeBytes (slice bytes 32 32 (by decide))
  v := (bytes.get 64).toUInt64

def toVec (signature : Signature) : List UInt8 :=
  (toBeBytes signature.r).toList ++ (toBeBytes signature.s).toList ++ [signature.v.toUInt8]

end Ethers.Signature

namespace Grpc.EthSignature

def toSignature (value : EthSignature) : Except Panic Ethers.Signature := do
  let r ← copyFromSlice 32 value.r
  let s ← copyFromSlice 32 value.s
  let v ← unwrap value.v.head?
  return Ethers.Signature.ofBytes (r ++ s ++ (ofList [v] rfl : Bytes 1))

/-- Only the low byte of `v` is written. -/
def ofSignature (value : Ethers.Signature) : EthSignature where
  v := [value.v.toUInt8]
  r := (toBeBytes value.r).toList
  s := (toBeBytes value.s).toList

private theorem toList_parts (r s : Bytes 32) (v : Bytes 1) :
    List.Vector.toList (r ++ s ++ v : Bytes 65) = r.toList ++ s.toList ++ v.toList := by
  rw [← List.Vector.toList_append, ← List.Vector.toList_append]

private theorem parts_read (r s : Bytes 32) (v : UInt8) :
    let bytes : Bytes 65 := r ++ s ++ (ofList [v] rfl : Bytes 1)
    slice bytes 0 32 (by decide) = r ∧ slice bytes 32 32 (by decide) = s ∧ bytes.get 64 = v := by
  refine ⟨?_, ?_, ?_⟩
  · apply List.Vector.toList_injective
    rw [slice, toList_ofList, toList_parts]
    simp
  · apply List.Vector.toList_injective
    rw [slice, toList_ofList, toList_parts]
    simp
  · rw [List.Vector.get_eq_get_toList]
    simp [toList_parts]
    rfl

/-- A message reads as a signature when `r` and `s` have their length and `v` is not empty. -/
theorem toSignature_ok_iff {value : EthSignature} {sig : Ethers.Signature} :
    value.toSignature = .ok sig ↔ ∃ (r s : Bytes 32) (v : UInt8) (rest : List UInt8), value.r = r.toList ∧
      value.s = s.toList ∧ value.v = v :: rest ∧ sig = ⟨fromBeBytes r, fromBeBytes s, v.toUInt64⟩ := by
  have hread (r s : Bytes 32) (v : UInt8) :
      Ethers.Signature.ofBytes (r ++ s ++ (ofList [v] rfl : Bytes 1)) =
        ⟨fromBeBytes r, fromBeBytes s, v.toUInt64⟩ := by
    obtain ⟨hr, hs, hv⟩ := parts_read r s v
    rw [Ethers.Signature.ofBytes, hr, hs, hv]
  simp only [toSignature, bind_returns_iff, copyFromSlice_ok_iff, unwrap_ok_iff, List.head?_eq_some_iff, hread]
  constructor
  · rintro ⟨r, hr, s, hs, v, ⟨rest, hv⟩, h⟩
    exact ⟨r, s, v, rest, hr, hs, hv, (Except.ok.inj h).symm⟩
  · rintro ⟨r, s, v, rest, hr, hs, hv, rfl⟩
    exact ⟨r, hr, s, hs, v, ⟨rest, hv⟩, rfl⟩

/-- Reading back a signature that was written for the wire. -/
theorem toSignature_ofSignature (sig : Ethers.Signature) :
    (ofSignature sig).toSignature = .ok { sig with v := sig.v.toUInt8.toUInt64 } := by
  refine toSignature_ok_iff.mpr ⟨toBeBytes sig.r, toBeBytes sig.s, sig.v.toUInt8, [], rfl, rfl, rfl, ?_⟩
  rw [fromBeBytes_toBeBytes, fromBeBytes_toBeBytes]

/-- Reading panics on other lengths only. -/
theorem toSignature_panics_iff (value : EthSignature) :
    (∃ p, value.toSignature = .error p) ↔ value.r.length ≠ 32 ∨ value.s.length ≠ 32 ∨ value.v = [] := by
  have hok : (∃ sig, value.toSignature = .ok sig) ↔ value.r.length = 32 ∧ value.s.length = 32 ∧ value.v ≠ [] := by
    constructor
    · rintro ⟨sig, h⟩
      obtain ⟨r, s, v, rest, hr, hs, hv, _⟩ := toSignature_ok_iff.mp h
      rw [hr, hs, hv]
      exact ⟨r.toList_length, s.toList_length, by simp⟩
    · rintro ⟨hr, hs, hv⟩
      obtain ⟨v, rest, hcons⟩ := List.exists_cons_of_ne_nil hv
      exact ⟨_, toSignature_ok_iff.mpr ⟨ofList value.r hr, ofList value.s hs, v, rest, rfl, rfl, hcons, rfl⟩⟩
  cases h : value.toSignature with
  | ok sig =>
    obtain ⟨hr, hs, hv⟩ := hok.mp ⟨sig, h⟩
    simp [hr, hs, hv]
  | error p =>
    have hno : ¬(value.r.length = 32 ∧ value.s.length = 32 ∧ value.v ≠ []) := by
      intro hall
      obtain ⟨sig, hsig⟩ := hok.mpr hall
      rw [h] at hsig
      cases hsig
    refine ⟨fun _ => ?_, fun _ => ⟨p, rfl⟩⟩
    by_contra hnone
    exact hno (by simpa [not_or] using hnone)

end Grpc.EthSignature
end TradeInterfaces
