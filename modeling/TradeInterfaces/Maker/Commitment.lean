import Mathlib.Data.List.Forall2
import TradeInterfaces.Maker.SignOrder
import TradeInterfaces.Wire.Numbers

/-! What a signature commits to: the orders that share their components with a signed
one, read off the wire fields. -/
namespace TradeInterfaces
open Foundations.BigEndian Foundations.Panics Ethers

namespace Grpc

/-- An address field with every absent part read as zero. -/
def H160.zeroFilled (field : Option H160) : H160 := (field.getD default).filled

def H256.zeroFilled (field : Option H256) : H256 := (field.getD default).filled

theorem H256.number_getD (field : Option H256) : (field.getD default).number = field.elim 0 number := by
  cases field <;> rfl

/-- Narrowing an enum integer keeps it modulo 256. -/
theorem toNat_asU8 (value : Int32) : ((asU8 value).toNat : Int) = value.toInt % 256 := by
  have hu : value.toUInt32.toNat = value.toBitVec.toNat := rfl
  have hi : value.toInt = value.toBitVec.toInt := rfl
  have hlt := value.toBitVec.isLt
  rw [asU8, UInt32.toNat_toUInt8, hu, hi, BitVec.toInt_eq_toNat_cond]
  split <;> omega

private theorem asU8_eq_iff (a b : Int32) : asU8 a = asU8 b ↔ a.toInt % 256 = b.toInt % 256 := by
  rw [← toNat_asU8, ← toNat_asU8, Nat.cast_inj, UInt8.toNat_inj]

/-- Two items that differ in nothing but absent parts and the high bits of the item type. -/
structure OfferItem.Same (a b : OfferItem) : Prop where
  itemType : a.itemType.toInt % 256 = b.itemType.toInt % 256
  token : H160.zeroFilled a.token = H160.zeroFilled b.token
  identifierOrCriteria : H256.zeroFilled a.identifierOrCriteria = H256.zeroFilled b.identifierOrCriteria
  startAmount : H256.zeroFilled a.startAmount = H256.zeroFilled b.startAmount
  endAmount : H256.zeroFilled a.endAmount = H256.zeroFilled b.endAmount

structure ConsiderationItem.Same (a b : ConsiderationItem) : Prop where
  itemType : a.itemType.toInt % 256 = b.itemType.toInt % 256
  token : H160.zeroFilled a.token = H160.zeroFilled b.token
  identifierOrCriteria : H256.zeroFilled a.identifierOrCriteria = H256.zeroFilled b.identifierOrCriteria
  startAmount : H256.zeroFilled a.startAmount = H256.zeroFilled b.startAmount
  endAmount : H256.zeroFilled a.endAmount = H256.zeroFilled b.endAmount
  recipient : H160.zeroFilled a.recipient = H160.zeroFilled b.recipient

/-- Two orders that agree field by field and item by item in this sense. -/
structure Order.Same (a b : Order) : Prop where
  offerer : H160.zeroFilled a.offerer = H160.zeroFilled b.offerer
  zone : H160.zeroFilled a.zone = H160.zeroFilled b.zone
  offer : List.Forall₂ OfferItem.Same a.offer b.offer
  consideration : List.Forall₂ ConsiderationItem.Same a.consideration b.consideration
  orderType : a.orderType.toInt % 256 = b.orderType.toInt % 256
  startTime : H256.zeroFilled a.startTime = H256.zeroFilled b.startTime
  endTime : H256.zeroFilled a.endTime = H256.zeroFilled b.endTime
  zoneHash : H256.zeroFilled a.zoneHash = H256.zeroFilled b.zoneHash
  salt : H256.zeroFilled a.salt = H256.zeroFilled b.salt
  conduitKey : H256.zeroFilled a.conduitKey = H256.zeroFilled b.conduitKey

end Grpc

namespace Seaport

/-- Leaving out the default message changes nothing: zero is encoded as zeros. -/
theorem hashBytes_eq (param : Option Grpc.H256) : hashBytes param = toBeBytes (param.getD default).toU256 := by
  have hzero : zeroBytes = toBeBytes (0 : U256) := by decide +kernel
  cases param with
  | none => rw [hashBytes, Option.getD_none, Grpc.H256.toU256_default, hzero]
  | some value =>
    by_cases hd : value = default
    · rw [hashBytes, hd, Option.getD_some, Grpc.H256.toU256_default, hzero]
      exact if_neg (not_not.mpr rfl)
    · exact if_pos hd

private theorem hashBytes_eq_iff (a b : Option Grpc.H256) :
    hashBytes a = hashBytes b ↔ Grpc.H256.zeroFilled a = Grpc.H256.zeroFilled b := by
  rw [hashBytes_eq, hashBytes_eq, Grpc.H256.zeroFilled, Grpc.H256.zeroFilled,
    ← Grpc.H256.lossless.decode_eq_iff]
  refine ⟨fun h => ?_, fun h => by rw [h]⟩
  rw [← fromBeBytes_toBeBytes (a.getD default).toU256, h, fromBeBytes_toBeBytes]

end Seaport

namespace Maker

private theorem offerItem_eq_iff (a b : Grpc.OfferItem) : offerItem a = offerItem b ↔ a.Same b := by
  simp only [offerItem, Seaport.OfferItem.mk.injEq, Grpc.asU8_eq_iff, Grpc.H160.hash_lossless.decode_eq_iff,
    Grpc.H256.lossless.decode_eq_iff]
  exact ⟨fun ⟨h1, h2, h3, h4, h5⟩ => ⟨h1, h2, h3, h4, h5⟩, fun ⟨h1, h2, h3, h4, h5⟩ => ⟨h1, h2, h3, h4, h5⟩⟩

private theorem considerationItem_eq_iff (a b : Grpc.ConsiderationItem) :
    considerationItem a = considerationItem b ↔ a.Same b := by
  simp only [considerationItem, Seaport.ConsiderationItem.mk.injEq, Grpc.asU8_eq_iff,
    Grpc.H160.hash_lossless.decode_eq_iff, Grpc.H256.lossless.decode_eq_iff]
  exact ⟨fun ⟨h1, h2, h3, h4, h5, h6⟩ => ⟨h1, h2, h3, h4, h5, h6⟩,
    fun ⟨h1, h2, h3, h4, h5, h6⟩ => ⟨h1, h2, h3, h4, h5, h6⟩⟩

private theorem map_eq_map_iff {α β : Type} {f : α → β} {R : α → α → Prop} (h : ∀ a b, f a = f b ↔ R a b)
    (xs ys : List α) : xs.map f = ys.map f ↔ List.Forall₂ R xs ys := by
  have hR : R = fun a b => f a = f b := by
    funext a b
    exact propext (h a b).symm
  rw [← List.forall₂_eq_eq_eq, List.forall₂_map_left_iff, List.forall₂_map_right_iff, hR]

/-- The kernel of the components: two orders are hashed and signed alike exactly when
they agree up to absent parts and the high bits of their enums. -/
theorem orderComponents_eq_iff :
    (∀ (a b : Grpc.Order) (counter : U256) (ca cb : Seaport.OrderComponents),
      orderComponents a counter = .ok ca → orderComponents b counter = .ok cb → (ca = cb ↔ a.Same b)) ∧
    (∀ (order : Grpc.Order) (counter : U256) (components : Seaport.OrderComponents),
      orderComponents order counter = .ok components →
        components.zoneHash = toBeBytes (order.zoneHash.getD default).toU256 ∧
        components.conduitKey = toBeBytes (order.conduitKey.getD default).toU256) ∧
    ∀ param : Option Grpc.H256, ofBytes (Seaport.hashBytes param) = param.elim 0 Grpc.H256.number ∧
      Seaport.hashBytes param = toBytes 32 (param.elim 0 Grpc.H256.number) := by
  refine ⟨fun a b counter ca cb ha hb => ?_, fun order counter components h => ?_, fun param => ?_⟩
  · obtain ⟨_, _, _, _, ho, hs, he, ht, rfl⟩ := (orderComponents_ok_iff a counter ca).mp ha
    obtain ⟨_, _, _, _, ho', hs', he', ht', rfl⟩ := (orderComponents_ok_iff b counter cb).mp hb
    simp only [Seaport.OrderComponents.mk.injEq, map_eq_map_iff offerItem_eq_iff,
      map_eq_map_iff considerationItem_eq_iff, Grpc.asU8_eq_iff, Grpc.H160.hash_lossless.decode_eq_iff,
      Grpc.H256.lossless.decode_eq_iff, Seaport.hashBytes_eq_iff, and_true]
    constructor
    · rintro ⟨h1, h2, h3, h4, h5, h6, h7, h8, h9, h10⟩
      exact ⟨by rw [ho, ho']; exact h1, h2, h3, h4, h5, by rw [hs, hs']; exact h6, by rw [he, he']; exact h7, h8,
        by rw [ht, ht']; exact h9, h10⟩
    · rintro ⟨h1, h2, h3, h4, h5, h6, h7, h8, h9, h10⟩
      rw [ho, ho'] at h1
      rw [hs, hs'] at h6
      rw [he, he'] at h7
      rw [ht, ht'] at h9
      exact ⟨h1, h2, h3, h4, h5, h6, h7, h8, h9, h10⟩
  · obtain ⟨_, _, _, _, _, _, _, _, rfl⟩ := (orderComponents_ok_iff order counter components).mp h
    exact ⟨Seaport.hashBytes_eq _, Seaport.hashBytes_eq _⟩
  · have hvalue : ofBytes (Seaport.hashBytes param) = param.elim 0 Grpc.H256.number := by
      rw [Seaport.hashBytes_eq, ofBytes_toBeBytes, ← Grpc.H256.number_getD]
      exact Grpc.H256.toNat_toU256 _
    refine ⟨hvalue, ?_⟩
    rw [← hvalue, toBytes_ofBytes]

end Maker
end TradeInterfaces
