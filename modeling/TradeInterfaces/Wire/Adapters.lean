import TradeInterfaces.Wire.Messages

/-! Conversions between the wire messages and the ethers types, and the number
each wire word stands for. The byte strings in between are big-endian. -/
namespace TradeInterfaces.Grpc
open Foundations.BigEndian

/-- From a number to its message through the fixed hash. -/
def intoProto {π ν : Type} {w : Nat} [Word ν w] (ofHash : Bytes w → π) (value : ν) : π :=
  ofHash (toBeBytes value)

/-- From a message to its number through the fixed hash. -/
def intoNum {π ν : Type} {w : Nat} [Word ν w] (toHash : π → Bytes w) (value : π) : ν :=
  fromBeBytes (toHash value)

namespace H128

def ofHash (value : Ethers.H128) : H128 where
  hi := fromBeBytes (slice value 0 8 (by decide))
  lo := fromBeBytes (slice value 8 8 (by decide))

/-- The two `copy_from_slice` calls fill the whole array, one half each. -/
def toHash (value : H128) : Ethers.H128 := toBeBytes value.hi ++ toBeBytes value.lo

def ofU128 (value : Ethers.U128) : H128 := intoProto ofHash value

def toU128 (value : H128) : Ethers.U128 := intoNum toHash value

/-- The number a message stands for. -/
def number (m : H128) : Nat := m.hi.toNat * 2^64 + m.lo.toNat

theorem number_getD (o : Option H128) : (o.getD default).number = o.elim 0 number := by
  cases o <;> rfl

theorem ofBytes_toHash (m : H128) : ofBytes m.toHash = m.number := by
  have h := ofBytes_append (toBeBytes m.hi) (toBeBytes m.lo)
  rw [ofBytes_toBeBytes, ofBytes_toBeBytes] at h
  exact h

@[simp] theorem toHash_ofHash (v : Ethers.H128) : (ofHash v).toHash = v := by
  unfold toHash ofHash
  rw [toBeBytes_fromBeBytes, toBeBytes_fromBeBytes]
  exact @slice_append_slice 8 8 v _ _

@[simp] theorem ofHash_toHash (m : H128) : ofHash m.toHash = m := by
  unfold toHash ofHash
  rw [slice_append_left, slice_append_right, fromBeBytes_toBeBytes, fromBeBytes_toBeBytes]

@[simp] theorem toU128_ofU128 (n : Ethers.U128) : (ofU128 n).toU128 = n := by
  simp [toU128, ofU128, intoNum, intoProto, fromBeBytes_toBeBytes]

theorem ofU128_toU128 (m : H128) : ofU128 m.toU128 = m := by
  rw [ofU128, toU128, intoProto, intoNum, toBeBytes_fromBeBytes, ofHash_toHash]

theorem toNat_toU128 (m : H128) : m.toU128.toNat = m.number := by
  rw [← ofBytes_toHash]
  exact @toNat_fromBeBytes Ethers.U128 16 _ m.toHash

end H128

namespace H160

def ofHash (value : Ethers.H160) : H160 where
  hi := some (H128.ofHash (slice value 0 16 (by decide)))
  lo := fromBeBytes (slice value 16 4 (by decide))

def toHash (value : H160) : Ethers.H160 := (value.hi.getD default).toHash ++ toBeBytes value.lo

def number (m : H160) : Nat := m.hi.elim 0 H128.number * 2^32 + m.lo.toNat

/-- The absent half written out as zeros. -/
def filled (m : H160) : H160 := { m with hi := some (m.hi.getD default) }

theorem ofBytes_toHash (m : H160) : ofBytes m.toHash = m.number := by
  have h := ofBytes_append (m.hi.getD default).toHash (toBeBytes m.lo)
  rw [H128.ofBytes_toHash, H128.number_getD, ofBytes_toBeBytes] at h
  exact h

@[simp] theorem toHash_ofHash (v : Ethers.H160) : (ofHash v).toHash = v := by
  unfold toHash ofHash
  rw [Option.getD_some, H128.toHash_ofHash, toBeBytes_fromBeBytes]
  exact @slice_append_slice 16 4 v _ _

theorem ofHash_toHash (m : H160) : ofHash m.toHash = m.filled := by
  unfold toHash ofHash filled
  rw [slice_append_left, slice_append_right, fromBeBytes_toBeBytes, H128.ofHash_toHash]

end H160

namespace H256

def ofHash (value : Ethers.H256) : H256 where
  hi := some (H128.ofHash (slice value 0 16 (by decide)))
  lo := some (H128.ofHash (slice value 16 16 (by decide)))

def toHash (value : H256) : Ethers.H256 :=
  (value.hi.getD default).toHash ++ (value.lo.getD default).toHash

def ofU256 (value : Ethers.U256) : H256 := intoProto ofHash value

def toU256 (value : H256) : Ethers.U256 := intoNum toHash value

def number (m : H256) : Nat := m.hi.elim 0 H128.number * 2^128 + m.lo.elim 0 H128.number

def filled (m : H256) : H256 := ⟨some (m.hi.getD default), some (m.lo.getD default)⟩

theorem ofBytes_toHash (m : H256) : ofBytes m.toHash = m.number := by
  have h := ofBytes_append (m.hi.getD default).toHash (m.lo.getD default).toHash
  rw [H128.ofBytes_toHash, H128.ofBytes_toHash, H128.number_getD, H128.number_getD] at h
  exact h

@[simp] theorem toHash_ofHash (v : Ethers.H256) : (ofHash v).toHash = v := by
  unfold toHash ofHash
  rw [Option.getD_some, Option.getD_some, H128.toHash_ofHash, H128.toHash_ofHash]
  exact @slice_append_slice 16 16 v _ _

theorem ofHash_toHash (m : H256) : ofHash m.toHash = m.filled := by
  unfold toHash ofHash filled
  rw [slice_append_left, slice_append_right, H128.ofHash_toHash, H128.ofHash_toHash]

@[simp] theorem toU256_ofU256 (n : Ethers.U256) : (ofU256 n).toU256 = n := by
  simp [toU256, ofU256, intoNum, intoProto, fromBeBytes_toBeBytes]

theorem toNat_toU256 (m : H256) : m.toU256.toNat = m.number := by
  rw [← ofBytes_toHash]
  exact @toNat_fromBeBytes Ethers.U256 32 _ m.toHash

theorem ofU256_toU256 (m : H256) : ofU256 m.toU256 = m.filled := by
  rw [← ofHash_toHash, ofU256, toU256, intoProto, intoNum, toBeBytes_fromBeBytes]

@[simp] theorem toU256_default : (default : H256).toU256 = 0 := by
  apply BitVec.eq_of_toNat_eq
  rw [toNat_toU256]
  rfl

end H256

/-- An unknown enum integer reads as an invalid action. -/
def Action.ofI32 (value : Int32) : Action := (Action.fromI32 value).getD .invalid

def ItemType.ofI32 (value : Int32) : ItemType := (ItemType.fromI32 value).getD .native

/-- `as u8` on an enum integer keeps its low byte. -/
def asU8 (value : Int32) : UInt8 := value.toUInt32.toUInt8

end TradeInterfaces.Grpc
