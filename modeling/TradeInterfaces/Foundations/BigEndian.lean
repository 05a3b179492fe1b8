import Mathlib.Data.Nat.Digits.Lemmas
import Mathlib.Data.Vector.Basic

/-! Fixed-width positional notation, most significant digit first, and the words
it encodes. The base of a digit string is arbitrary; a word type says how many
bytes it takes and how it is read as a number. -/
namespace TradeInterfaces.Foundations.BigEndian

/-- Value of a digit string; Mathlib reads digits from the least significant end. -/
def value (b : Nat) (ds : List Nat) : Nat := Nat.ofDigits b ds.reverse

/-- The `w` low digits of `n`, the most significant one first. -/
def digits (b : Nat) : Nat → Nat → List Nat
  | 0, _ => []
  | w+1, n => n / b^w % b :: digits b w n

theorem value_append (b : Nat) (xs ys : List Nat) :
    value b (xs ++ ys) = value b xs * b^ys.length + value b ys := by
  rw [value, List.reverse_append, Nat.ofDigits_append, List.length_reverse]
  unfold value
  ring

theorem value_cons (b d : Nat) (ds : List Nat) :
    value b (d :: ds) = d * b^ds.length + value b ds := by
  simpa [value, Nat.ofDigits_singleton] using value_append b [d] ds

theorem value_lt {b : Nat} (hb : 1 < b) {ds : List Nat} (h : ∀ d ∈ ds, d < b) :
    value b ds < b^ds.length := by
  have hr : ∀ d ∈ ds.reverse, d < b := by simpa using h
  simpa [value] using Nat.ofDigits_lt_base_pow_length hb hr

theorem value_inj {b : Nat} (hb : 1 < b) {xs ys : List Nat} (hlen : xs.length = ys.length)
    (hx : ∀ d ∈ xs, d < b) (hy : ∀ d ∈ ys, d < b) (h : value b xs = value b ys) : xs = ys := by
  have hr : xs.reverse.length = ys.reverse.length := by simpa using hlen
  exact List.reverse_injective
    (Nat.ofDigits_inj_of_len_eq hb hr (by simpa using hx) (by simpa using hy) h)

@[simp] theorem digits_length (b w n : Nat) : (digits b w n).length = w := by
  induction w with
  | zero => rfl
  | succ w ih => simp [digits, ih]

theorem digits_lt {b : Nat} (hb : 0 < b) (w n : Nat) : ∀ d ∈ digits b w n, d < b := by
  induction w with
  | zero => simp [digits]
  | succ w ih =>
    intro d hd
    rcases List.mem_cons.mp hd with rfl | hd
    · exact Nat.mod_lt _ hb
    · exact ih d hd

/-- Writing a number in `w` digits keeps it modulo `b^w`. -/
theorem value_digits (b w n : Nat) : value b (digits b w n) = n % b^w := by
  induction w with
  | zero => simp [digits, value, Nat.mod_one]
  | succ w ih =>
    rw [digits, value_cons, digits_length, ih, pow_succ, Nat.mod_mul]
    ring

/-- Byte strings of a fixed length. -/
abbrev Bytes (w : Nat) := List.Vector UInt8 w

def ofList {w : Nat} (l : List UInt8) (h : l.length = w) : Bytes w := ⟨l, h⟩

@[simp] theorem toList_ofList {w : Nat} (l : List UInt8) (h : l.length = w) : (ofList l h).toList = l := rfl

def ofBytes {w : Nat} (v : Bytes w) : Nat := value 256 (v.toList.map UInt8.toNat)

def toBytes (w n : Nat) : Bytes w := ofList ((digits 256 w n).map UInt8.ofNat) (by simp)

private theorem byte_digits_lt {w : Nat} (v : Bytes w) : ∀ d ∈ v.toList.map UInt8.toNat, d < 256 := by
  intro d hd
  obtain ⟨byte, _, rfl⟩ := List.mem_map.mp hd
  exact byte.toNat_lt

theorem ofBytes_lt {w : Nat} (v : Bytes w) : ofBytes v < 256^w := by
  simpa [ofBytes] using value_lt (by decide : 1 < 256) (byte_digits_lt v)

theorem ofBytes_append {m n : Nat} (u : Bytes m) (v : Bytes n) :
    ofBytes (u ++ v) = ofBytes u * 256^n + ofBytes v := by
  simp [ofBytes, value_append]

theorem ofBytes_inj {w : Nat} {u v : Bytes w} (h : ofBytes u = ofBytes v) : u = v := by
  have := value_inj (by decide : 1 < 256) (by simp) (byte_digits_lt u) (byte_digits_lt v) h
  exact List.Vector.toList_injective (List.map_injective_iff.mpr (fun _ _ => UInt8.toNat_inj.mp) this)

theorem ofBytes_toBytes (w n : Nat) : ofBytes (toBytes w n) = n % 256^w := by
  have hd : ((digits 256 w n).map UInt8.ofNat).map UInt8.toNat = digits 256 w n := by
    rw [List.map_map]
    refine (List.map_congr_left fun d hd => ?_).trans (List.map_id _)
    exact UInt8.toNat_ofNat_of_lt' (digits_lt (by decide) w n d hd)
  rw [ofBytes, toBytes, toList_ofList, hd, value_digits]

theorem toBytes_ofBytes {w : Nat} (v : Bytes w) : toBytes w (ofBytes v) = v := by
  apply ofBytes_inj
  rw [ofBytes_toBytes, Nat.mod_eq_of_lt (ofBytes_lt v)]

/-- The `len` bytes of `v` from position `start` on. -/
def slice {n : Nat} (v : Bytes n) (start len : Nat) (h : start + len ≤ n) : Bytes len :=
  ofList ((v.toList.drop start).take len) (by simp; omega)

theorem slice_append_left {m n : Nat} (u : Bytes m) (v : Bytes n) (h : 0 + m ≤ m + n) :
    slice (u ++ v) 0 m h = u := by
  apply List.Vector.toList_injective
  simp [slice]

theorem slice_append_right {m n : Nat} (u : Bytes m) (v : Bytes n) (h : m + n ≤ m + n) :
    slice (u ++ v) m n h = v := by
  apply List.Vector.toList_injective
  simp [slice]

/-- Cutting a string in two and joining the parts gives it back. -/
theorem slice_append_slice {m n : Nat} (v : Bytes (m + n)) (hl : 0 + m ≤ m + n) (hr : m + n ≤ m + n) :
    slice v 0 m hl ++ slice v m n hr = v := by
  apply List.Vector.toList_injective
  rw [List.Vector.toList_append]
  simp [slice, List.take_of_length_le]

/-- A word type: its values are the numbers that fit in `w` bytes. -/
class Word (α : Type) (w : outParam Nat) where
  toNat : α → Nat
  ofNat : Nat → α
  toNat_lt : ∀ a, toNat a < 256^w
  ofNat_toNat : ∀ a, ofNat (toNat a) = a
  toNat_ofNat : ∀ n, n < 256^w → toNat (ofNat n) = n

section
variable {α : Type} {w : Nat} [Word α w]

def toBeBytes (a : α) : Bytes w := toBytes w (Word.toNat a)

def fromBeBytes (v : Bytes w) : α := Word.ofNat (ofBytes v)

theorem ofBytes_toBeBytes (a : α) : ofBytes (toBeBytes a) = Word.toNat a := by
  rw [toBeBytes, ofBytes_toBytes, Nat.mod_eq_of_lt (Word.toNat_lt a)]

theorem toNat_fromBeBytes (v : Bytes w) : Word.toNat (fromBeBytes v : α) = ofBytes v :=
  Word.toNat_ofNat _ (ofBytes_lt v)

theorem fromBeBytes_toBeBytes (a : α) : fromBeBytes (toBeBytes a) = a := by
  rw [fromBeBytes, ofBytes_toBeBytes, Word.ofNat_toNat]

theorem toBeBytes_fromBeBytes (v : Bytes w) : toBeBytes (fromBeBytes v : α) = v := by
  rw [toBeBytes, toNat_fromBeBytes, toBytes_ofBytes]

theorem toNat_inj {a b : α} (h : Word.toNat a = Word.toNat b) : a = b := by
  rw [← Word.ofNat_toNat a, h, Word.ofNat_toNat]

end

instance : Word UInt32 4 where
  toNat := UInt32.toNat
  ofNat := UInt32.ofNat
  toNat_lt a := a.toNat_lt
  ofNat_toNat a := a.ofNat_toNat
  toNat_ofNat _ h := UInt32.toNat_ofNat_of_lt' h

instance : Word UInt64 8 where
  toNat := UInt64.toNat
  ofNat := UInt64.ofNat
  toNat_lt a := a.toNat_lt
  ofNat_toNat a := a.ofNat_toNat
  toNat_ofNat _ h := UInt64.toNat_ofNat_of_lt' h

instance : Word (BitVec 128) 16 where
  toNat := BitVec.toNat
  ofNat := BitVec.ofNat 128
  toNat_lt a := a.isLt
  ofNat_toNat a := by simp
  toNat_ofNat _ h := Nat.mod_eq_of_lt h

instance : Word (BitVec 256) 32 where
  toNat := BitVec.toNat
  ofNat := BitVec.ofNat 256
  toNat_lt a := a.isLt
  ofNat_toNat a := by simp
  toNat_ofNat _ h := Nat.mod_eq_of_lt h

end TradeInterfaces.Foundations.BigEndian
