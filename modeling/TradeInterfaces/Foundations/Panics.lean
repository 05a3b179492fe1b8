import TradeInterfaces.Foundations.BigEndian

/-! Rust's partial operations: each either returns or panics. The lemmas say
exactly when an operation returns and with what. -/
namespace TradeInterfaces.Foundations.Panics
open BigEndian

inductive Panic where
  | unwrapOnNone | unwrapOnErr | lengthMismatch | indexOutOfBounds | overflow | assertionFailed | explicit
  deriving DecidableEq, Repr

def unwrap {α : Type} : Option α → Except Panic α
  | some a => .ok a
  | none => .error .unwrapOnNone

def unwrapResult {ε α : Type} : Except ε α → Except Panic α
  | .ok a => .ok a
  | .error _ => .error .unwrapOnErr

def index {α : Type} (xs : List α) (i : Nat) : Except Panic α :=
  match xs[i]? with
  | some a => .ok a
  | none => .error .indexOutOfBounds

/-- The source of a `copy_from_slice` into `w` bytes must have exactly that length. -/
def copyFromSlice (w : Nat) (src : List UInt8) : Except Panic (Bytes w) :=
  if h : src.length = w then .ok (ofList src h) else .error .lengthMismatch

def assert (p : Bool) : Except Panic Unit :=
  if p then .ok () else .error .assertionFailed

section
variable {w : Nat}

def checkedAdd (a b : BitVec w) : Except Panic (BitVec w) :=
  if a.toNat + b.toNat < 2^w then .ok (a + b) else .error .overflow

def checkedMul (a b : BitVec w) : Except Panic (BitVec w) :=
  if a.toNat * b.toNat < 2^w then .ok (a * b) else .error .overflow

def checkedPow (a b : BitVec w) : Except Panic (BitVec w) :=
  if a.toNat ^ b.toNat < 2^w then .ok (BitVec.ofNat w (a.toNat ^ b.toNat)) else .error .overflow

def saturatingSub (a b : BitVec w) : BitVec w := if b ≤ a then a - b else 0

end

/-- Narrowing to 128 bits panics when the value does not fit. -/
def asU128 (a : BitVec 256) : Except Panic (BitVec 128) :=
  if a.toNat < 2^128 then .ok (a.setWidth 128) else .error .overflow

@[simp] theorem ok_bind {κ α β : Type} (a : α) (f : α → Except κ β) : (Except.ok a >>= f) = f a := rfl
@[simp] theorem error_bind {κ α β : Type} (k : κ) (f : α → Except κ β) :
    ((Except.error k : Except κ α) >>= f) = Except.error k := rfl

/-- A sequence returns what its second part returns on the result of the first. -/
theorem bind_returns_iff {κ α β : Type} {x : Except κ α} {f : α → Except κ β} {b : β} :
    (x >>= f) = .ok b ↔ ∃ a, x = .ok a ∧ f a = .ok b := by
  cases x <;> simp [bind, Except.bind]

/-- A loop over a list returns when every turn does, with the results in order. -/
theorem mapM_returns_iff {κ α β : Type} {f : α → Except κ β} {xs : List α} {out : List β} :
    xs.mapM f = .ok out ↔ List.Forall₂ (fun x y => f x = .ok y) xs out := by
  induction xs generalizing out with
  | nil => cases out <;> simp [pure, Except.pure]
  | cons x xs ih =>
    simp only [List.mapM_cons, bind_returns_iff, ih, List.forall₂_cons_left_iff]
    constructor
    · rintro ⟨y, hy, zs, hzs, he⟩
      exact ⟨y, zs, hy, hzs, (Except.ok.inj he).symm⟩
    · rintro ⟨y, zs, hy, hzs, rfl⟩
      exact ⟨y, hy, zs, hzs, rfl⟩

theorem mapM_mem_returns {κ α β : Type} {f : α → Except κ β} {xs : List α} {out : List β}
    (h : xs.mapM f = .ok out) {x : α} (hx : x ∈ xs) : ∃ y, f x = .ok y := by
  have hrel := mapM_returns_iff.mp h
  clear h
  induction hrel with
  | nil => cases hx
  | cons hxy _ ih =>
    rcases List.mem_cons.mp hx with rfl | hx
    · exact ⟨_, hxy⟩
    · exact ih hx

theorem mapM_returns_of_forall {κ α β : Type} {f : α → Except κ β} {xs : List α}
    (h : ∀ x ∈ xs, ∃ y, f x = .ok y) : ∃ out, xs.mapM f = .ok out := by
  simp only [mapM_returns_iff]
  induction xs with
  | nil => exact ⟨[], .nil⟩
  | cons x xs ih =>
    obtain ⟨y, hy⟩ := h x List.mem_cons_self
    obtain ⟨ys, hys⟩ := ih fun x' hx' => h x' (List.mem_cons_of_mem x hx')
    exact ⟨y :: ys, .cons hy hys⟩

/-- A property of some result of the loop is one of some element it went over. -/
theorem mapM_exists_iff {κ α β : Type} {f : α → Except κ β} {xs : List α} {out : List β}
    (h : xs.mapM f = .ok out) {P : α → Prop} {Q : β → Prop} (hPQ : ∀ x y, f x = .ok y → (P x ↔ Q y)) :
    (∃ y ∈ out, Q y) ↔ ∃ x ∈ xs, P x := by
  have hrel := mapM_returns_iff.mp h
  clear h
  induction hrel with
  | nil => simp
  | cons hxy _ ih => simp only [List.exists_mem_cons_iff, ih, hPQ _ _ hxy]

/-- A loop that computes a total function where it returns. -/
theorem mapM_eq_map {κ α β : Type} {f : α → Except κ β} {g : α → β} (hfg : ∀ x y, f x = .ok y → y = g x)
    {xs : List α} {out : List β} (h : xs.mapM f = .ok out) : out = xs.map g := by
  have hrel := mapM_returns_iff.mp h
  clear h
  induction hrel with
  | nil => rfl
  | cons hxy _ ih => rw [List.map_cons, ← ih, hfg _ _ hxy]

@[simp] theorem unwrap_some {α : Type} (a : α) : unwrap (some a) = .ok a := rfl
@[simp] theorem unwrap_none {α : Type} : unwrap (none : Option α) = .error .unwrapOnNone := rfl

@[simp] theorem unwrap_ok_iff {α : Type} {o : Option α} {a : α} : unwrap o = .ok a ↔ o = some a := by
  cases o <;> simp [unwrap]

@[simp] theorem unwrapResult_ok_iff {ε α : Type} {x : Except ε α} {a : α} : unwrapResult x = .ok a ↔ x = .ok a := by
  cases x <;> simp [unwrapResult]

@[simp] theorem mapError_ok_iff {ε κ α : Type} {x : Except ε α} {f : ε → κ} {a : α} :
    x.mapError f = .ok a ↔ x = .ok a := by
  cases x <;> simp [Except.mapError]

theorem index_ok_iff {α : Type} {xs : List α} {i : Nat} {a : α} : index xs i = .ok a ↔ xs[i]? = some a := by
  unfold index
  split <;> simp [*]

theorem copyFromSlice_ok_iff {w : Nat} {src : List UInt8} {v : Bytes w} :
    copyFromSlice w src = .ok v ↔ src = v.toList := by
  unfold copyFromSlice
  split
  · rename_i h
    rw [Except.ok.injEq]
    exact ⟨fun e => by rw [← e, toList_ofList], fun e => List.Vector.toList_injective e⟩
  · rename_i h
    simp only [reduceCtorEq, false_iff]
    rintro rfl
    exact h v.toList_length

theorem checkedAdd_ok {w : Nat} {a b : BitVec w} (h : a.toNat + b.toNat < 2^w) :
    checkedAdd a b = .ok (a + b) := if_pos h

theorem asU128_ok_iff {a : BitVec 256} {n : BitVec 128} : asU128 a = .ok n ↔ a.toNat = n.toNat := by
  unfold asU128
  split
  · rename_i h
    rw [Except.ok.injEq, ← BitVec.toNat_inj, BitVec.toNat_setWidth, Nat.mod_eq_of_lt h]
  · rename_i h
    simp only [reduceCtorEq, false_iff]
    intro e
    exact h (e ▸ n.isLt)

theorem toNat_lt_of_asU128 {a : BitVec 256} {n : BitVec 128} (h : asU128 a = .ok n) : a.toNat < 2^128 := by
  rw [asU128_ok_iff.mp h]
  exact n.isLt

theorem asU128_error_iff {a : BitVec 256} {p : Panic} :
    asU128 a = .error p ↔ 2^128 ≤ a.toNat ∧ p = .overflow := by
  unfold asU128
  split <;> simp [eq_comm] <;> omega

end TradeInterfaces.Foundations.Panics
