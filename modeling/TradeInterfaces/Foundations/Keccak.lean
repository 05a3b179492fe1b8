import TradeInterfaces.Foundations.BigEndian

/-! Keccak-256: a sponge over five planes of five 64-bit lanes that absorbs 136 bytes at a
time. Lanes are natural numbers, which the kernel computes with directly. -/
namespace TradeInterfaces.Foundations.Keccak
open BigEndian

structure Five (α : Type) where
  a : α
  b : α
  c : α
  d : α
  e : α

namespace Five
variable {α β γ : Type}

def map (f : α → β) (p : Five α) : Five β := ⟨f p.a, f p.b, f p.c, f p.d, f p.e⟩

def zipWith (f : α → β → γ) (p : Five α) (q : Five β) : Five γ :=
  ⟨f p.a q.a, f p.b q.b, f p.c q.c, f p.d q.d, f p.e q.e⟩

/-- The values of the next position, around the end. -/
def turn (p : Five α) : Five α := ⟨p.b, p.c, p.d, p.e, p.a⟩

def ofList [Inhabited α] (l : List α) : Five α := ⟨l.getD 0 default, l.getD 1 default, l.getD 2 default,
  l.getD 3 default, l.getD 4 default⟩

end Five

abbrev Plane := Five Nat
abbrev State := Five Plane

def rotateLane (lane n : Nat) : Nat := (lane <<< n ||| lane >>> (64 - n)) % 0x10000000000000000

def xorPlane : Plane → Plane → Plane := Five.zipWith Nat.xor

def rotations : Five (Five Nat) :=
  ⟨⟨0, 1, 62, 28, 27⟩, ⟨36, 44, 6, 55, 20⟩, ⟨3, 10, 43, 25, 39⟩, ⟨41, 45, 15, 21, 8⟩, ⟨18, 2, 61, 56, 14⟩⟩

def roundConstants : List Nat :=
  [0x0000000000000001, 0x0000000000008082, 0x800000000000808A, 0x8000000080008000,
   0x000000000000808B, 0x0000000080000001, 0x8000000080008081, 0x8000000000008009,
   0x000000000000008A, 0x0000000000000088, 0x0000000080008009, 0x000000008000000A,
   0x000000008000808B, 0x800000000000008B, 0x8000000000008089, 0x8000000000008003,
   0x8000000000008002, 0x8000000000000080, 0x000000000000800A, 0x800000008000000A,
   0x8000000080008081, 0x8000000000008080, 0x0000000080000001, 0x8000000080008008]

def theta (s : State) : State :=
  let parity := xorPlane s.a (xorPlane s.b (xorPlane s.c (xorPlane s.d s.e)))
  let before := parity.turn.turn.turn.turn
  let after := parity.turn.map fun lane => rotateLane lane 1
  s.map (xorPlane (xorPlane before after))

def rho (s : State) : State := Five.zipWith (Five.zipWith rotateLane) s rotations

def pi (s : State) : State :=
  ⟨⟨s.a.a, s.b.b, s.c.c, s.d.d, s.e.e⟩,
   ⟨s.a.d, s.b.e, s.c.a, s.d.b, s.e.c⟩,
   ⟨s.a.b, s.b.c, s.c.d, s.d.e, s.e.a⟩,
   ⟨s.a.e, s.b.a, s.c.b, s.d.c, s.e.d⟩,
   ⟨s.a.c, s.b.d, s.c.e, s.d.a, s.e.b⟩⟩

def chi (plane : Plane) : Plane :=
  xorPlane plane (Five.zipWith (fun x y => (x ^^^ 0xFFFFFFFFFFFFFFFF) &&& y) plane.turn plane.turn.turn)

def iota (constant : Nat) (s : State) : State := { s with a := { s.a with a := s.a.a ^^^ constant } }

def round (s : State) (constant : Nat) : State := iota constant ((pi (rho (theta s))).map chi)

def permute (s : State) : State := roundConstants.foldl round s

def chunks {α : Type} (size : Nat) : Nat → List α → List (List α)
  | 0, _ => []
  | n+1, l => l.take size :: chunks size n (l.drop size)

def laneOfBytes (bytes : List UInt8) : Nat := bytes.foldr (fun byte rest => byte.toNat + 256 * rest) 0

def pad (message : List UInt8) : List UInt8 :=
  let missing := 136 - message.length % 136
  if missing = 1 then message ++ [0x81]
  else message ++ [0x01] ++ List.replicate (missing - 2) 0 ++ [0x80]

/-- A block has 17 lanes; the lanes after them stay as they are. -/
def absorb (s : State) (block : List UInt8) : State :=
  let lanes := (chunks 8 17 block).map laneOfBytes
  permute (Five.zipWith xorPlane s ((Five.ofList (chunks 5 4 lanes)).map Five.ofList))

def keccak256 (message : List UInt8) : Bytes 32 :=
  let padded := pad message
  let zero : Plane := ⟨0, 0, 0, 0, 0⟩
  let s := (chunks 136 (padded.length / 136) padded).foldl absorb ⟨zero, zero, zero, zero, zero⟩
  ofList ([s.a.a, s.a.b, s.a.c, s.a.d].flatMap fun lane => (toBytes 8 lane).toList.reverse) (by simp)

example : keccak256 [] = toBytes 32 0xc5d2460186f7233c927e7db2dcc703c0e500b653ca82273b7bfad8045d85a470 := by
  decide +kernel

end TradeInterfaces.Foundations.Keccak
