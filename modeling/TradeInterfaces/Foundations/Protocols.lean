import TradeInterfaces.Foundations.Effects
import TradeInterfaces.Foundations.Ledgers

/-! Protocols: which effects are allowed after which log. A computation keeps to a protocol
when every effect it has is allowed where it comes. -/
namespace TradeInterfaces.Foundations.Protocols
open Effects Ledgers
variable {ε : Type}

section
variable {P Q : List ε → ε → Prop} {xs ys : List ε}

/-- Every entry of the log comes after a log that allows it. -/
def Follows (P : List ε → ε → Prop) (log : List ε) : Prop :=
  ∀ before e after, log = before ++ e :: after → P before e

theorem follows_nil : Follows P [] := fun before e after h => by simp at h

theorem Follows.imp (h : Follows P xs) (hPQ : ∀ before e, P before e → Q before e) : Follows Q xs :=
  fun before e after hlog => hPQ before e (h before e after hlog)

theorem Follows.append (hx : Follows P xs) (hy : Follows (fun before e => P (xs ++ before) e) ys) :
    Follows P (xs ++ ys) := by
  intro before e after h
  rcases place_append h with ⟨rest, hxs⟩ | ⟨inside, rfl, hys⟩
  · exact hx before e rest hxs
  · exact hy inside e after hys

theorem Follows.snoc (hx : Follows P xs) {e : ε} (he : P xs e) : Follows P (xs ++ [e]) := by
  refine hx.append fun before e' after h => ?_
  cases before with
  | nil =>
    cases h
    rwa [List.append_nil]
  | cons _ _ => simp at h

theorem Follows.of_prefix (hy : Follows P ys) (h : xs <+: ys) : Follows P xs := by
  obtain ⟨rest, rfl⟩ := h
  intro before e after hx
  exact hy before e (after ++ rest) (by simp [hx])

/-- The entries of a part of the log may be under other names. -/
theorem Follows.map {δ : Type} {f : δ → ε} {part : List δ}
    (h : Follows (fun before e => P (before.map f) (f e)) part) : Follows P (part.map f) := by
  intro before e after hmap
  obtain ⟨inside, rest, rfl, rfl, hrest⟩ := List.map_eq_append_iff.mp hmap
  obtain ⟨d, later, rfl, rfl, _⟩ := List.map_eq_cons_iff.mp hrest
  exact h inside d later rfl

end

/-! Computations that are started with a log. -/

section
variable {κ α β : Type} {P : List ε → ε → Prop} {log : List ε} {Q : α → List ε → Prop}

/-- After this log the computation keeps to the protocol, and the value it returns and the
log it leaves meet the postcondition. -/
structure Obeys (P : List ε → ε → Prop) (log : List ε) (p : Proc κ ε α) (Q : α → List ε → Prop) : Prop where
  follows : Follows (fun before e => P (log ++ before) e) p.events
  returns : ∀ a, p.outcome = .ok a → Q a (log ++ p.events)

theorem obeys_pure {a : α} (h : Q a log) : Obeys P log (pure a : Proc κ ε α) Q where
  follows := follows_nil
  returns a' h' := by
    cases h'
    rwa [Proc.events_pure, List.append_nil]

theorem obeys_abort (k : κ) : Obeys P log (Proc.abort k : Proc κ ε α) Q where
  follows := follows_nil
  returns a h := by cases h

theorem obeys_lift {x : Except κ α} (h : ∀ a, x = .ok a → Q a log) : Obeys P log (Proc.lift x : Proc κ ε α) Q where
  follows := follows_nil
  returns a ha := by
    rw [Proc.lift, List.append_nil]
    exact h a ha

theorem obeys_emit {e : ε} {Q : Unit → List ε → Prop} (he : P log e) (h : Q () (log ++ [e])) :
    Obeys P log (Proc.emit e : Proc κ ε Unit) Q where
  follows := follows_nil.snoc (by rwa [List.append_nil])
  returns _ _ := h

/-- The second part goes on after the log that the first one leaves. -/
theorem obeys_bind {p : Proc κ ε β} {f : β → Proc κ ε α}
    (h : Obeys P log p fun b log' => Obeys P log' (f b) Q) : Obeys P log (p >>= f) Q := by
  cases hp : p.outcome with
  | error k =>
    rw [Proc.bind_of_error hp]
    exact ⟨h.follows, fun a ha => (by cases ha)⟩
  | ok b =>
    have hf := h.returns b hp
    rw [Proc.bind_of_ok hp]
    refine ⟨h.follows.append (hf.follows.imp fun before e he => ?_), fun a ha => ?_⟩
    · rwa [← List.append_assoc]
    · rw [← List.append_assoc]
      exact hf.returns a ha

theorem Obeys.imp {p : Proc κ ε α} {Q' : α → List ε → Prop} (h : Obeys P log p Q)
    (hQ : ∀ a log', Q a log' → Q' a log') : Obeys P log p Q' :=
  ⟨h.follows, fun a ha => hQ a _ (h.returns a ha)⟩

/-- A computation with its effects under other names keeps to what the protocol says of them. -/
theorem obeys_relabel {δ : Type} {f : δ → ε} {p : Proc κ δ α}
    (h : Obeys (fun before d => P (log ++ before.map f) (f d)) [] p fun a part => Q a (log ++ part.map f)) :
    Obeys P log (p.relabel f) Q :=
  ⟨h.follows.map, h.returns⟩

theorem obeys_mapError {κ' : Type} {f : κ' → κ} {p : Proc κ' ε α} (h : Obeys P log p Q) :
    Obeys P log (p.mapError f) Q where
  follows := h.follows
  returns a ha := by
    cases hp : p.outcome with
    | error k =>
      rw [Proc.mapError, hp] at ha
      cases ha
    | ok b =>
      rw [Proc.mapError, hp] at ha
      cases ha
      exact h.returns _ hp

end

end TradeInterfaces.Foundations.Protocols
