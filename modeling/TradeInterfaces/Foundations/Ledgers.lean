import Mathlib.Algebra.GroupWithZero.Nat
import Mathlib.Data.List.Forall2

/-! A log that is written entry by entry, one for each item of a list. What holds of the
entries is put together to what holds of the log. -/
namespace TradeInterfaces.Foundations.Ledgers
variable {α β γ ε : Type} {R S : α → List ε → Prop} {items : List α} {log : List ε}

/-- The log is one entry for each item, in their order. -/
inductive Records (R : α → List ε → Prop) : List α → List ε → Prop
  | nil : Records R [] []
  | snoc {items : List α} {log : List ε} {item : α} {entry : List ε} (before : Records R items log)
      (h : R item entry) : Records R (items ++ [item]) (log ++ entry)

theorem Records.imp (h : Records R items log) (hRS : ∀ item entry, R item entry → S item entry) :
    Records S items log := by
  induction h with
  | nil => exact .nil
  | snoc _ h ih => exact ih.snoc (hRS _ _ h)

theorem Records.with_mem (h : Records R items log) :
    Records (fun item entry => item ∈ items ∧ R item entry) items log := by
  induction h with
  | nil => exact .nil
  | snoc _ h ih => exact (ih.imp fun _ _ hR => ⟨List.mem_append_left _ hR.1, hR.2⟩).snoc ⟨by simp, h⟩

/-- What is read off the entries is read off the log in the items' order. -/
theorem Records.filterMap_eq (h : Records R items log) {f : ε → Option β} {g : α → List β}
    (hentry : ∀ item entry, R item entry → entry.filterMap f = g item) : log.filterMap f = items.flatMap g := by
  induction h with
  | nil => rfl
  | snoc _ h ih =>
    rw [List.filterMap_append, ih, hentry _ _ h, List.flatMap_append, List.flatMap_cons, List.flatMap_nil,
      List.append_nil]

/-- Where the `b`s of each entry have their origins in its item, in order, those of the
log have them in the items. -/
theorem Records.sublist (h : Records R items log) {f : ε → Option β} {g : α → List γ} {Q : γ → β → Prop}
    (hentry : ∀ item entry, R item entry →
      ∃ origins, origins.Sublist (g item) ∧ List.Forall₂ Q origins (entry.filterMap f)) :
    ∃ origins, origins.Sublist (items.flatMap g) ∧ List.Forall₂ Q origins (log.filterMap f) := by
  induction h with
  | nil => exact ⟨[], .refl _, .nil⟩
  | snoc _ h ih =>
    obtain ⟨origins, hsub, hQ⟩ := ih
    obtain ⟨more, hmore, hQmore⟩ := hentry _ _ h
    rw [List.filterMap_append, List.flatMap_append, List.flatMap_cons, List.flatMap_nil, List.append_nil]
    exact ⟨origins ++ more, hsub.append hmore, List.rel_append hQ hQmore⟩

/-- A place in two logs one after the other is a place in one of them. -/
theorem place_append {xs ys before after : List ε} {e : ε} (h : xs ++ ys = before ++ e :: after) :
    (∃ rest, xs = before ++ e :: rest) ∨ ∃ inside, before = xs ++ inside ∧ ys = inside ++ e :: after := by
  rcases List.append_eq_append_iff.mp h with ⟨inside, hbefore, hys⟩ | ⟨rest, hxs, hrest⟩
  · exact .inr ⟨inside, hbefore, hys⟩
  · cases rest with
    | nil =>
      rw [List.append_nil] at hxs
      exact .inr ⟨[], by rw [hxs, List.append_nil], hrest.symm⟩
    | cons e' rest =>
      obtain ⟨rfl, _⟩ := List.cons.inj hrest
      exact .inl ⟨rest, hxs⟩

/-- A place in the log is a place in one of the entries. -/
theorem Records.split (h : Records R items log) {before after : List ε} {e : ε}
    (hlog : log = before ++ e :: after) :
    ∃ item ∈ items, ∃ earlier inside later, R item (inside ++ e :: later) ∧ before = earlier ++ inside := by
  induction h generalizing after with
  | nil => simp at hlog
  | @snoc items log item entry _ h ih =>
    rcases place_append hlog with ⟨rest, hlog'⟩ | ⟨inside, hbefore, rfl⟩
    · obtain ⟨item', hitem, hsplit⟩ := ih hlog'
      exact ⟨item', List.mem_append_left _ hitem, hsplit⟩
    · exact ⟨item, by simp, log, inside, after, h, hbefore⟩

/-- A total never exceeds another one at any point of the log when it never does so
inside an entry. -/
theorem Records.sum_le (h : Records R items log) {f g : ε → Nat}
    (hentry : ∀ item entry, R item entry → ∀ part, part <+: entry → (part.map f).sum ≤ (part.map g).sum)
    {part : List ε} (hpart : part <+: log) : (part.map f).sum ≤ (part.map g).sum := by
  induction h generalizing part with
  | nil =>
    rw [List.prefix_nil.mp hpart]
    exact Nat.le_refl _
  | @snoc items log item entry _ h ih =>
    obtain ⟨rest, hrest⟩ := hpart
    rcases List.append_eq_append_iff.mp hrest with ⟨tail, hlog, _⟩ | ⟨inside, rfl, hentry'⟩
    · exact ih ⟨tail, hlog.symm⟩
    · have hbefore := ih (List.prefix_refl log)
      have hinside := hentry item entry h inside ⟨rest, hentry'.symm⟩
      rw [List.map_append, List.map_append, List.sum_append_nat, List.sum_append_nat]
      omega

end TradeInterfaces.Foundations.Ledgers
