import Mathlib.Data.List.Basic
import Mathlib.Logic.Relation
import TradeInterfaces.Foundations.Effects

/-! Scans of a list: loops that go on after every item, the last value such a loop
writes, and the edits of a list that it does not see. -/
namespace TradeInterfaces.Foundations.Scans
open Effects
open Relation (ReflTransGen)

section
variable {κ ε α β σ : Type}

/-- A loop whose body always goes on reaches every item: the turns are folded, and the
effects of all of them are kept in order. -/
theorem forIn_yield (turn : σ → α → σ) (effects : α → List ε) {body : α → σ → Proc κ ε (ForInStep σ)}
    (hbody : ∀ a s, body a s = ⟨.ok (.yield (turn s a)), effects a⟩) (xs : List α) (s : σ) :
    forIn xs s body = (⟨.ok (xs.foldl turn s), xs.flatMap effects⟩ : Proc κ ε σ) := by
  induction xs generalizing s with
  | nil => rfl
  | cons a xs ih =>
    have hturn : (body a s).outcome = .ok (.yield (turn s a)) := by rw [hbody]
    rw [List.forIn_cons, Proc.bind_of_ok hturn]
    dsimp only
    rw [ih, hbody, List.foldl_cons, List.flatMap_cons]

/-- Turns that overwrite or leave alone end with the last value written. -/
theorem foldl_overwrite (write : α → Option β) (xs : List α) (b : β) :
    xs.foldl (fun b a => (write a).getD b) b = (xs.filterMap write).getLast?.getD b := by
  induction xs generalizing b with
  | nil => rfl
  | cons a xs ih =>
    rw [List.foldl_cons, ih]
    cases hw : write a with
    | none => rw [List.filterMap_cons_none hw, Option.getD_none]
    | some c => rw [List.filterMap_cons_some hw, List.getLast?_cons, Option.getD_some, Option.getD_some]

/-- The last value written splits the list at the item that wrote it. -/
theorem getLast?_filterMap_eq_some_iff {write : α → Option β} {xs : List α} {b : β} :
    (xs.filterMap write).getLast? = some b ↔ ∃ before a after, xs = before ++ a :: after ∧
      write a = some b ∧ ∀ x ∈ after, write x = none := by
  rw [List.getLast?_filterMap, List.findSome?_eq_some_iff]
  constructor
  · intro ⟨after, a, before, hxs, ha, hafter⟩
    have hsplit : xs = before.reverse ++ a :: after.reverse := by
      rw [← List.reverse_reverse xs, hxs]
      simp
    exact ⟨before.reverse, a, after.reverse, hsplit, ha, fun x hx => hafter x (List.mem_reverse.mp hx)⟩
  · intro ⟨before, a, after, hxs, ha, hafter⟩
    have hsplit : xs.reverse = after.reverse ++ a :: before.reverse := by
      rw [hxs]
      simp
    exact ⟨after.reverse, a, before.reverse, hsplit, ha, fun x hx => hafter x (List.mem_reverse.mp hx)⟩

end

section
variable {α β : Type} {kept : α → Bool} {xs ys : List α}

/-- One edit that spares the kept items and their order: another item is put in, taken
out, or changes places with its neighbour. -/
inductive Edit (kept : α → Bool) : List α → List α → Prop
  | insert (before after : List α) (a : α) (h : kept a = false) :
      Edit kept (before ++ after) (before ++ a :: after)
  | delete (before after : List α) (a : α) (h : kept a = false) :
      Edit kept (before ++ a :: after) (before ++ after)
  | swap (before after : List α) (a b : α) (h : kept a = false ∨ kept b = false) :
      Edit kept (before ++ a :: b :: after) (before ++ b :: a :: after)

abbrev Edits (kept : α → Bool) : List α → List α → Prop := ReflTransGen (Edit kept)

theorem Edit.symm (h : Edit kept xs ys) : Edit kept ys xs := by
  cases h with
  | insert before after a h => exact .delete before after a h
  | delete before after a h => exact .insert before after a h
  | swap before after a b h => exact .swap before after b a h.symm

instance : Std.Symm (Edit kept) := ⟨fun _ _ => Edit.symm⟩

theorem Edit.cons (x : α) (h : Edit kept xs ys) : Edit kept (x :: xs) (x :: ys) := by
  cases h with
  | insert before after a h => exact .insert (x :: before) after a h
  | delete before after a h => exact .delete (x :: before) after a h
  | swap before after a b h => exact .swap (x :: before) after a b h

theorem Edit.filter_eq (h : Edit kept xs ys) : xs.filter kept = ys.filter kept := by
  cases h with
  | insert before after a h => simp [h]
  | delete before after a h => simp [h]
  | swap before after a b h =>
    rcases h with h | h
    · simp [List.filter_cons, h]
    · simp [List.filter_cons, h]

theorem Edits.filter_eq (h : Edits kept xs ys) : xs.filter kept = ys.filter kept := by
  induction h with
  | refl => rfl
  | tail _ hedit ih => exact ih.trans hedit.filter_eq

private theorem edits_filter (kept : α → Bool) (xs : List α) : Edits kept xs (xs.filter kept) := by
  induction xs with
  | nil => exact .refl
  | cons x xs ih =>
    have hcons : Edits kept (x :: xs) (x :: xs.filter kept) := ih.lift (x :: ·) fun _ _ => Edit.cons x
    cases hx : kept x with
    | true =>
      rw [List.filter_cons_of_pos hx]
      exact hcons
    | false =>
      rw [List.filter_cons_of_neg (by simp [hx])]
      exact hcons.tail (.delete [] _ x hx)

/-- Edits lead from one list to every other that keeps the same items in the same order. -/
theorem edits_iff : Edits kept xs ys ↔ xs.filter kept = ys.filter kept := by
  constructor
  · exact Edits.filter_eq
  · intro h
    have hback : Edits kept (ys.filter kept) ys := symm (edits_filter kept ys)
    exact (edits_filter kept xs).trans (h ▸ hback)

/-- What is computed from the kept items alone does not see the edits. -/
theorem Edits.filterMap_eq {f : α → Option β} (h : Edits (fun a => (f a).isSome) xs ys) :
    xs.filterMap f = ys.filterMap f := by
  have hkept (zs : List α) : (zs.filter fun a => (f a).isSome).filterMap f = zs.filterMap f := by
    rw [List.filterMap_filter]
    apply List.filterMap_congr
    intro a _
    cases hf : f a <;> simp
  rw [← hkept xs, ← hkept ys, h.filter_eq]

end
end TradeInterfaces.Foundations.Scans
