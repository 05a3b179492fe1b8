import Mathlib.Data.List.Forall2
import Mathlib.Data.List.Induction

/-! Runs of a machine that takes one input after another. A property of runs is
proved from what one step does to it. -/
namespace TradeInterfaces.Foundations.Runs
variable {σ ι : Type} (step : σ → ι → σ)

def run (s : σ) (inputs : List ι) : σ := inputs.foldl step s

@[simp] theorem run_nil (s : σ) : run step s [] = s := rfl
@[simp] theorem run_cons (s : σ) (i : ι) (is : List ι) : run step s (i :: is) = run step (step s i) is := rfl

theorem run_snoc (s : σ) (is : List ι) (i : ι) : run step s (is ++ [i]) = step (run step s is) i := by
  simp [run]

/-- Every step of the run meets a condition on the state it starts from and its input. -/
def AllSteps (C : σ → ι → Prop) : σ → List ι → Prop
  | _, [] => True
  | s, i :: is => C s i ∧ AllSteps C (step s i) is

variable {step}

/-- An invariant kept by every step that meets the condition holds after a run of
such steps. -/
theorem invariant_of_allSteps {C : σ → ι → Prop} {I : σ → Prop}
    (hstep : ∀ s i, I s → C s i → I (step s i)) {s : σ} {is : List ι}
    (h : AllSteps step C s is) (hs : I s) : I (run step s is) := by
  induction is generalizing s with
  | nil => exact hs
  | cons i is ih => exact ih h.2 (hstep s i hs h.1)

theorem invariant {I : σ → Prop} (hstep : ∀ s i, I s → I (step s i)) {s : σ} (is : List ι)
    (hs : I s) : I (run step s is) := by
  induction is generalizing s with
  | nil => exact hs
  | cons i is ih => exact ih (hstep s i hs)

/-- A condition that holds at every step holds for every part of the run. -/
theorem allSteps_append {C : σ → ι → Prop} {s : σ} {is js : List ι} :
    AllSteps step C s (is ++ js) ↔ AllSteps step C s is ∧ AllSteps step C (run step s is) js := by
  induction is generalizing s with
  | nil => simp [AllSteps]
  | cons i is ih => simp [AllSteps, ih, and_assoc]

/-- A condition on all steps is a condition on every point of the run. -/
theorem allSteps_iff {C : σ → ι → Prop} {s : σ} {is : List ι} :
    AllSteps step C s is ↔ ∀ before i after, is = before ++ i :: after → C (run step s before) i := by
  constructor
  · rintro h before i after rfl
    exact (allSteps_append.mp h).2.1
  · intro h
    induction is generalizing s with
    | nil => trivial
    | cons i is ih => exact ⟨h [] i is rfl, ih fun before j after e => h (i :: before) j after (by rw [e]; rfl)⟩

/-- Inputs that every state takes in the same way lead to the same end. -/
theorem run_congr {is js : List ι} (h : List.Forall₂ (fun i j => ∀ s, step s i = step s j) is js) (s : σ) :
    run step s is = run step s js := by
  induction h generalizing s with
  | nil => rfl
  | cons hij _ ih => rw [run_cons, run_cons, hij, ih]

/-- A property that is not regained once it is lost holds at the end exactly when every step
meets the condition under which one step keeps it. -/
theorem holds_iff_allSteps_of_kept {I P : σ → Prop} {C : σ → ι → Prop} (hI : ∀ s i, I s → I (step s i))
    (hkept : ∀ s i, I s → P (step s i) → P s) (hstep : ∀ s i, I s → P s → (P (step s i) ↔ C s i))
    {s : σ} (hs : I s) (hP : P s) (is : List ι) : P (run step s is) ↔ AllSteps step C s is := by
  have hback {s : σ} (is : List ι) (hs : I s) : P (run step s is) → P s := by
    induction is generalizing s with
    | nil => exact id
    | cons i is ih => exact fun h => hkept s i hs (ih (hI s i hs) h)
  induction is generalizing s with
  | nil => exact ⟨fun _ => trivial, fun _ => hP⟩
  | cons i is ih =>
    by_cases hC : C s i
    · have hP' := (hstep s i hs hP).mpr hC
      exact (ih (hI s i hs) hP').trans ⟨fun h => ⟨hC, h⟩, fun h => h.2⟩
    · have hP' : ¬P (step s i) := fun h => hC ((hstep s i hs hP).mp h)
      exact ⟨fun h => absurd (hback is (hI s i hs) h) hP', fun h => absurd h.1 hC⟩

/-- The same of a property whose violation ends the run. -/
theorem holds_iff_allSteps {I P : σ → Prop} {C : σ → ι → Prop} (hI : ∀ s i, I s → I (step s i))
    (hfixed : ∀ s i, ¬P s → step s i = s) (hstep : ∀ s i, I s → P s → (P (step s i) ↔ C s i))
    {s : σ} (hs : I s) (hP : P s) (is : List ι) : P (run step s is) ↔ AllSteps step C s is := by
  refine holds_iff_allSteps_of_kept hI (fun s i _ h => ?_) hstep hs hP is
  by_contra hno
  rw [hfixed s i hno] at h
  exact hno h

/-! Progress: a machine that waits for inputs of two kinds in turn. -/

section
variable {κ : Type} (awaited : Nat → κ)

/-- The kinds of the inputs that are awaited, from a rank down to zero. -/
def script : Nat → List κ
  | 0 => []
  | rank + 1 => awaited (rank + 1) :: script rank

theorem script_sublist {m n : Nat} (h : m ≤ n) : (script awaited m).Sublist (script awaited n) := by
  induction h with
  | refl => exact .refl _
  | step _ ih => exact ih.cons _

variable {awaited} {kind : ι → Option κ} {back : ι → Bool} {C : σ → ι → Prop} {W : Nat → σ → Prop}

private theorem script_cons (halternate : ∀ rank, awaited (rank + 2) = awaited rank) (rank n : Nat) :
    script awaited (rank + 1 + 2 * n) = awaited (rank + 1) :: script awaited (rank + 2 * n) := by
  have hawaited : awaited (rank + 2 * n + 1) = awaited (rank + 1) := by
    induction n with
    | zero => rfl
    | succ n ih => exact (halternate _).trans ih
  rw [Nat.add_right_comm, script, hawaited]

/-- The machine gets to rank zero when inputs of the awaited kinds come in turn, twice
more for each setback. Inputs that are not awaited can come in between. -/
theorem reaches_zero (halternate : ∀ rank, awaited (rank + 2) = awaited rank)
    (hnext : ∀ {rank s i}, W (rank + 1) s → C s i → kind i = some (awaited (rank + 1)) →
      W rank (step s i) ∨ back i = true ∧ W (rank + 2) (step s i))
    (hother : ∀ {rank s i}, W rank s → C s i → (∀ r, rank = r + 1 → kind i ≠ some (awaited rank)) →
      W rank (step s i))
    {rank : Nat} {s : σ} {is : List ι} (h : AllSteps step C s is) (hW : W rank s)
    (hkinds : (script awaited (rank + 2 * is.countP back)).Sublist (is.filterMap kind)) :
    W 0 (run step s is) := by
  induction is generalizing rank s with
  | nil =>
    cases rank with
    | zero => exact hW
    | succ rank => cases hkinds
  | cons i is ih =>
    have hfewer : is.countP back ≤ (i :: is).countP back := (List.sublist_cons_self i is).countP_le
    cases rank with
    | zero =>
      have hstay (s : σ) (i : ι) (hW : W 0 s) (hC : C s i) : W 0 (step s i) :=
        hother hW hC fun r hr => by cases hr
      exact invariant_of_allSteps hstay h hW
    | succ rank =>
      by_cases hk : kind i = some (awaited (rank + 1))
      · rw [script_cons halternate, List.filterMap_cons_some hk] at hkinds
        have hrest := List.cons_sublist_cons.mp hkinds
        rcases hnext hW h.1 hk with hW' | ⟨hback, hW'⟩
        · exact ih h.2 hW' ((script_sublist awaited (by omega)).trans hrest)
        · rw [List.countP_cons_of_pos hback, Nat.mul_succ, ← Nat.add_assoc, Nat.add_right_comm] at hrest
          exact ih h.2 hW' hrest
      · have hfits : rank + 1 + 2 * is.countP back ≤ rank + 1 + 2 * (i :: is).countP back := by omega
        refine ih h.2 (hother hW h.1 fun _ _ => hk) ((script_sublist awaited hfits).trans ?_)
        cases hki : kind i with
        | none => rwa [List.filterMap_cons_none hki] at hkinds
        | some k =>
          rw [List.filterMap_cons_some hki, script_cons halternate] at hkinds
          rw [script_cons halternate]
          cases hkinds with
          | cons _ hkinds => exact hkinds
          | cons_cons _ hkinds => exact absurd hki hk

end

end TradeInterfaces.Foundations.Runs
