import Mathlib.Logic.Basic

/-! Computations that may abort and that leave a log of the effects they had.
A computation is a value, so its log and its outcome are read off directly. -/
namespace TradeInterfaces.Foundations.Effects

/-- What a computation ended with and what it did until then. An abort keeps the
effects that came before it. -/
@[ext]
structure Proc (κ ε α : Type) where
  outcome : Except κ α
  events : List ε

namespace Proc
variable {κ ε α β : Type}

def abort (k : κ) : Proc κ ε α := ⟨.error k, []⟩

def emit (e : ε) : Proc κ ε Unit := ⟨.ok (), [e]⟩

def emitAll (es : List ε) : Proc κ ε Unit := ⟨.ok (), es⟩

/-- A computation without effects. -/
def lift (x : Except κ α) : Proc κ ε α := ⟨x, []⟩

/-- The same computation with its effects under other names. -/
def relabel {ε' : Type} (f : ε → ε') (p : Proc κ ε α) : Proc κ ε' α := ⟨p.outcome, p.events.map f⟩

/-- The same computation with its aborts under other names. -/
def mapError {κ' : Type} (f : κ → κ') (p : Proc κ ε α) : Proc κ' ε α := ⟨p.outcome.mapError f, p.events⟩

def andThen (p : Proc κ ε α) (f : α → Proc κ ε β) : Proc κ ε β :=
  match p.outcome with
  | .ok a => ⟨(f a).outcome, p.events ++ (f a).events⟩
  | .error k => ⟨.error k, p.events⟩

instance : Monad (Proc κ ε) where
  pure a := ⟨.ok a, []⟩
  bind := andThen

@[simp] theorem outcome_pure (a : α) : (pure a : Proc κ ε α).outcome = .ok a := rfl
@[simp] theorem events_pure (a : α) : (pure a : Proc κ ε α).events = [] := rfl
@[simp] theorem outcome_relabel {ε' : Type} (f : ε → ε') (p : Proc κ ε α) : (p.relabel f).outcome = p.outcome := rfl
@[simp] theorem events_relabel {ε' : Type} (f : ε → ε') (p : Proc κ ε α) : (p.relabel f).events = p.events.map f := rfl
@[simp] theorem outcome_abort (k : κ) : (abort k : Proc κ ε α).outcome = .error k := rfl
@[simp] theorem events_abort (k : κ) : (abort k : Proc κ ε α).events = [] := rfl

theorem bind_of_ok {p : Proc κ ε α} {a : α} (h : p.outcome = .ok a) (f : α → Proc κ ε β) :
    p >>= f = ⟨(f a).outcome, p.events ++ (f a).events⟩ := by
  change andThen p f = _
  simp [andThen, h]

theorem bind_of_error {p : Proc κ ε α} {k : κ} (h : p.outcome = .error k) (f : α → Proc κ ε β) :
    p >>= f = ⟨.error k, p.events⟩ := by
  change andThen p f = _
  simp [andThen, h]

private theorem id_map (p : Proc κ ε α) : id <$> p = p := by
  change andThen p (fun a => pure (id a)) = p
  cases h : p.outcome <;> ext1 <;> simp [andThen, h]

private theorem bind_assoc {γ : Type} (p : Proc κ ε α) (f : α → Proc κ ε β) (g : β → Proc κ ε γ) :
    p >>= f >>= g = p >>= fun a => f a >>= g := by
  cases h : p.outcome with
  | error k => rw [bind_of_error h, bind_of_error h, bind_of_error rfl]
  | ok a =>
    rw [bind_of_ok h, bind_of_ok h]
    cases hf : (f a).outcome with
    | error k => rw [bind_of_error hf, bind_of_error rfl]
    | ok b => rw [bind_of_ok hf, bind_of_ok rfl, List.append_assoc]

instance : LawfulMonad (Proc κ ε) := LawfulMonad.mk' _ id_map (fun _ _ => rfl) bind_assoc

@[simp] theorem abort_bind (k : κ) (f : α → Proc κ ε β) : (abort k : Proc κ ε α) >>= f = abort k := rfl
@[simp] theorem lift_ok_bind (a : α) (f : α → Proc κ ε β) : (lift (.ok a) : Proc κ ε α) >>= f = f a := rfl
@[simp] theorem lift_error_bind (k : κ) (f : α → Proc κ ε β) :
    (lift (.error k) : Proc κ ε α) >>= f = abort k := rfl
theorem lift_mapError_ok_bind {κ' : Type} (a : α) (g : κ' → κ) (f : α → Proc κ ε β) :
    (lift ((Except.ok a : Except κ' α).mapError g) : Proc κ ε α) >>= f = f a := rfl
theorem emit_bind (e : ε) (f : Unit → Proc κ ε β) :
    emit e >>= f = (⟨(f ()).outcome, e :: (f ()).events⟩ : Proc κ ε β) := rfl

theorem emitAll_bind (es : List ε) (f : Unit → Proc κ ε β) :
    emitAll es >>= f = (⟨(f ()).outcome, es ++ (f ()).events⟩ : Proc κ ε β) := rfl
@[simp] theorem map_abort (f : α → β) (k : κ) : f <$> (abort k : Proc κ ε α) = abort k := rfl
theorem map_emit (f : Unit → α) (e : ε) : f <$> (emit e : Proc κ ε Unit) = ⟨.ok (f ()), [e]⟩ := rfl

/-- The computation succeeds with a value of this kind. -/
def Returns (p : Proc κ ε α) (Q : α → Prop) : Prop := ∃ a, p.outcome = .ok a ∧ Q a

/-- The computation has an effect of this kind, whether it succeeds or not. -/
def Emits (p : Proc κ ε α) (P : ε → Prop) : Prop := ∃ e ∈ p.events, P e

section
variable {p q : Proc κ ε α} {Q : α → Prop} {P : ε → Prop}

theorem outcome_eq_ok_iff {a : α} : p.outcome = .ok a ↔ p.Returns (· = a) := by simp [Returns]

theorem mem_events_iff {e : ε} : e ∈ p.events ↔ p.Emits (· = e) := by simp [Emits]

/-- A condition that does not look at the value can be asked for beside it. -/
theorem returns_const {c : Prop} : p.Returns (fun _ => c) ↔ p.Returns (fun _ => True) ∧ c := by simp [Returns]

@[simp] theorem returns_pure (a : α) : (pure a : Proc κ ε α).Returns Q ↔ Q a := by simp [Returns]
@[simp] theorem returns_abort (k : κ) : ¬(abort k : Proc κ ε α).Returns Q := by simp [Returns]
@[simp] theorem returns_lift (x : Except κ α) : (lift x : Proc κ ε α).Returns Q ↔ ∃ a, x = .ok a ∧ Q a := Iff.rfl
@[simp] theorem returns_emit (e : ε) (Q : Unit → Prop) : (emit e : Proc κ ε Unit).Returns Q ↔ Q () :=
  ⟨fun ⟨_, _, h⟩ => h, fun h => ⟨(), rfl, h⟩⟩

@[simp] theorem returns_ite (c : Prop) [Decidable c] :
    (if c then p else q).Returns Q ↔ if c then p.Returns Q else q.Returns Q := by
  split <;> rfl

/-- A sequence succeeds when both parts do. -/
@[simp] theorem returns_bind (f : α → Proc κ ε β) (R : β → Prop) :
    (p >>= f).Returns R ↔ p.Returns fun a => (f a).Returns R := by
  unfold Returns
  cases h : p.outcome with
  | error k => simp [bind_of_error h]
  | ok a => simp [bind_of_ok h]

@[simp] theorem returns_map (f : α → β) (R : β → Prop) : (f <$> p).Returns R ↔ p.Returns fun a => R (f a) := by
  rw [map_eq_pure_bind, returns_bind]
  simp only [returns_pure]

@[simp] theorem emits_pure (a : α) : ¬(pure a : Proc κ ε α).Emits P := by simp [Emits]
@[simp] theorem emits_abort (k : κ) : ¬(abort k : Proc κ ε α).Emits P := by simp [Emits]
@[simp] theorem emits_lift (x : Except κ α) : ¬(lift x : Proc κ ε α).Emits P := by simp [Emits, lift]
@[simp] theorem emits_emit (e : ε) : (emit e : Proc κ ε Unit).Emits P ↔ P e := by simp [Emits, emit]

@[simp] theorem emits_ite (c : Prop) [Decidable c] :
    (if c then p else q).Emits P ↔ if c then p.Emits P else q.Emits P := by
  split <;> rfl

/-- The second part has its effects when the first succeeds. -/
@[simp] theorem emits_bind (f : α → Proc κ ε β) :
    (p >>= f).Emits P ↔ p.Emits P ∨ p.Returns fun a => (f a).Emits P := by
  unfold Emits Returns
  cases h : p.outcome with
  | error k => simp [bind_of_error h]
  | ok a => simp [bind_of_ok h, or_and_right, exists_or]

@[simp] theorem emits_map (f : α → β) : (f <$> p).Emits P ↔ p.Emits P := by
  rw [map_eq_pure_bind, emits_bind]
  simp [Returns]

end
end Proc
end TradeInterfaces.Foundations.Effects
