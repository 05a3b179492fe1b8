import TradeInterfaces.Taker.Run

/-! What one turn of the taker's loop can do. Everything about runs is derived from
this case distinction. -/
namespace TradeInterfaces.Taker
open Foundations.Panics Foundations.Effects Ethers

/-- An answer without an order. -/
def Turn.noOffer (turn : Turn) : Bool :=
  match turn.message with
  | .ok (some offer) => offer.order.isNone
  | _ => false

/-- The order that a turn brings as far as its submission, with its first identifier. -/
def Turn.accepted? (turn : Turn) : Option (Seaport.Order × U256) :=
  match turn.message with
  | .ok (some offer) => offer.order.bind fun offeredOrder => (acceptedOrder offeredOrder).toOption
  | _ => none

/-- The calls made after the submission all return. -/
structure Turn.Returns (turn : Turn) : Prop where
  sendTransaction : turn.sendTransaction = .ok ()
  pendingTx : turn.pendingTx = .ok ()
  balanceOf : turn.balanceOf = .ok ()

def State.fulfillment (s : State) (turn : Turn) (order : Seaport.Order) : Event :=
  .fulfillOrder s.sellRfq (fulfillTx order) turn.receipt

/-- The balance that is looked at after an order was submitted. -/
def State.ownedTokens (s : State) (chain : Chain) (turn : Turn) (order : Seaport.Order) (id : U256) : Nat :=
  chain.balanceOf (s.events ++ [s.fulfillment turn order]) id

def State.read (s : State) (turn : Turn) : List (Bool × Grpc.QuoteResponse) :=
  s.consumed ++ turn.response?.toList.map (s.sellRfq, ·)

@[simp] theorem panicking_ok {α : Type} (a : α) : panicking (.ok a) = pure a := rfl
@[simp] theorem panicking_error {α : Type} (p : Panic) :
    panicking (.error p : Except Panic α) = Proc.abort (.panicked p) := rfl

private theorem endPhase_buy (settings : Settings) (turn : Turn) (id : U256) (ownedTokens : Nat) :
    (ownedTokens = 5 ∧ turn.channelOpen ∧
      endPhase settings false turn id ownedTokens = ⟨.ok id, [.sendRfq (sellRfq settings id)]⟩) ∨
    ∃ p, endPhase settings false turn id ownedTokens = ⟨.error (.panicked p), []⟩ := by
  by_cases hb : ownedTokens = 5
  · cases hc : turn.channelOpen with
    | true => exact .inl ⟨hb, rfl, by simp [endPhase, sendRfq, assert, amount, hb, hc, Proc.map_emit]⟩
    | false => exact .inr ⟨.unwrapOnErr, by simp [endPhase, sendRfq, assert, amount, hb, hc]; rfl⟩
  · exact .inr ⟨.assertionFailed, by simp [endPhase, assert, amount, hb]; rfl⟩

private theorem endPhase_sell (settings : Settings) (turn : Turn) (id : U256) (ownedTokens : Nat) :
    (ownedTokens = 0 ∧ endPhase settings true turn id ownedTokens = ⟨.error .soldBack, []⟩) ∨
    (ownedTokens ≠ 0 ∧ ∃ p, endPhase settings true turn id ownedTokens = ⟨.error (.panicked p), []⟩) := by
  by_cases hb : ownedTokens = 0
  · exact .inl ⟨hb, by simp [endPhase, assert, hb]; rfl⟩
  · exact .inr ⟨hb, .assertionFailed, by simp [endPhase, assert, hb]; rfl⟩

private theorem fulfill_calls (settings : Settings) (chain : Chain) (s : State) (turn : Turn)
    {offeredOrder : Grpc.SignedOrder} {order : Seaport.Order} {id : U256}
    (h : acceptedOrder offeredOrder = .ok (order, id)) :
    (turn.Returns ∧ fulfill settings chain s turn offeredOrder =
      ⟨(endPhase settings s.sellRfq turn id (s.ownedTokens chain turn order id)).outcome,
        s.fulfillment turn order ::
          (endPhase settings s.sellRfq turn id (s.ownedTokens chain turn order id)).events⟩) ∨
    (¬turn.Returns ∧ ∃ exit, exit ≠ .soldBack ∧
      fulfill settings chain s turn offeredOrder = ⟨.error exit, [s.fulfillment turn order]⟩) := by
  rw [fulfill, h]
  simp only [panicking_ok, pure_bind, Proc.emit_bind]
  cases hs : turn.sendTransaction with
  | error e =>
    refine .inr ⟨fun hr => ?_, .unableToSend, by simp, rfl⟩
    rw [hr.sendTransaction] at hs
    cases hs
  | ok u =>
    cases hp : turn.pendingTx with
    | error e =>
      refine .inr ⟨fun hr => ?_, .panicked .unwrapOnErr, by simp, rfl⟩
      rw [hr.pendingTx] at hp
      cases hp
    | ok u =>
      cases hb : turn.balanceOf with
      | error e =>
        refine .inr ⟨fun hr => ?_, .panicked .unwrapOnErr, by simp, rfl⟩
        rw [hr.balanceOf] at hb
        cases hb
      | ok u => exact .inl ⟨⟨hs, hp, hb⟩, rfl⟩

/-- How fulfilling ends once the order is accepted. -/
theorem fulfill_cases (settings : Settings) (chain : Chain) (s : State) (turn : Turn)
    {offeredOrder : Grpc.SignedOrder} {order : Seaport.Order} {id : U256}
    (h : acceptedOrder offeredOrder = .ok (order, id)) :
    (s.sellRfq = false ∧ turn.Returns ∧ s.ownedTokens chain turn order id = 5 ∧ turn.channelOpen ∧
      fulfill settings chain s turn offeredOrder =
        ⟨.ok id, [s.fulfillment turn order, .sendRfq (sellRfq settings id)]⟩) ∨
    (s.sellRfq = true ∧ turn.Returns ∧ s.ownedTokens chain turn order id = 0 ∧
      fulfill settings chain s turn offeredOrder = ⟨.error .soldBack, [s.fulfillment turn order]⟩) ∨
    (¬(s.sellRfq = true ∧ turn.Returns ∧ s.ownedTokens chain turn order id = 0) ∧
      ∃ exit, exit ≠ .soldBack ∧
        fulfill settings chain s turn offeredOrder = ⟨.error exit, [s.fulfillment turn order]⟩) := by
  rcases fulfill_calls settings chain s turn h with ⟨hr, ht⟩ | ⟨hr, hstop⟩
  · cases hphase : s.sellRfq with
    | false =>
      rw [hphase] at ht
      rcases endPhase_buy settings turn id (s.ownedTokens chain turn order id) with ⟨hb, hc, he⟩ | ⟨p, he⟩
      · exact .inl ⟨rfl, hr, hb, hc, by rw [ht, he]⟩
      · exact .inr (.inr ⟨by simp, .panicked p, by simp, by rw [ht, he]⟩)
    | true =>
      rw [hphase] at ht
      rcases endPhase_sell settings turn id (s.ownedTokens chain turn order id) with ⟨hb, he⟩ | ⟨hb, p, he⟩
      · exact .inr (.inl ⟨rfl, hr, hb, by rw [ht, he]⟩)
      · exact .inr (.inr ⟨fun hall => hb hall.2.2, .panicked p, by simp, by rw [ht, he]⟩)
  · exact .inr (.inr ⟨fun hall => hr hall.2.1, hstop⟩)

/-- The turns of a running loop: a missing offer is answered with the Buy request, an
order is submitted, or the loop ends without doing anything. -/
theorem step_cases (settings : Settings) (chain : Chain) {s : State} (hs : s.status = .running) (turn : Turn) :
    (turn.noOffer ∧ turn.channelOpen ∧ step settings chain s turn =
      { s with consumed := s.read turn, events := s.events ++ [.sendRfq (buyRfq settings)] }) ∨
    (∃ order id, turn.accepted? = some (order, id) ∧
      ((s.sellRfq = false ∧ turn.Returns ∧ s.ownedTokens chain turn order id = 5 ∧ turn.channelOpen ∧
          step settings chain s turn = { s with
            sellRfq := true, boughtId := some id, consumed := s.read turn,
            events := s.events ++ [s.fulfillment turn order, .sendRfq (sellRfq settings id)] }) ∨
        (s.sellRfq = true ∧ turn.Returns ∧ s.ownedTokens chain turn order id = 0 ∧
          step settings chain s turn = { s with
            status := .exited .soldBack, consumed := s.read turn,
            events := s.events ++ [s.fulfillment turn order] }) ∨
        (¬(s.sellRfq = true ∧ turn.Returns ∧ s.ownedTokens chain turn order id = 0) ∧
          ∃ exit, exit ≠ .soldBack ∧ step settings chain s turn = { s with
            status := .exited exit, consumed := s.read turn,
            events := s.events ++ [s.fulfillment turn order] }))) ∨
    (turn.accepted? = none ∧ ¬(turn.noOffer ∧ turn.channelOpen) ∧
      ∃ p, step settings chain s turn = { s with status := .exited (.panicked p), consumed := s.read turn }) := by
  have hread : s.read turn = s.consumed ++ turn.response?.toList.map (s.sellRfq, ·) := rfl
  rw [step, if_pos hs]
  cases hm : turn.message with
  | error e =>
    refine .inr (.inr ⟨by simp [Turn.accepted?, hm], by simp [Turn.noOffer, hm], .explicit, ?_⟩)
    simp [answer, hm, hread]
  | ok message =>
    cases message with
    | none =>
      refine .inr (.inr ⟨by simp [Turn.accepted?, hm], by simp [Turn.noOffer, hm], .explicit, ?_⟩)
      simp [answer, hm, hread]
    | some offer =>
      cases ho : offer.order with
      | none =>
        cases hc : turn.channelOpen with
        | true =>
          refine .inl ⟨by simp [Turn.noOffer, hm, ho], rfl, ?_⟩
          simp [answer, hm, ho, sendRfq, hc, hread, Proc.map_emit]
        | false =>
          refine .inr (.inr ⟨by simp [Turn.accepted?, hm, ho], by simp, .unwrapOnErr, ?_⟩)
          simp [answer, hm, ho, sendRfq, hc, hread]
      | some offeredOrder =>
        cases ha : acceptedOrder offeredOrder with
        | error p =>
          refine .inr (.inr ⟨by simp [Turn.accepted?, hm, ho, ha, Except.toOption], by simp [Turn.noOffer, hm, ho],
            p, ?_⟩)
          simp [answer, hm, ho, fulfill, ha, hread]
        | ok accepted =>
          obtain ⟨order, id⟩ := accepted
          refine .inr (.inl ⟨order, id, by simp [Turn.accepted?, hm, ho, ha, Except.toOption], ?_⟩)
          rcases fulfill_cases settings chain s turn ha with
            ⟨hp, hr, hb, hc, ht⟩ | ⟨hp, hr, hb, ht⟩ | ⟨hno, exit, hexit, ht⟩
          · exact .inl ⟨hp, hr, hb, hc, by simp [answer, hm, ho, ht, Proc.bind_of_ok, hread]⟩
          · exact .inr (.inl ⟨hp, hr, hb, by simp [answer, hm, ho, ht, Proc.bind_of_error, hread]⟩)
          · exact .inr (.inr ⟨hno, exit, hexit, by simp [answer, hm, ho, ht, Proc.bind_of_error, hread]⟩)

theorem acceptedOrder_ok {offeredOrder : Grpc.SignedOrder} {order : Seaport.Order} {id : U256}
    (h : acceptedOrder offeredOrder = .ok (order, id)) :
    ∃ offerParameters, offeredOrder.parameters = some offerParameters ∧
      transformToSeaportOrder offeredOrder offerParameters = .ok order := by
  simp only [acceptedOrder, bind_returns_iff, unwrap_ok_iff] at h
  obtain ⟨offerParameters, hp, _, _, transformed, ht, item, _, he⟩ := h
  cases he
  exact ⟨offerParameters, hp, ht⟩

theorem accepted?_eq_some {turn : Turn} {order : Seaport.Order} {id : U256}
    (h : turn.accepted? = some (order, id)) :
    ∃ offer offeredOrder, turn.response? = some offer ∧ offer.order = some offeredOrder ∧
      acceptedOrder offeredOrder = .ok (order, id) := by
  unfold Turn.accepted? at h
  split at h
  · rename_i offer hm
    obtain ⟨offeredOrder, ho, ha⟩ := Option.bind_eq_some_iff.mp h
    refine ⟨offer, offeredOrder, by rw [Turn.response?, hm], ho, ?_⟩
    cases hacc : acceptedOrder offeredOrder with
    | error p => simp [hacc, Except.toOption] at ha
    | ok accepted => simpa [hacc, Except.toOption] using ha
  · cases h

theorem accepted?_of_noOffer {turn : Turn} (h : turn.noOffer) : turn.accepted? = none := by
  unfold Turn.noOffer at h
  unfold Turn.accepted?
  split at h
  · rename_i offer hm
    rw [Option.isNone_iff_eq_none] at h
    rw [h]
    rfl
  · cases h

theorem run_snoc (settings : Settings) (chain : Chain) (turns : List Turn) (turn : Turn) :
    run settings chain (turns ++ [turn]) = step settings chain (run settings chain turns) turn :=
  Foundations.Runs.run_snoc _ _ _ _

theorem step_of_exited (settings : Settings) (chain : Chain) {s : State} (hs : s.status ≠ .running) (turn : Turn) :
    step settings chain s turn = s := if_neg hs

end TradeInterfaces.Taker
