import TradeInterfaces.Market.Orders
import TradeInterfaces.Taker.Position

/-! The taker's turns when its calls succeed, and the balances on chain they lead to. -/
namespace TradeInterfaces.Market
open Foundations.Panics Foundations.Effects Ethers
open Maker (MarketMaker)
open Taker (Settings Chain buyRfq sellRfq)

/-- What Seaport moves of a contract's tokens for items of constant amounts, in full. -/
def moved (contract : Address) (id : U256) (items : List (UInt8 × Address × U256 × U256)) : Nat :=
  ((items.filter fun item => item.1 = 3 ∧ item.2.1 = contract ∧ item.2.2.1 = id).map (·.2.2.2.toNat)).sum

def seaportChain (contract : Address) (owned : U256 → Nat) : Chain where
  owned := owned
  received order id := moved contract id (order.parameters.offer.map fun item =>
    (item.itemType, item.token, item.identifierOrCriteria, item.startAmount))
  given order id := moved contract id (order.parameters.consideration.map fun item =>
    (item.itemType, item.token, item.identifierOrCriteria, item.startAmount))

variable {maker : MarketMaker} {owned : U256 → Nat} {id : U256} {order : Seaport.Order}

/-- A purchase brings five options. -/
theorem settle_bought (h : Bought maker id order) (i : U256) (balance : Nat) (sellRfq : Bool) :
    (seaportChain maker.settlementEngine owned).settle i balance
      (.fulfillOrder sellRfq (Taker.fulfillTx order) .succeeded) = balance + if i = id then 5 else 0 := by
  have hamount : Taker.amount.toNat = 5 := by decide +kernel
  change balance + moved maker.settlementEngine i (order.parameters.offer.map _) -
    moved maker.settlementEngine i (order.parameters.consideration.map _) = _
  rw [h.offer, h.consideration]
  by_cases hi : i = id
  · simp [moved, hi, hamount]
  · simp [moved, hi, Ne.symm hi]

/-- A sale takes them. -/
theorem settle_soldBack (h : SoldBack maker id order) (i : U256) (balance : Nat) (sellRfq : Bool) :
    (seaportChain maker.settlementEngine owned).settle i balance
      (.fulfillOrder sellRfq (Taker.fulfillTx order) .succeeded) = balance - if i = id then 5 else 0 := by
  have hamount : Taker.amount.toNat = 5 := by decide +kernel
  change balance + moved maker.settlementEngine i (order.parameters.offer.map _) -
    moved maker.settlementEngine i (order.parameters.consideration.map _) = _
  rw [h.offer, h.consideration]
  by_cases hi : i = id
  · simp [moved, hi, hamount]
  · simp [moved, hi, Ne.symm hi]

theorem balanceOf_requests (chain : Chain) (n : Nat) (rfq : Grpc.QuoteRequest) (i : U256) :
    chain.balanceOf (List.replicate n (.sendRfq rfq)) i = chain.owned i := by
  induction n with
  | zero => rfl
  | succ n ih => rw [List.replicate_succ', Taker.balanceOf_sendRfq, ih]

/-- The calls made for a response succeed, and so does the fulfilment on chain. -/
structure TakerCalls.Succeeds (calls : TakerCalls) : Prop where
  sendTransaction : calls.sendTransaction = .ok ()
  receipt : calls.receipt = .succeeded
  pendingTx : calls.pendingTx = .ok ()
  balanceOf : calls.balanceOf = .ok ()
  channelOpen : calls.channelOpen = true

section
variable {settings : Settings} {chain : Chain} {t : Taker.State} {calls : TakerCalls} (hcalls : calls.Succeeds)
  {response : Grpc.QuoteResponse} {offered : Grpc.SignedOrder}
include hcalls

private theorem fulfill_succeeds (ha : Taker.acceptedOrder offered = .ok (order, id)) {ownedTokens : Nat}
    (hb : t.ownedTokens chain (calls.turn (.ok (some response))) order id = ownedTokens) {phase : Taker.Task U256}
    (hphase : Taker.endPhase settings t.sellRfq (calls.turn (.ok (some response))) id ownedTokens = phase) :
    Taker.fulfill settings chain t (calls.turn (.ok (some response))) offered =
      ⟨phase.outcome, .fulfillOrder t.sellRfq (Taker.fulfillTx order) .succeeded :: phase.events⟩ := by
  have hsend : (calls.turn (.ok (some response))).sendTransaction = .ok () := hcalls.sendTransaction
  have hpending : (calls.turn (.ok (some response))).pendingTx = .ok () := hcalls.pendingTx
  have hbalance : (calls.turn (.ok (some response))).balanceOf = .ok () := hcalls.balanceOf
  have hreceipt : (calls.turn (.ok (some response))).receipt = .succeeded := hcalls.receipt
  rw [Taker.fulfill, ha]
  simp only [Taker.panicking_ok, pure_bind, Proc.emit_bind, hsend, hpending, hbalance, unwrapResult]
  rw [← hreceipt, ← hphase, ← hb]
  rfl

variable (hs : t.status = .running)
include hs

theorem step_noOffer (ho : response.order = none) :
    Taker.step settings chain t (calls.turn (.ok (some response))) =
      { t with
        consumed := t.read (calls.turn (.ok (some response)))
        events := t.events ++ [.sendRfq (buyRfq settings)] } := by
  have hmessage : (calls.turn (.ok (some response))).message = .ok (some response) := rfl
  have hno : (calls.turn (.ok (some response))).noOffer = true := by simp [Taker.Turn.noOffer, hmessage, ho]
  have hnone := Taker.accepted?_of_noOffer hno
  rcases Taker.step_cases settings chain hs (calls.turn (.ok (some response))) with
    ⟨_, _, ht⟩ | ⟨order, id, ha, _⟩ | ⟨_, hnot, _⟩
  · exact ht
  · rw [hnone] at ha
    cases ha
  · exact absurd ⟨hno, hcalls.channelOpen⟩ hnot

variable (ho : response.order = some offered) (ha : Taker.acceptedOrder offered = .ok (order, id))
include ho ha

theorem step_buy (hp : t.sellRfq = false)
    (hb : t.ownedTokens chain (calls.turn (.ok (some response))) order id = 5) :
    Taker.step settings chain t (calls.turn (.ok (some response))) =
      { t with
        sellRfq := true, boughtId := some id, consumed := t.read (calls.turn (.ok (some response)))
        events := t.events ++
          [.fulfillOrder false (Taker.fulfillTx order) .succeeded, .sendRfq (sellRfq settings id)] } := by
  have hopen : (calls.turn (.ok (some response))).channelOpen = true := hcalls.channelOpen
  have hmessage : (calls.turn (.ok (some response))).message = .ok (some response) := rfl
  have hphase : Taker.endPhase settings t.sellRfq (calls.turn (.ok (some response))) id 5 =
      ⟨.ok id, [.sendRfq (sellRfq settings id)]⟩ := by
    simp [hp, Taker.endPhase, Taker.sendRfq, assert, Taker.amount, hopen, Proc.map_emit]
  have hfulfill := fulfill_succeeds hcalls ha hb hphase
  rw [Taker.step, if_pos hs]
  simp only [Taker.answer, hmessage, ho, Proc.bind_of_ok (congrArg Proc.outcome hfulfill)]
  rw [hfulfill]
  simp [Taker.State.read, hp]

theorem step_sell (hp : t.sellRfq = true)
    (hb : t.ownedTokens chain (calls.turn (.ok (some response))) order id = 0) :
    Taker.step settings chain t (calls.turn (.ok (some response))) =
      { t with
        status := .exited .soldBack, consumed := t.read (calls.turn (.ok (some response)))
        events := t.events ++ [.fulfillOrder true (Taker.fulfillTx order) .succeeded] } := by
  have hmessage : (calls.turn (.ok (some response))).message = .ok (some response) := rfl
  have hphase : Taker.endPhase settings t.sellRfq (calls.turn (.ok (some response))) id 0 =
      ⟨.error .soldBack, []⟩ := by
    simp [hp, Taker.endPhase, assert]
    rfl
  have hfulfill := fulfill_succeeds hcalls ha hb hphase
  rw [Taker.step, if_pos hs]
  simp only [Taker.answer, hmessage, ho, Proc.bind_of_error (congrArg Proc.outcome hfulfill)]
  rw [hfulfill]
  simp [Taker.State.read, hp]

end

end TradeInterfaces.Market
