import TradeInterfaces.Maker.Process
import TradeInterfaces.Market.Safety
import TradeInterfaces.Market.Settlement
import TradeInterfaces.Taker.Conduct
import TradeInterfaces.Taker.Program

/-! What Seaport may move of the orders the taker submits, with the allowances that maker and
taker send at their start. The taker lets it move one token, whatever the maker charges in. -/
namespace TradeInterfaces.Market
open Ethers
open Approvals (Lets lets_erc20_iff lets_erc1155_iff)
open Maker (MarketMaker)
open Seaport (seaportContractAddress)
open Taker (Settings Chain magic testApprovals)

def OfferAllowed (txs : List Approvals.Tx) (order : Seaport.Order) : Prop :=
  ∀ item ∈ order.parameters.offer, ∃ tx ∈ txs, Lets seaportContractAddress item.itemType item.token tx

def ConsiderationAllowed (txs : List Approvals.Tx) (order : Seaport.Order) : Prop :=
  ∀ item ∈ order.parameters.consideration, ∃ tx ∈ txs, Lets seaportContractAddress item.itemType item.token tx

section
variable {m : Maker.Settings} (happrove : m.approveTokens = true) {id : U256} {order : Seaport.Order}
include happrove

private theorem Bought.offerAllowed (h : Bought m.maker id order) :
    OfferAllowed (Maker.approvalTxs m) order := by
  intro item hitem
  rw [h.offer] at hitem
  cases List.mem_singleton.mp hitem
  rw [Maker.approvalTxs, if_pos happrove]
  exact lets_erc1155_iff.mpr ⟨rfl, rfl⟩

private theorem SoldBack.offerAllowed (h : SoldBack m.maker id order) :
    OfferAllowed (Maker.approvalTxs m) order := by
  intro item hitem
  rw [h.offer] at hitem
  cases List.mem_singleton.mp hitem
  rw [Maker.approvalTxs, if_pos happrove]
  exact lets_erc20_iff.mpr (.inl ⟨rfl, rfl⟩)

end

section
variable {maker : MarketMaker} {contract : Address} {id : U256} {order : Seaport.Order}

/-- The price is allowed when it is in the one token that is. -/
theorem Bought.considerationAllowed_iff (h : Bought maker id order) (hseaport : contract ≠ seaportContractAddress) :
    ConsiderationAllowed (testApprovals contract) order ↔ maker.usdcAddress = magic := by
  unfold ConsiderationAllowed testApprovals
  rw [h.consideration]
  simp only [List.mem_singleton, forall_eq]
  rw [lets_erc20_iff]
  constructor
  · rintro (⟨hmagic, _⟩ | ⟨_, hengine⟩)
    · exact hmagic.symm
    · exact absurd hengine hseaport
  · intro hmagic
    exact .inl ⟨hmagic.symm, rfl⟩

private theorem SoldBack.considerationAllowed (h : SoldBack maker id order)
    (hcontract : contract = maker.settlementEngine) :
    ConsiderationAllowed (testApprovals contract) order := by
  intro item hitem
  rw [h.consideration] at hitem
  cases List.mem_singleton.mp hitem
  exact lets_erc1155_iff.mpr ⟨hcontract, rfl⟩

end

/-- Whatever the network does, Seaport may move all that the maker offers, and all that the
taker sells back. The price of a purchase it may move only where the maker charges MAGIC. -/
theorem run_allowed (m : Maker.Settings) (settings : Settings) (chain : Chain) (schedule : Schedule)
    (happrove : m.approveTokens = true) (hcontract : settings.settlementContract = m.maker.settlementEngine)
    (hseaport : settings.settlementContract ≠ seaportContractAddress) :
    ∀ t, (run m.maker settings chain schedule).client.rfqs = some t → ∀ x ∈ t.submitted,
      OfferAllowed (Maker.approvalTxs m) x.2 ∧
      (ConsiderationAllowed (testApprovals settings.settlementContract) x.2 ↔
        x.1 = true ∨ m.maker.usdcAddress = magic) := by
  intro t ht x hx
  have h := run_trading schedule ht
  obtain ⟨inSellPhase, order⟩ := x
  cases inSellPhase with
  | false =>
    obtain ⟨id, _, hbought, _⟩ := h.bought order hx
    refine ⟨hbought.offerAllowed happrove, ?_⟩
    rw [hbought.considerationAllowed_iff hseaport]
    simp
  | true =>
    obtain ⟨id, _, hsold⟩ := h.sold order hx
    exact ⟨hsold.offerAllowed happrove, fun _ => .inl rfl, fun _ => hsold.considerationAllowed hcontract⟩

/-- In the schedule that ends with the options sold back, the price of the purchase is not
among the taker's allowances. -/
theorem run_allowed_retried :
    ∃ t x, (run Maker.sampleMaker Taker.sampleSettings Taker.sampleChain sampleSchedule).client.rfqs = some t ∧
      x ∈ t.submitted ∧ OfferAllowed (Maker.approvalTxs Maker.sampleSettings) x.2 ∧
      ¬ConsiderationAllowed (testApprovals Taker.sampleSettings.settlementContract) x.2 := by
  obtain ⟨t, ht, hsubmitted⟩ := Option.map_eq_some_iff.mp sample_phases
  obtain ⟨x, hx, hphase⟩ : ∃ x ∈ t.submitted, x.1 = false := List.mem_map.mp (by rw [hsubmitted]; simp)
  obtain ⟨hoffer, hconsideration⟩ := run_allowed Maker.sampleSettings Taker.sampleSettings Taker.sampleChain
    sampleSchedule rfl rfl (by decide +kernel) t ht x hx
  refine ⟨t, x, ht, hx, hoffer, fun hallowed => ?_⟩
  rcases hconsideration.mp hallowed with hsell | hmagic
  · rw [hphase] at hsell
    cases hsell
  · exact absurd hmagic (by decide +kernel)

/-- What succeeded on chain had been allowed by the taker. -/
def PaidAsAllowed (settings : Settings) (t : Taker.State) : Prop :=
  ∀ inSellPhase tx, Taker.Event.fulfillOrder inSellPhase tx .succeeded ∈ t.events →
    ConsiderationAllowed (testApprovals settings.settlementContract) tx.order

private theorem balanceOf_reverted (chain : Chain) (settings : Settings) (n : Nat) (tx : Taker.FulfillTx)
    (id : U256) : chain.balanceOf (Taker.buys settings n ++ [.fulfillOrder false tx .reverted]) id =
      chain.owned id := by
  rw [Taker.balanceOf_append]
  exact balanceOf_requests chain n _ id

/-- A purchase that brought five options has been paid for. -/
theorem Trading.paid {maker : MarketMaker} {settings : Settings} {chain : Chain} {ids : U256 → Prop} {t : Taker.State}
    (h : Trading maker settings chain ids t) (hseaport : settings.settlementContract ≠ seaportContractAddress)
    (howned : ∀ id, chain.owned id ≠ 5) (hpaid : PaidAsAllowed settings t) {id : U256} (hid : t.boughtId = some id) :
    maker.usdcAddress = magic := by
  obtain ⟨turns, ht⟩ := h.reached
  have hlogged := Taker.run_logged settings chain turns
  rw [← ht] at hlogged
  obtain ⟨n, purchase, ⟨⟨order, receipt, item, rfl, _, _⟩, hbalance⟩, hprefix⟩ := hlogged.bought id hid
  have hmem : Taker.Event.fulfillOrder false (Taker.fulfillTx order) receipt ∈ t.events :=
    hprefix.mem (List.mem_append_right _ (List.mem_singleton.mpr rfl))
  cases receipt with
  | reverted =>
    rw [balanceOf_reverted] at hbalance
    exact absurd hbalance (howned id)
  | succeeded =>
    have hsubmitted : (false, order) ∈ t.submitted := List.mem_filterMap.mpr ⟨_, hmem, rfl⟩
    obtain ⟨_, _, hbought, _⟩ := h.bought order hsubmitted
    exact (hbought.considerationAllowed_iff hseaport).mp (hpaid false _ hmem)

/-- Where fulfilments only succeed with the taker's own allowances, and the maker does not
charge MAGIC, the taker asks to buy and never gets to sell, unless it owned five options before. -/
theorem run_unpaid (maker : MarketMaker) (settings : Settings) (chain : Chain) (schedule : Schedule)
    (hseaport : settings.settlementContract ≠ seaportContractAddress) (howned : ∀ id, chain.owned id ≠ 5)
    (husdc : maker.usdcAddress ≠ magic) :
    ∀ t, (run maker settings chain schedule).client.rfqs = some t → PaidAsAllowed settings t →
      (∀ rfq ∈ t.requests, rfq = Taker.buyRfq settings) ∧ t.status ≠ .exited .soldBack := by
  intro t ht hpaid
  have h := run_trading schedule ht
  have hnone : t.boughtId = none := by
    cases hid : t.boughtId with
    | none => rfl
    | some id => exact absurd (h.paid hseaport howned hpaid hid) husdc
  constructor
  · intro rfq hrfq
    obtain ⟨buys, hreq⟩ := h.requests
    rw [hreq, hnone, Option.map_none, Option.toList_none, List.append_nil] at hrfq
    exact (List.mem_replicate.mp hrfq).2
  · intro hsold
    obtain ⟨turns, hturns⟩ := h.reached
    have hlogged := Taker.run_logged settings chain turns
    rw [← hturns] at hlogged
    have hphase := hlogged.sold hsold
    rw [h.phase, hnone] at hphase
    cases hphase

/-- A schedule in which the purchase is reverted. -/
def revertedSchedule : Schedule :=
  [.serve 0 (sampleMakerCalls Maker.sampleRpc), .read 0 sampleTakerCalls,
    .serve 0 (sampleMakerCalls Maker.sampleRpc), .read 0 { sampleTakerCalls with receipt := .reverted }]

/-- There the purchase is submitted, and the taker stops. -/
theorem run_unpaid_reverted :
    ∃ t, (run Maker.sampleMaker Taker.sampleSettings Taker.sampleChain revertedSchedule).client.rfqs = some t ∧
      t.submitted ≠ [] ∧ t.status ≠ .exited .soldBack := by
  obtain ⟨t, rfq, tx, ht, hevents⟩ : ∃ t rfq tx,
      (run Maker.sampleMaker Taker.sampleSettings Taker.sampleChain revertedSchedule).client.rfqs = some t ∧
        t.events = [.sendRfq rfq, .fulfillOrder false tx .reverted] := ⟨_, _, _, rfl, rfl⟩
  have hpaid : PaidAsAllowed Taker.sampleSettings t := by
    intro inSellPhase paid hmem
    simp [hevents] at hmem
  refine ⟨t, ht, ?_, (run_unpaid Maker.sampleMaker Taker.sampleSettings Taker.sampleChain revertedSchedule
    (by decide +kernel) (fun _ h => by cases h) (by decide +kernel) t ht hpaid).2⟩
  rw [Taker.State.submitted, hevents]
  simp [Taker.Event.submitted?]

end TradeInterfaces.Market
