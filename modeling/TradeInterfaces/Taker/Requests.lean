import TradeInterfaces.Taker.Steps

/-! The requests the taker sends over a run. The request that a missing offer resends is
the Buy request of the enclosing scope in both phases. -/
namespace TradeInterfaces.Taker
open Foundations.BigEndian Ethers
open Foundations.Runs (AllSteps allSteps_iff invariant_of_allSteps)

def Event.request? : Event → Option Grpc.QuoteRequest
  | .sendRfq rfq => some rfq
  | .fulfillOrder .. => none

/-- The requests sent so far, in order. -/
def State.requests (s : State) : List Grpc.QuoteRequest := s.events.filterMap Event.request?

section
variable (settings : Settings) (chain : Chain)

/-- Once a Sell request was sent it is the only request that is sent again, and a
missing offer in the sell phase has it sent again. -/
structure KeepsSelling (turns : List Turn) : Prop where
  requests : (run settings chain turns).requests.Pairwise fun earlier later =>
    earlier.action = Grpc.Action.sell.toI32 → later = earlier
  resent : ∀ before turn after, turns = before ++ turn :: after →
    (run settings chain before).status = .running → (run settings chain before).sellRfq = true →
    turn.noOffer → turn.channelOpen →
    ∃ rfq ∈ (run settings chain before).requests, rfq.action = Grpc.Action.sell.toI32 ∧
      (run settings chain (before ++ [turn])).requests = (run settings chain before).requests ++ [rfq]

/-- In the sell phase every answer that can still be reacted to carries an order. -/
def AnsweredWithOrder (s : State) (turn : Turn) : Prop :=
  s.status = .running → s.sellRfq = true → ¬(turn.noOffer ∧ turn.channelOpen)

/-- Buy requests only, and at the end the Sell request if there is one. -/
def BuysThenSell (s : State) : Prop :=
  ∃ buys sells, s.requests = buys ++ sells ∧ (∀ rfq ∈ buys, rfq.action = Grpc.Action.buy.toI32) ∧
    (sells = [] ∨ s.sellRfq = true ∧ ∃ id, sells = [sellRfq settings id])

variable {settings chain}

theorem requests_append (s : State) (events : List Event) :
    (s.events ++ events).filterMap Event.request? = s.requests ++ events.filterMap Event.request? :=
  List.filterMap_append

/-- A turn sends the Buy request again, or the first Sell request, or nothing. -/
theorem step_requests (s : State) (turn : Turn) :
    let t := step settings chain s turn
    (s.status = .running ∧ turn.noOffer ∧ turn.channelOpen ∧
      t.requests = s.requests ++ [buyRfq settings] ∧ t.sellRfq = s.sellRfq) ∨
    (s.sellRfq = false ∧ t.sellRfq = true ∧ ∃ id, t.requests = s.requests ++ [sellRfq settings id]) ∨
    (t.requests = s.requests ∧ t.sellRfq = s.sellRfq) := by
  intro t
  by_cases hs : s.status = .running
  swap
  · have ht : t = s := step_of_exited settings chain hs turn
    exact .inr (.inr ⟨by rw [ht], by rw [ht]⟩)
  rcases step_cases settings chain hs turn with
    ⟨hno, hopen, ht⟩ | ⟨order, id, _, ⟨hp, _, _, _, ht⟩ | ⟨_, _, _, ht⟩ | ⟨_, exit, _, ht⟩⟩ | ⟨_, _, p, ht⟩
  all_goals rw [show t = _ from ht]
  · exact .inl ⟨hs, hno, hopen, requests_append s _, rfl⟩
  · exact .inr (.inl ⟨hp, rfl, id, requests_append s _⟩)
  · exact .inr (.inr ⟨(requests_append s _).trans (List.append_nil _), rfl⟩)
  · exact .inr (.inr ⟨(requests_append s _).trans (List.append_nil _), rfl⟩)
  · exact .inr (.inr ⟨rfl, rfl⟩)

private theorem step_buysThenSell {s : State} {turn : Turn} (hI : BuysThenSell settings s)
    (hC : AnsweredWithOrder s turn) : BuysThenSell settings (step settings chain s turn) := by
  obtain ⟨buys, sells, hreq, hbuys, hsells⟩ := hI
  have hbuying (hp : s.sellRfq = false) : s.requests = buys := by
    rcases hsells with rfl | ⟨hp', _⟩
    · rw [hreq, List.append_nil]
    · rw [hp] at hp'
      cases hp'
  rcases @step_requests settings chain s turn with
    ⟨hs, hno, hopen, ht, _⟩ | ⟨hp, hp', id, ht⟩ | ⟨ht, hp⟩
  · have hp : s.sellRfq = false := by
      cases hp : s.sellRfq with
      | false => rfl
      | true => exact absurd ⟨hno, hopen⟩ (hC hs hp)
    refine ⟨buys ++ [buyRfq settings], [], by rw [ht, hbuying hp, List.append_nil], ?_, .inl rfl⟩
    intro rfq hrfq
    rcases List.mem_append.mp hrfq with h | h
    · exact hbuys rfq h
    · rw [List.mem_singleton.mp h]
      rfl
  · exact ⟨buys, [sellRfq settings id], by rw [ht, hbuying hp], hbuys, .inr ⟨hp', id, rfl⟩⟩
  · exact ⟨buys, sells, by rw [ht, hreq], hbuys, by rw [hp]; exact hsells⟩

private theorem pairwise_of_buysThenSell {s : State} (h : BuysThenSell settings s) :
    s.requests.Pairwise fun earlier later => earlier.action = Grpc.Action.sell.toI32 → later = earlier := by
  obtain ⟨buys, sells, hreq, hbuys, hsells⟩ := h
  have hnot {rfq : Grpc.QuoteRequest} (h : rfq ∈ buys) : rfq.action ≠ Grpc.Action.sell.toI32 := by
    rw [hbuys rfq h]
    decide
  rw [hreq, List.pairwise_append]
  refine ⟨?_, ?_, fun a ha b _ hsell => absurd hsell (hnot ha)⟩
  · exact List.Pairwise.imp_of_mem (fun ha _ _ hsell => absurd hsell (hnot ha)) (List.pairwise_of_forall fun _ _ => trivial)
  · rcases hsells with rfl | ⟨_, id, rfl⟩
    · exact List.Pairwise.nil
    · exact List.pairwise_singleton _ _

/-- The taker keeps to its Sell request in exactly the runs in which no answer without
an order arrives in the sell phase. -/
theorem run_keepsSelling_iff (settings : Settings) (chain : Chain) (turns : List Turn) :
    KeepsSelling settings chain turns ↔
      AllSteps (step settings chain) AnsweredWithOrder (State.initial settings) turns := by
  constructor
  · intro h
    rw [allSteps_iff]
    intro before turn after he hs hp ⟨hno, hopen⟩
    change (run settings chain before).sellRfq = true at hp
    obtain ⟨rfq, _, hsell, hsent⟩ := h.resent before turn after he hs hp hno hopen
    rw [run_snoc] at hsent
    rcases @step_requests settings chain (run settings chain before) turn with
      ⟨_, _, _, ht, _⟩ | ⟨hp', _⟩ | ⟨ht, _⟩
    · have hbuy : [buyRfq settings] = [rfq] := List.append_cancel_left (ht.symm.trans hsent)
      rw [← List.head_eq_of_cons_eq hbuy] at hsell
      exact absurd hsell (by decide : Grpc.Action.buy.toI32 ≠ Grpc.Action.sell.toI32)
    · rw [hp] at hp'
      cases hp'
    · have hnil : [] = [rfq] := List.append_cancel_left ((List.append_nil _).trans (ht.symm.trans hsent))
      cases hnil
  · intro h
    have hstart : BuysThenSell settings (State.initial settings) :=
      ⟨[buyRfq settings], [], rfl, by simp [buyRfq, quoteRequest], .inl rfl⟩
    refine ⟨@pairwise_of_buysThenSell settings _
      (invariant_of_allSteps (fun s turn hI hC => step_buysThenSell hI hC) h hstart), ?_⟩
    intro before turn after he hs hp hno hopen
    exact absurd ⟨hno, hopen⟩ (allSteps_iff.mp h before turn after he hs hp)

end

/-! A concrete run: the orders a maker gives, and the transfers Seaport makes for them. -/

def sampleSettings : Settings := ⟨toBytes 20 7, toBytes 20 11, 421614, 42⟩

/-- Items with constant amounts move these amounts of the settlement engine's tokens. -/
def sampleChain : Chain where
  owned _ := 0
  received order id := ((order.parameters.offer.filter fun item =>
    item.itemType = 3 ∧ item.token = sampleSettings.settlementContract ∧
      item.identifierOrCriteria = id).map (·.startAmount.toNat)).sum
  given order id := ((order.parameters.consideration.filter fun item =>
    item.itemType = 3 ∧ item.token = sampleSettings.settlementContract ∧
      item.identifierOrCriteria = id).map (·.startAmount.toNat)).sum

def sampleOrder (offer : Grpc.OfferItem) (consideration : Grpc.ConsiderationItem) : Grpc.Order where
  offerer := some (.ofHash (toBytes 20 9))
  zone := none
  offer := [offer]
  consideration := [consideration]
  orderType := Grpc.OrderType.fullOpen.toI32
  startTime := some (.ofU256 0)
  endTime := some (.ofU256 1200)
  zoneHash := none
  salt := some (.ofU256 1)
  conduitKey := none

/-- Five options for ten USDC. -/
def sampleBuyOrder : Grpc.Order := sampleOrder
  ⟨3, some (.ofHash (toBytes 20 11)), some (.ofU256 42), some (.ofU256 5), some (.ofU256 5)⟩
  ⟨1, some (.ofHash (toBytes 20 13)), none, some (.ofU256 10000000), some (.ofU256 10000000),
    some (.ofHash (toBytes 20 9))⟩

/-- Ten USDC for five options. -/
def sampleSellOrder : Grpc.Order := sampleOrder
  ⟨1, some (.ofHash (toBytes 20 13)), none, some (.ofU256 10000000), some (.ofU256 10000000)⟩
  ⟨3, some (.ofHash (toBytes 20 11)), some (.ofU256 42), some (.ofU256 5), some (.ofU256 5),
    some (.ofHash (toBytes 20 9))⟩

/-- An answer of a maker, with all calls made for it returning. -/
def sampleTurn (order : Option Grpc.Order) (receipt : Receipt) : Turn where
  message := .ok (some ⟨none, none,
    order.map fun order => ⟨some order, some ⟨.replicate 32 0, .replicate 32 0, [27]⟩⟩, none, none⟩)
  sendTransaction := .ok ()
  receipt
  pendingTx := .ok ()
  balanceOf := .ok ()
  channelOpen := true

/-- The Buy order is fulfilled, then an answer without an order comes: the taker asks
to buy again. -/
theorem keepsSelling_fails :
    ¬KeepsSelling sampleSettings sampleChain
      [sampleTurn (some sampleBuyOrder) .succeeded, sampleTurn none .succeeded] :=
  fun h => absurd h.requests (by decide +kernel)

end TradeInterfaces.Taker
