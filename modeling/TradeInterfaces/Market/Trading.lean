import TradeInterfaces.Market.Orders
import TradeInterfaces.Market.Turns
import TradeInterfaces.Taker.Submissions

/-! The taker's RFQ loop when this maker answers: each reply comes in the phase it is for,
and the orders submitted are a purchase and the sale of what was bought. -/
namespace TradeInterfaces.Market
open Foundations.Exchanges Ethers
open Maker (MarketMaker)
open Taker (Settings Chain buyRfq sellRfq)

/-- The RFQ loop with this maker: Buys are sent and then at most one Sell, and the orders
submitted are a purchase of the option bought and its sale. -/
structure Trading (maker : MarketMaker) (settings : Settings) (chain : Chain) (ids : U256 → Prop)
    (t : Taker.State) : Prop where
  reached : ∃ turns, t = Taker.run settings chain turns
  requests : ∃ buys, t.requests = List.replicate (buys + 1) (buyRfq settings) ++
    (t.boughtId.map (sellRfq settings)).toList
  phase : t.sellRfq = t.boughtId.isSome
  bought : ∀ order, (false, order) ∈ t.submitted →
    ∃ id, ids id ∧ Bought maker id order ∧ ∀ boughtId, t.boughtId = some boughtId → boughtId = id
  sold : ∀ order, (true, order) ∈ t.submitted → ∃ id, t.boughtId = some id ∧ SoldBack maker id order

/-- A turn in which an order is accepted only in the phase that it is for. -/
def InPhase (maker : MarketMaker) (ids : U256 → Prop) (t : Taker.State) (turn : Taker.Turn) : Prop :=
  (turn.noOffer = true → t.boughtId = none) ∧
  ∀ order id, turn.accepted? = some (order, id) →
    (t.boughtId = none ∧ ids id ∧ Bought maker id order) ∨
    ∃ boughtId, t.boughtId = some boughtId ∧ id = 0 ∧ SoldBack maker boughtId order

variable {maker : MarketMaker} {settings : Settings} {chain : Chain} {ids : U256 → Prop}

private theorem sellRfq_ne_buyRfq (id : U256) : sellRfq settings id ≠ buyRfq settings := fun h =>
  absurd (congrArg Grpc.QuoteRequest.action h) (by decide : Grpc.Action.sell.toI32 ≠ Grpc.Action.buy.toI32)

private theorem sellRfq_injective {id id' : U256} (h : sellRfq settings id = sellRfq settings id') :
    id = id' := by
  have hid : some (Grpc.H256.ofU256 id) = some (Grpc.H256.ofU256 id') :=
    congrArg Grpc.QuoteRequest.identifierOrCriteria h
  have hsame := congrArg Grpc.H256.toU256 (Option.some.inj hid)
  rwa [Grpc.H256.toU256_ofU256, Grpc.H256.toU256_ofU256] at hsame

/-- The request that was sent last is the one of the phase. -/
theorem Trading.last {t : Taker.State} (h : Trading maker settings chain ids t) :
    t.requests.getLast? = some ((t.boughtId.map (sellRfq settings)).getD (buyRfq settings)) := by
  obtain ⟨buys, hreq⟩ := h.requests
  rw [hreq]
  cases t.boughtId with
  | some id => simp
  | none => simp [List.replicate_succ']

/-- A reply to the last request comes in its phase. -/
theorem Trading.reply {t : Taker.State} (h : Trading maker settings chain ids t) {rfq : Grpc.QuoteRequest}
    (hlast : t.requests.getLast? = some rfq) {response : Grpc.QuoteResponse}
    (hreply : Replies maker settings ids (.rfq, rfq) (.rfq response)) (calls : TakerCalls) :
    InPhase maker ids t (calls.turn (.ok (some response))) := by
  have hrfq := Option.some.inj (hlast.symm.trans h.last)
  have hbuying (hbuy : rfq = buyRfq settings) : t.boughtId = none := by
    cases hid : t.boughtId with
    | none => rfl
    | some id =>
      rw [hid, hbuy] at hrfq
      exact absurd hrfq.symm (sellRfq_ne_buyRfq id)
  rcases replies_cases hreply calls with
    ⟨hbuy, _, hacc⟩ | ⟨hbuy, _, out, id, hacc, hid, hbought⟩ | ⟨id, hsell, hoffer, out, hacc, hsold⟩
  · refine ⟨fun _ => hbuying hbuy, fun order id ha => ?_⟩
    rw [hacc] at ha
    cases ha
  · refine ⟨fun _ => hbuying hbuy, fun order id ha => .inl ?_⟩
    rw [hacc] at ha
    cases ha
    exact ⟨hbuying hbuy, hid, hbought⟩
  · have hselling : t.boughtId = some id := by
      cases hid : t.boughtId with
      | none =>
        rw [hid, hsell] at hrfq
        exact absurd hrfq (sellRfq_ne_buyRfq id)
      | some id' =>
        rw [hid, hsell] at hrfq
        rw [sellRfq_injective hrfq]
    refine ⟨fun hno => ?_, fun order id ha => .inr ?_⟩
    · rw [hoffer] at hno
      cases hno
    · rw [hacc] at ha
      cases ha
      exact ⟨_, hselling, rfl, hsold⟩

private theorem Trading.leave {t : Taker.State} (h : Trading maker settings chain ids t) {turn : Taker.Turn}
    (hturn : InPhase maker ids t turn) {order : Seaport.Order} {id : U256}
    (ha : turn.accepted? = some (order, id)) {t' : Taker.State} {status : Taker.Status}
    (ht : t' = { t with
      status := status, consumed := t.read turn, events := t.events ++ [t.fulfillment turn order] })
    (hreached : ∃ turns, t' = Taker.run settings chain turns) : Trading maker settings chain ids t' := by
  have hsubmitted : t'.submitted = t.submitted ++ [(t.sellRfq, order)] := by
    rw [ht]
    exact Taker.submitted_append t _
  have hrequests : t'.requests = t.requests := by
    rw [ht]
    exact (Taker.requests_append t _).trans (List.append_nil _)
  have hid : t'.boughtId = t.boughtId := by rw [ht]
  refine ⟨hreached, by rw [hrequests, hid]; exact h.requests, by rw [hid, ht]; exact h.phase, ?_, ?_⟩
  · intro o ho
    rw [hsubmitted] at ho
    rw [hid]
    rcases List.mem_append.mp ho with hold | hnew
    · exact h.bought o hold
    · obtain ⟨hp, rfl⟩ := Prod.mk.inj (List.mem_singleton.mp hnew)
      rcases hturn.2 _ id ha with ⟨hnone, hids, hbought⟩ | ⟨boughtId, hsome, _⟩
      · exact ⟨id, hids, hbought, fun boughtId hb => by rw [hnone] at hb; cases hb⟩
      · rw [h.phase, hsome] at hp
        cases hp
  · intro o ho
    rw [hsubmitted] at ho
    rw [hid]
    rcases List.mem_append.mp ho with hold | hnew
    · exact h.sold o hold
    · obtain ⟨hp, rfl⟩ := Prod.mk.inj (List.mem_singleton.mp hnew)
      rcases hturn.2 _ id ha with ⟨hnone, _⟩ | ⟨boughtId, hsome, _, hsold⟩
      · rw [h.phase, hnone] at hp
        cases hp
      · exact ⟨boughtId, hsome, hsold⟩

private theorem Trading.unsubmitted {t : Taker.State} (h : Trading maker settings chain ids t)
    (hs : t.status = .running) (hid : t.boughtId = none) : t.submitted = [] := by
  obtain ⟨turns, ht⟩ := h.reached
  have hphased := (Taker.run_submissions settings chain turns).1
  rw [← ht] at hphased
  have hphases := hphased.running hs
  rw [h.phase, hid, if_neg (by simp)] at hphases
  exact List.map_eq_nil_iff.mp hphases

theorem Trading.step {t : Taker.State} (h : Trading maker settings chain ids t) {turn : Taker.Turn}
    (hturn : InPhase maker ids t turn) : Trading maker settings chain ids (Taker.step settings chain t turn) := by
  by_cases hs : t.status = .running
  swap
  · rwa [Taker.step_of_exited settings chain hs]
  obtain ⟨buys, hreq⟩ := h.requests
  have hreached : ∃ turns, Taker.step settings chain t turn = Taker.run settings chain turns := by
    obtain ⟨turns, ht⟩ := h.reached
    exact ⟨turns ++ [turn], by rw [Taker.run_snoc, ← ht]⟩
  rcases Taker.step_cases settings chain hs turn with
    ⟨hn, _, ht⟩ | ⟨order, id, ha, ⟨hp, _, _, _, ht⟩ | ⟨_, _, _, ht⟩ | ⟨_, exit, _, ht⟩⟩ | ⟨_, _, p, ht⟩
  · have hnone := hturn.1 hn
    have hsubmitted : (Taker.step settings chain t turn).submitted = t.submitted := by
      rw [ht]
      exact (Taker.submitted_append t _).trans (List.append_nil _)
    have hid : (Taker.step settings chain t turn).boughtId = t.boughtId := by rw [ht]
    refine ⟨hreached, ⟨buys + 1, ?_⟩, by rw [hid, ht]; exact h.phase, ?_, ?_⟩
    · rw [hid, hnone, ht, Taker.State.requests, Taker.requests_append, hreq, hnone]
      simp only [Option.map_none, Option.toList_none, List.append_nil]
      exact List.replicate_succ'.symm
    · rw [hsubmitted, hid]
      exact h.bought
    · rw [hsubmitted, hid]
      exact h.sold
  · have hnone : t.boughtId = none := by
      rw [h.phase] at hp
      exact Option.isSome_eq_false_iff.mp hp |> Option.isNone_iff_eq_none.mp
    have hsubmitted : (Taker.step settings chain t turn).submitted = [(false, order)] := by
      rw [ht, Taker.State.submitted, Taker.submitted_append, h.unsubmitted hs hnone, ← hp]
      rfl
    have hids : ids id ∧ Bought maker id order := by
      rcases hturn.2 order id ha with ⟨_, hids⟩ | ⟨boughtId, hsome, _⟩
      · exact hids
      · rw [hnone] at hsome
        cases hsome
    refine ⟨hreached, ⟨buys, ?_⟩, by rw [ht]; rfl, fun o ho => ?_, fun o ho => ?_⟩
    · rw [ht, Taker.State.requests, Taker.requests_append, hreq, hnone]
      simp only [Option.map_none, Option.toList_none, List.append_nil]
      rfl
    · rw [hsubmitted] at ho
      obtain ⟨_, rfl⟩ := Prod.mk.inj (List.mem_singleton.mp ho)
      refine ⟨id, hids.1, hids.2, fun boughtId hb => ?_⟩
      rw [ht] at hb
      exact (Option.some.inj hb).symm
    · rw [hsubmitted] at ho
      cases (Prod.mk.inj (List.mem_singleton.mp ho)).1
  · exact h.leave hturn ha ht hreached
  · exact h.leave hturn ha ht hreached
  · rw [ht] at hreached ⊢
    exact ⟨hreached, ⟨buys, hreq⟩, h.phase, h.bought, h.sold⟩

end TradeInterfaces.Market
