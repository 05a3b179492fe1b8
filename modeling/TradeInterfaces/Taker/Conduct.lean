import TradeInterfaces.Foundations.Protocols
import TradeInterfaces.Taker.Steps

/-! The order in which the taker's loop does things: Buys, a purchase, the Sell of what was
bought, perhaps more Buys, and a last order. -/
namespace TradeInterfaces.Taker
open Foundations.BigEndian Foundations.Panics Foundations.Protocols Ethers

def buys (settings : Settings) (n : Nat) : List Event := List.replicate n (.sendRfq (buyRfq settings))

/-- A fulfilment of the buy phase after which the taker owns five of the first id that its
order offers. -/
structure Purchase (chain : Chain) (before : List Event) (purchase : Event) (id : U256) : Prop where
  order : ∃ order receipt item, purchase = .fulfillOrder false (fulfillTx order) receipt ∧
    order.parameters.offer[0]? = some item ∧ item.identifierOrCriteria = id
  balance : chain.balanceOf (before ++ [purchase]) id = 5

/-- The log of a loop that waits to sell. -/
inductive Selling (settings : Settings) (chain : Chain) : List Event → Prop
  | asked {purchase : Event} {id : U256} (n m : Nat) (h : Purchase chain (buys settings (n + 1)) purchase id) :
      Selling settings chain (buys settings (n + 1) ++ purchase :: .sendRfq (sellRfq settings id) :: buys settings m)

/-- What the taker has done before each thing it does in its loop. -/
inductive Trades (settings : Settings) (chain : Chain) : List Event → Event → Prop
  | buy (n : Nat) : Trades settings chain (buys settings n) (.sendRfq (buyRfq settings))
  | purchase (n : Nat) (order : Seaport.Order) (receipt : Receipt) :
      Trades settings chain (buys settings (n + 1)) (.fulfillOrder false (fulfillTx order) receipt)
  | sell {purchase : Event} {id : U256} (n : Nat) (h : Purchase chain (buys settings (n + 1)) purchase id) :
      Trades settings chain (buys settings (n + 1) ++ [purchase]) (.sendRfq (sellRfq settings id))
  | buyAgain {log : List Event} (h : Selling settings chain log) :
      Trades settings chain log (.sendRfq (buyRfq settings))
  | sale {log : List Event} (h : Selling settings chain log) (order : Seaport.Order) (receipt : Receipt) :
      Trades settings chain log (.fulfillOrder true (fulfillTx order) receipt)

/-- The log of a loop up to a state of it. -/
structure Logged (settings : Settings) (chain : Chain) (s : State) : Prop where
  buying : s.status = .running → s.sellRfq = false → ∃ n, s.events = buys settings (n + 1)
  selling : s.status = .running → s.sellRfq = true → Selling settings chain s.events
  follows : Follows (Trades settings chain) s.events
  bought : ∀ id, s.boughtId = some id → ∃ n purchase, Purchase chain (buys settings (n + 1)) purchase id ∧
    buys settings (n + 1) ++ [purchase] <+: s.events
  sold : s.status = .exited .soldBack → s.sellRfq = true

section
variable {settings : Settings} {chain : Chain}

private theorem buys_snoc (settings : Settings) (n : Nat) :
    buys settings n ++ [.sendRfq (buyRfq settings)] = buys settings (n + 1) := List.replicate_succ'.symm

theorem Selling.again {log : List Event} (h : Selling settings chain log) :
    Selling settings chain (log ++ [.sendRfq (buyRfq settings)]) := by
  cases h with
  | asked n m h =>
    rw [List.append_assoc, List.cons_append, List.cons_append, buys_snoc]
    exact .asked n (m + 1) h

private theorem acceptedOrder_first {offeredOrder : Grpc.SignedOrder} {order : Seaport.Order} {id : U256}
    (h : acceptedOrder offeredOrder = .ok (order, id)) :
    ∃ item, order.parameters.offer[0]? = some item ∧ item.identifierOrCriteria = id := by
  simp only [acceptedOrder, bind_returns_iff, index_ok_iff] at h
  obtain ⟨_, _, _, _, transformed, _, item, hitem, he⟩ := h
  cases he
  exact ⟨item, hitem, rfl⟩

private theorem Logged.bought_append {s : State} (h : Logged settings chain s) (events : List Event) :
    ∀ id, s.boughtId = some id → ∃ n purchase, Purchase chain (buys settings (n + 1)) purchase id ∧
      buys settings (n + 1) ++ [purchase] <+: s.events ++ events := by
  intro id hid
  obtain ⟨n, purchase, hpurchase, hprefix⟩ := h.bought id hid
  exact ⟨n, purchase, hpurchase, hprefix.trans (List.prefix_append _ _)⟩

private theorem Logged.leave {s t : State} (h : Logged settings chain s) {turn : Turn} {order : Seaport.Order}
    (hs : s.status = .running) {exit : Exit} (hstatus : t.status = .exited exit) (hid : t.boughtId = s.boughtId)
    (hevents : t.events = s.events ++ [s.fulfillment turn order]) (hsold : exit = .soldBack → t.sellRfq = true) :
    Logged settings chain t := by
  have hplace : Trades settings chain s.events (s.fulfillment turn order) := by
    rw [State.fulfillment]
    cases hp : s.sellRfq with
    | false =>
      obtain ⟨n, hn⟩ := h.buying hs hp
      rw [hn]
      exact .purchase n order turn.receipt
    | true => exact .sale (h.selling hs hp) order turn.receipt
  refine ⟨fun hrun => ?_, fun hrun => ?_, ?_, ?_, fun hexit => hsold ?_⟩
  · rw [hstatus] at hrun
    cases hrun
  · rw [hstatus] at hrun
    cases hrun
  · rw [hevents]
    exact h.follows.snoc hplace
  · rw [hid, hevents]
    exact h.bought_append _
  · rw [hstatus] at hexit
    exact Status.exited.inj hexit

private theorem step_logged {s : State} (turn : Turn) (h : Logged settings chain s) :
    Logged settings chain (step settings chain s turn) := by
  by_cases hs : s.status = .running
  swap
  · rwa [step_of_exited settings chain hs]
  rcases step_cases settings chain hs turn with
    ⟨_, _, ht⟩ | ⟨order, id, ha, ⟨hp, _, hb, _, ht⟩ | ⟨hp, _, _, ht⟩ | ⟨_, exit, hexit, ht⟩⟩ | ⟨_, _, p, ht⟩
  · rw [ht]
    refine ⟨fun _ hp => ?_, fun _ hp => (h.selling hs hp).again, h.follows.snoc ?_, h.bought_append _, h.sold⟩
    · obtain ⟨n, hn⟩ := h.buying hs hp
      exact ⟨n + 1, by rw [hn, buys_snoc]⟩
    · cases hp : s.sellRfq with
      | false =>
        obtain ⟨n, hn⟩ := h.buying hs hp
        rw [hn]
        exact .buy (n + 1)
      | true => exact .buyAgain (h.selling hs hp)
  · obtain ⟨n, hn⟩ := h.buying hs hp
    have hpurchase : Purchase chain (buys settings (n + 1)) (s.fulfillment turn order) id := by
      obtain ⟨_, offeredOrder, _, _, hacc⟩ := accepted?_eq_some ha
      obtain ⟨item, hitem, hid⟩ := acceptedOrder_first hacc
      refine ⟨⟨order, turn.receipt, item, by rw [State.fulfillment, hp], hitem, hid⟩, ?_⟩
      rw [← hn]
      exact hb
    have hplace : Trades settings chain s.events (s.fulfillment turn order) := by
      rw [hn, State.fulfillment, hp]
      exact .purchase n order turn.receipt
    rw [ht]
    refine ⟨fun _ hbuying => (by cases hbuying), fun _ _ => ?_, ?_, fun id' hid => ?_, fun _ => rfl⟩
    · rw [hn]
      exact .asked n 0 hpurchase
    · rw [List.append_cons]
      refine (h.follows.snoc hplace).snoc ?_
      rw [hn]
      exact .sell n hpurchase
    · cases hid
      rw [hn, List.append_cons]
      exact ⟨n, _, hpurchase, List.prefix_append _ _⟩
  · rw [ht]
    exact h.leave hs rfl rfl rfl fun _ => hp
  · rw [ht]
    exact h.leave hs rfl rfl rfl fun hsold => absurd hsold hexit
  · rw [ht]
    exact ⟨fun hrun => (by cases hrun), fun hrun => (by cases hrun), h.follows, h.bought, fun hsold => (by cases hsold)⟩

theorem run_logged (settings : Settings) (chain : Chain) (turns : List Turn) :
    Logged settings chain (run settings chain turns) := by
  refine Foundations.Runs.invariant (fun s turn h => step_logged turn h) turns ?_
  exact ⟨fun _ _ => ⟨0, rfl⟩, fun _ hp => (by cases hp), follows_nil.snoc (.buy 0), fun id hid => (by cases hid),
    fun hsold => (by cases hsold)⟩

end

end TradeInterfaces.Taker
