import TradeInterfaces.Taker.Requests

/-! The taker's position over a run: what it owns of the options it bought when it
reports that they are sold. -/
namespace TradeInterfaces.Taker
open Ethers
open Foundations.Runs (AllSteps holds_iff_allSteps)
variable {settings : Settings} {chain : Chain}

theorem balanceOf_append (chain : Chain) (events : List Event) (event : Event) (id : U256) :
    chain.balanceOf (events ++ [event]) id = chain.settle id (chain.balanceOf events id) event :=
  List.foldl_append

theorem balanceOf_sendRfq (chain : Chain) (events : List Event) (rfq : Grpc.QuoteRequest) (id : U256) :
    chain.balanceOf (events ++ [.sendRfq rfq]) id = chain.balanceOf events id := balanceOf_append ..

/-- The success exit is only taken with nothing left of the options that were bought. -/
def PositionClosed (chain : Chain) (s : State) : Prop :=
  s.status = .exited .soldBack → ∃ bought, s.boughtId = some bought ∧ chain.balanceOf s.events bought = 0

/-- An order that passes the check of the sell phase offers the bought id first, or its
fulfilment succeeded and took the whole balance of that id. -/
def Closes (chain : Chain) (s : State) (turn : Turn) : Prop :=
  s.status = .running → s.sellRfq = true → ∀ order id bought, turn.accepted? = some (order, id) →
    turn.Returns → s.ownedTokens chain turn order id = 0 → s.boughtId = some bought →
    id = bought ∨ turn.receipt = .succeeded ∧
      chain.balanceOf s.events bought + chain.received order bought ≤ chain.given order bought

/-- While it waits to sell, the taker owns the five options it bought. -/
def Holding (chain : Chain) (s : State) : Prop :=
  s.status = .running → s.sellRfq = true →
    ∃ bought, s.boughtId = some bought ∧ chain.balanceOf s.events bought = 5

private theorem step_holding {s : State} (turn : Turn) (hI : Holding chain s) :
    Holding chain (step settings chain s turn) := by
  by_cases hs : s.status = .running
  swap
  · rwa [step_of_exited settings chain hs]
  intro ht' hp'
  rcases step_cases settings chain hs turn with
    ⟨_, _, ht⟩ | ⟨order, id, _, ⟨_, _, hb, _, ht⟩ | ⟨_, _, _, ht⟩ | ⟨_, exit, _, ht⟩⟩ | ⟨_, _, p, ht⟩
  · rw [ht] at hp' ⊢
    obtain ⟨bought, hid, hbal⟩ := hI hs hp'
    exact ⟨bought, hid, by rw [balanceOf_sendRfq, hbal]⟩
  · rw [ht]
    refine ⟨id, rfl, ?_⟩
    have happ : s.events ++ [s.fulfillment turn order, .sendRfq (sellRfq settings id)] =
        (s.events ++ [s.fulfillment turn order]) ++ [.sendRfq (sellRfq settings id)] := by simp
    rw [happ, balanceOf_sendRfq]
    exact hb
  all_goals
    rw [ht] at ht'
    cases ht'

/-- After the fulfilment the bought id is at zero exactly when the order took it all. -/
theorem settle_eq_zero_iff {s : State} {turn : Turn} {order : Seaport.Order} {bought : U256}
    (hb : chain.balanceOf s.events bought = 5) :
    chain.balanceOf (s.events ++ [s.fulfillment turn order]) bought = 0 ↔
      turn.receipt = .succeeded ∧
        chain.balanceOf s.events bought + chain.received order bought ≤ chain.given order bought := by
  rw [balanceOf_append, State.fulfillment]
  cases turn.receipt with
  | succeeded =>
    change chain.balanceOf s.events bought + chain.received order bought - chain.given order bought = 0 ↔ _
    rw [Nat.sub_eq_zero_iff_le]
    simp
  | reverted =>
    change chain.balanceOf s.events bought = 0 ↔ _
    simp [hb]

private theorem positionClosed_of_ne {s : State} (h : s.status ≠ .exited .soldBack) : PositionClosed chain s :=
  fun hsold => absurd hsold h

private theorem closes_of_not_accepted {s : State} {turn : Turn} (h : turn.accepted? = none) :
    Closes chain s turn := by
  intro _ _ order id bought ha
  rw [h] at ha
  cases ha

/-- One turn of the loop closes the position if and only if it meets the condition. -/
theorem step_positionClosed_iff (settings : Settings) {s : State} (turn : Turn) (hs : s.status = .running) (hI : Holding chain s) :
    PositionClosed chain (step settings chain s turn) ↔ Closes chain s turn := by
  have hrunning : s.status ≠ .exited .soldBack := by simp [hs]
  rcases step_cases settings chain hs turn with
    ⟨hno, _, ht⟩ | ⟨order, id, ha, ⟨hp, _, _, _, ht⟩ | ⟨hp, hr, hb, ht⟩ | ⟨hno, exit, hexit, ht⟩⟩ | ⟨ha, _, p, ht⟩
  · rw [ht]
    exact iff_of_true (positionClosed_of_ne hrunning) (closes_of_not_accepted (accepted?_of_noOffer hno))
  · rw [ht]
    refine iff_of_true (positionClosed_of_ne hrunning) ?_
    intro _ hp'
    rw [hp] at hp'
    cases hp'
  · obtain ⟨bought, hid, hbal⟩ := hI hs hp
    have hzero := @settle_eq_zero_iff chain s turn order bought hbal
    rw [ht]
    constructor
    · intro hclosed _ _ order' id' bought' ha' _ _ hid'
      rw [ha] at ha'
      cases ha'
      rw [hid] at hid'
      cases hid'
      obtain ⟨bought', hid', hz⟩ := hclosed rfl
      rw [hid] at hid'
      cases hid'
      exact .inr (hzero.mp hz)
    · intro hC _
      refine ⟨bought, hid, ?_⟩
      rcases hC hs hp order id bought ha hr hb hid with rfl | htaken
      · exact hb
      · exact hzero.mpr htaken
  · rw [ht]
    refine iff_of_true (positionClosed_of_ne fun h => hexit (Status.exited.inj h)) ?_
    intro _ hp order' id' bought ha' hr hb
    rw [ha] at ha'
    cases ha'
    exact absurd ⟨hp, hr, hb⟩ hno
  · rw [ht]
    exact iff_of_true (positionClosed_of_ne (by simp)) (closes_of_not_accepted ha)

/-- The success exit means that the position is closed in exactly the runs in which
every order that passes the sell phase's check closes it. -/
theorem run_positionClosed_iff (settings : Settings) (chain : Chain) (turns : List Turn) :
    PositionClosed chain (run settings chain turns) ↔
      AllSteps (step settings chain) (Closes chain) (State.initial settings) turns := by
  apply holds_iff_allSteps (fun _ turn hI => step_holding turn hI) ?_ ?_ (fun _ hp => by cases hp)
    (fun hsold => by cases hsold)
  · intro s turn hopen
    refine step_of_exited settings chain (fun hs => hopen fun hsold => ?_) turn
    rw [hs] at hsold
    cases hsold
  · intro s turn hI hclosed
    by_cases hs : s.status = .running
    · exact step_positionClosed_iff settings turn hs hI
    · rw [step_of_exited settings chain hs]
      exact ⟨fun _ hs' => absurd hs' hs, fun _ => hclosed⟩

/-- The Sell order's fulfilment reverts. The check looks at the balance of id 0, the
identifier of the price, and the taker leaves with its five options. -/
theorem positionClosed_fails :
    ¬PositionClosed sampleChain (run sampleSettings sampleChain
      [sampleTurn (some sampleBuyOrder) .succeeded, sampleTurn (some sampleSellOrder) .reverted]) := by
  have hsold : (run sampleSettings sampleChain
      [sampleTurn (some sampleBuyOrder) .succeeded, sampleTurn (some sampleSellOrder) .reverted]).status =
        .exited .soldBack := by decide +kernel
  intro h
  obtain ⟨bought, hid, hz⟩ := h hsold
  have hbought : (run sampleSettings sampleChain
      [sampleTurn (some sampleBuyOrder) .succeeded, sampleTurn (some sampleSellOrder) .reverted]).boughtId =
        some 42 := by decide +kernel
  rw [hbought] at hid
  cases hid
  exact absurd hz (by decide +kernel)

end TradeInterfaces.Taker
