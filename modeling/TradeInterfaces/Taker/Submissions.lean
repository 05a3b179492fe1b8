import TradeInterfaces.Taker.Requests

/-! The orders the taker submits over a run: how many there are, and when they answer the
request of their phase. -/
namespace TradeInterfaces.Taker
open Foundations.Panics Ethers
open Foundations.Runs (AllSteps holds_iff_allSteps_of_kept)

def Event.submitted? : Event → Option (Bool × Seaport.Order)
  | .sendRfq _ => none
  | .fulfillOrder sellRfq tx _ => some (sellRfq, tx.order)

/-- The orders submitted so far, each with the phase it was submitted in. -/
def State.submitted (s : State) : List (Bool × Seaport.Order) := s.events.filterMap Event.submitted?

/-- The request of a phase. -/
def State.phaseRfq (settings : Settings) (s : State) (inSellPhase : Bool) : Option Grpc.QuoteRequest :=
  if inSellPhase then s.boughtId.map (Taker.sellRfq settings) else some (buyRfq settings)

/-- The tokens of an item are the requested ones. -/
def Requested (rfq : Grpc.QuoteRequest) (token : Address) (id startAmount endAmount : U256) : Prop :=
  (rfq.tokenAddress.getD default).toHash = token ∧ (rfq.identifierOrCriteria.getD default).toU256 = id ∧
    (rfq.amount.getD default).toU256 = startAmount ∧ (rfq.amount.getD default).toU256 = endAmount

instance (rfq : Grpc.QuoteRequest) (token : Address) (id startAmount endAmount : U256) :
    Decidable (Requested rfq token id startAmount endAmount) :=
  inferInstanceAs (Decidable (_ ∧ _ ∧ _ ∧ _))

/-- The order has the requested tokens on the side of the phase. -/
def Matches (rfq : Grpc.QuoteRequest) (inSellPhase : Bool) (order : Seaport.Order) : Prop :=
  if inSellPhase then ∃ item ∈ order.parameters.consideration,
    Requested rfq item.token item.identifierOrCriteria item.startAmount item.endAmount
  else ∃ item ∈ order.parameters.offer,
    Requested rfq item.token item.identifierOrCriteria item.startAmount item.endAmount

/-- The same of an order as it was received. -/
def MatchesOnWire (rfq : Grpc.QuoteRequest) (inSellPhase : Bool) (order : Grpc.Order) : Prop :=
  if inSellPhase then ∃ item ∈ order.consideration,
    Requested rfq (item.token.getD default).toHash (item.identifierOrCriteria.getD default).toU256
      (item.startAmount.getD default).toU256 (item.endAmount.getD default).toU256
  else ∃ item ∈ order.offer,
    Requested rfq (item.token.getD default).toHash (item.identifierOrCriteria.getD default).toU256
      (item.startAmount.getD default).toU256 (item.endAmount.getD default).toU256

instance (rfq : Grpc.QuoteRequest) (inSellPhase : Bool) (order : Seaport.Order) :
    Decidable (Matches rfq inSellPhase order) :=
  inferInstanceAs (Decidable (if inSellPhase then _ else _))

/-- The taker receives options by an order. -/
def Receives (settings : Settings) (order : Seaport.Order) : Prop :=
  ∃ item ∈ order.parameters.offer, item.token = settings.settlementContract

def ReceivesOnWire (settings : Settings) (order : Grpc.Order) : Prop :=
  ∃ item ∈ order.offer, (item.token.getD default).toHash = settings.settlementContract

/-- The taker gives options away by an order. -/
def Gives (settings : Settings) (order : Seaport.Order) : Prop :=
  ∃ item ∈ order.parameters.consideration, item.token = settings.settlementContract

instance (settings : Settings) (order : Seaport.Order) : Decidable (Receives settings order) :=
  inferInstanceAs (Decidable (∃ item ∈ order.parameters.offer, item.token = settings.settlementContract))

instance (settings : Settings) (order : Seaport.Order) : Decidable (Gives settings order) :=
  inferInstanceAs (Decidable (∃ item ∈ order.parameters.consideration, item.token = settings.settlementContract))

private theorem transform_offer {signedOrder : Grpc.SignedOrder} {parameters : Grpc.Order}
    {order : Seaport.Order} (h : transformToSeaportOrder signedOrder parameters = .ok order) :
    parameters.offer.mapM offerItem = .ok order.parameters.offer ∧
      parameters.consideration.mapM considerationItem = .ok order.parameters.consideration := by
  obtain ⟨_, _, _, _, _, hp, rfl⟩ := transformToSeaportOrder_ok_iff.mp h
  obtain ⟨_, _, _, _, _, _, ho, hc, _, _, _, _, rfl⟩ := orderParameters_ok_iff.mp hp
  exact ⟨ho, hc⟩

/-- The conversion keeps the answer to the question whether an order matches. -/
theorem matches_iff {signedOrder : Grpc.SignedOrder} {parameters : Grpc.Order} {order : Seaport.Order}
    (h : transformToSeaportOrder signedOrder parameters = .ok order) (rfq : Grpc.QuoteRequest) (inSellPhase : Bool) :
    Matches rfq inSellPhase order ↔ MatchesOnWire rfq inSellPhase parameters := by
  obtain ⟨ho, hc⟩ := transform_offer h
  cases inSellPhase with
  | false =>
    apply mapM_exists_iff ho
    intro x y hxy
    obtain ⟨token, startAmount, endAmount, ht, hs, he, rfl⟩ := offerItem_ok_iff.mp hxy
    rw [ht, hs, he]
    rfl
  | true =>
    apply mapM_exists_iff hc
    intro x y hxy
    obtain ⟨startAmount, endAmount, recipient, hs, he, _, rfl⟩ := considerationItem_ok_iff.mp hxy
    rw [hs, he]
    rfl

private theorem receives_iff {signedOrder : Grpc.SignedOrder} {parameters : Grpc.Order} {order : Seaport.Order}
    (h : transformToSeaportOrder signedOrder parameters = .ok order) (settings : Settings) :
    Receives settings order ↔ ReceivesOnWire settings parameters := by
  apply mapM_exists_iff (transform_offer h).1
  intro x y hxy
  obtain ⟨token, _, _, ht, _, _, rfl⟩ := offerItem_ok_iff.mp hxy
  rw [ht]
  rfl

section
variable {settings : Settings} {chain : Chain}

theorem submitted_append (s : State) (events : List Event) :
    (s.events ++ events).filterMap Event.submitted? = s.submitted ++ events.filterMap Event.submitted? :=
  List.filterMap_append

/-- A turn submits the order it brings, or nothing. Only a Buy lets the loop go on. -/
theorem step_submitted (s : State) (turn : Turn) :
    let t := step settings chain s turn
    (t.submitted = s.submitted ∧ t.sellRfq = s.sellRfq ∧ t.boughtId = s.boughtId ∧
      (s.status = .running → turn.accepted? = none) ∧ (t.status = .running → s.status = .running)) ∨
    (s.status = .running ∧ ∃ order id, turn.accepted? = some (order, id) ∧
      t.submitted = s.submitted ++ [(s.sellRfq, order)] ∧ (s.sellRfq = true → t.sellRfq = true) ∧
      (s.sellRfq = true → t.boughtId = s.boughtId) ∧
      (t.status = .running → s.sellRfq = false ∧ t.sellRfq = true)) := by
  intro t
  by_cases hs : s.status = .running
  swap
  · have ht : t = s := step_of_exited settings chain hs turn
    exact .inl ⟨by rw [ht], by rw [ht], by rw [ht], fun h => absurd h hs, by rw [ht]; exact id⟩
  rcases step_cases settings chain hs turn with
    ⟨hno, _, ht⟩ | ⟨order, id, ha, ⟨hp, _, _, _, ht⟩ | ⟨hp, _, _, ht⟩ | ⟨_, exit, _, ht⟩⟩ | ⟨ha, _, p, ht⟩
  all_goals rw [show t = _ from ht]
  · exact .inl ⟨(submitted_append s _).trans (List.append_nil _), rfl, rfl, fun _ => accepted?_of_noOffer hno,
      fun _ => hs⟩
  · refine .inr ⟨hs, order, id, ha, submitted_append s _, fun _ => rfl, fun hp' => ?_, fun _ => ⟨hp, rfl⟩⟩
    rw [hp] at hp'
    cases hp'
  · exact .inr ⟨hs, order, id, ha, submitted_append s _, fun h => h, fun _ => rfl, fun h => by cases h⟩
  · exact .inr ⟨hs, order, id, ha, submitted_append s _, fun h => h, fun _ => rfl, fun h => by cases h⟩
  · exact .inl ⟨rfl, rfl, rfl, fun _ => ha, fun _ => hs⟩

/-- The phases in which orders were submitted, by where the loop is. -/
structure Phased (s : State) : Prop where
  running : s.status = .running → s.submitted.map Prod.fst = if s.sellRfq then [false] else []
  phases : s.submitted.map Prod.fst <+: [false, true]
  selling : true ∈ s.submitted.map Prod.fst → s.sellRfq = true

private theorem step_phased {s : State} (turn : Turn) (h : Phased s) : Phased (step settings chain s turn) := by
  rcases @step_submitted settings chain s turn with ⟨ht, hp, _, _, hrun⟩ | ⟨hs, order, id, _, ht, hkeep, _, hrun⟩
  · refine ⟨fun hs => ?_, by rw [ht]; exact h.phases, by rw [ht, hp]; exact h.selling⟩
    rw [ht, hp]
    exact h.running (hrun hs)
  · have hphases : (step settings chain s turn).submitted.map Prod.fst =
        (if s.sellRfq then [false] else []) ++ [s.sellRfq] := by
      rw [ht, List.map_append, h.running hs]
      rfl
    refine ⟨fun hs' => ?_, ?_, fun hmem => ?_⟩
    · obtain ⟨hp, hp'⟩ := hrun hs'
      rw [hphases, hp, hp']
      rfl
    · rw [hphases]
      cases s.sellRfq <;> decide
    · rw [hphases] at hmem
      cases hp : s.sellRfq with
      | false => simp [hp] at hmem
      | true => exact hkeep hp

/-- The request of the current phase was sent. -/
def Asked (settings : Settings) (s : State) : Prop :=
  buyRfq settings ∈ s.requests ∧
    (s.sellRfq = true → ∃ bought, s.boughtId = some bought ∧ sellRfq settings bought ∈ s.requests)

private theorem step_asked {s : State} (turn : Turn) (h : Asked settings s) :
    Asked settings (step settings chain s turn) := by
  by_cases hs : s.status = .running
  swap
  · rwa [step_of_exited settings chain hs]
  have hkept (events : List Event) {rfq : Grpc.QuoteRequest} (hrfq : rfq ∈ s.requests) :
      rfq ∈ (s.events ++ events).filterMap Event.request? := by
    rw [List.filterMap_append]
    exact List.mem_append_left _ hrfq
  have hsame (events : List Event) (hp : s.sellRfq = true) : ∃ bought, s.boughtId = some bought ∧
      sellRfq settings bought ∈ (s.events ++ events).filterMap Event.request? := by
    obtain ⟨bought, hid, hrfq⟩ := h.2 hp
    exact ⟨bought, hid, hkept events hrfq⟩
  rcases step_cases settings chain hs turn with
    ⟨_, _, ht⟩ | ⟨order, id, _, ⟨_, _, _, _, ht⟩ | ⟨_, _, _, ht⟩ | ⟨_, exit, _, ht⟩⟩ | ⟨_, _, p, ht⟩
  all_goals rw [ht]
  · exact ⟨hkept _ h.1, hsame _⟩
  · refine ⟨hkept _ h.1, fun _ => ⟨id, rfl, ?_⟩⟩
    rw [State.requests, List.filterMap_append]
    exact List.mem_append_right _ (List.mem_singleton.mpr rfl)
  · exact ⟨hkept _ h.1, hsame _⟩
  · exact ⟨hkept _ h.1, hsame _⟩
  · exact h

private theorem initial_submissions (settings : Settings) :
    Phased (State.initial settings) ∧ Asked settings (State.initial settings) :=
  ⟨⟨fun _ => rfl, List.nil_prefix, fun h => by cases h⟩, List.mem_singleton.mpr rfl, fun h => by cases h⟩

/-- What holds of the submissions of every run. -/
theorem run_submissions (settings : Settings) (chain : Chain) (turns : List Turn) :
    Phased (run settings chain turns) ∧ Asked settings (run settings chain turns) := by
  refine @Foundations.Runs.invariant _ _ (step settings chain) (fun s => Phased s ∧ Asked settings s) ?_ _ turns
    (initial_submissions settings)
  rintro s turn ⟨hp, ha⟩
  exact ⟨step_phased turn hp, step_asked turn ha⟩

end

/-- Every order submitted matches the request of its phase. -/
def SubmitsMatching (settings : Settings) (s : State) : Prop :=
  ∀ x ∈ s.submitted, ∃ rfq ∈ s.requests, s.phaseRfq settings x.1 = some rfq ∧ Matches rfq x.1 x.2

/-- Options are received by one order at most and given away by one order at most. -/
def FulfillsOnce (settings : Settings) (s : State) : Prop :=
  (s.submitted.Pairwise fun x y => ¬(Receives settings x.2 ∧ Receives settings y.2)) ∧
    s.submitted.Pairwise fun x y => ¬(Gives settings x.2 ∧ Gives settings y.2)

/-- Every order answers the RFQ of its phase, and so options are bought once and sold once. -/
def KeepsToRfqs (settings : Settings) (s : State) : Prop := SubmitsMatching settings s ∧ FulfillsOnce settings s

/-- An answer that is submitted has the tokens of the RFQ of its phase. In the sell phase it
brings the taker no options, and what was submitted before took none from it. -/
def AnswersPhase (settings : Settings) (s : State) (turn : Turn) : Prop :=
  s.status = .running → turn.accepted?.isSome → ∀ offer offeredOrder parameters,
    turn.response? = some offer → offer.order = some offeredOrder → offeredOrder.parameters = some parameters →
    (∀ rfq, s.phaseRfq settings s.sellRfq = some rfq → MatchesOnWire rfq s.sellRfq parameters) ∧
    (s.sellRfq = true → ¬ReceivesOnWire settings parameters ∧ ∀ x ∈ s.submitted, ¬Gives settings x.2)

section
variable {settings : Settings} {chain : Chain} {s : State}

private theorem phaseRfq_asked (hp : Phased s) (ha : Asked settings s) {x : Bool × Seaport.Order}
    (hx : x ∈ s.submitted) : ∃ rfq ∈ s.requests, s.phaseRfq settings x.1 = some rfq := by
  cases hphase : x.1 with
  | false => exact ⟨buyRfq settings, ha.1, rfl⟩
  | true =>
    obtain ⟨bought, hid, hmem⟩ := ha.2 (hp.selling (List.mem_map.mpr ⟨x, hx, hphase⟩))
    exact ⟨sellRfq settings bought, hmem, by rw [State.phaseRfq, if_pos rfl, hid, Option.map_some]⟩

private theorem submitsMatching_iff (hp : Phased s) (ha : Asked settings s) :
    SubmitsMatching settings s ↔
      ∀ x ∈ s.submitted, ∀ rfq, s.phaseRfq settings x.1 = some rfq → Matches rfq x.1 x.2 := by
  constructor
  · intro h x hx rfq hrfq
    obtain ⟨rfq', _, hrfq', hmatches⟩ := h x hx
    cases hrfq.symm.trans hrfq'
    exact hmatches
  · intro h x hx
    obtain ⟨rfq, hmem, hrfq⟩ := phaseRfq_asked hp ha hx
    exact ⟨rfq, hmem, hrfq, h x hx rfq hrfq⟩

private theorem submitted_buying (hs : s.status = .running) (hp : Phased s) {x : Bool × Seaport.Order}
    (hx : x ∈ s.submitted) : x.1 = false ∧ s.sellRfq = true := by
  have hmem : x.1 ∈ s.submitted.map Prod.fst := List.mem_map.mpr ⟨x, hx, rfl⟩
  rw [hp.running hs] at hmem
  cases hphase : s.sellRfq with
  | false => simp [hphase] at hmem
  | true => exact ⟨by simpa [hphase] using hmem, rfl⟩

private theorem receives_of_matches {order : Seaport.Order} (h : Matches (buyRfq settings) false order) :
    Receives settings order := by
  obtain ⟨item, hitem, htoken, _⟩ := h
  exact ⟨item, hitem, htoken.symm.trans (Grpc.H160.toHash_ofHash _)⟩

private theorem gives_of_matches {id : U256} {order : Seaport.Order}
    (h : Matches (sellRfq settings id) true order) :
    Gives settings order := by
  obtain ⟨item, hitem, htoken, _⟩ := h
  exact ⟨item, hitem, htoken.symm.trans (Grpc.H160.toHash_ofHash _)⟩

/-- The RFQ of a phase stays the one that it was in that phase. -/
theorem step_phaseRfq (turn : Turn) {inSellPhase : Bool} (h : inSellPhase = true → s.sellRfq = true) :
    (step settings chain s turn).phaseRfq settings inSellPhase = s.phaseRfq settings inSellPhase := by
  cases inSellPhase with
  | false => rfl
  | true =>
    have hbought : (step settings chain s turn).boughtId = s.boughtId := by
      rcases @step_submitted settings chain s turn with ⟨_, _, hid, _⟩ | ⟨_, _, _, _, _, _, hid, _⟩
      · exact hid
      · exact hid (h rfl)
    rw [State.phaseRfq, hbought, ← State.phaseRfq]

/-- What is wrong with the submissions stays wrong. -/
theorem keepsToRfqs_of_step (turn : Turn) (hp : Phased s) (ha : Asked settings s)
    (h : KeepsToRfqs settings (step settings chain s turn)) : KeepsToRfqs settings s := by
  have hmatching := (submitsMatching_iff (step_phased turn hp) (step_asked turn ha)).mp h.1
  have hsub : s.submitted.Sublist (step settings chain s turn).submitted := by
    rcases @step_submitted settings chain s turn with ⟨ht, _⟩ | ⟨_, order, _, _, ht, _⟩
    · rw [ht]
    · rw [ht]
      exact List.sublist_append_left _ _
  refine ⟨(submitsMatching_iff hp ha).mpr fun x hx rfq hrfq => ?_, h.2.1.sublist hsub, h.2.2.sublist hsub⟩
  refine hmatching x (hsub.subset hx) rfq ?_
  rw [step_phaseRfq turn fun hphase => hp.selling (List.mem_map.mpr ⟨x, hx, hphase⟩)]
  exact hrfq

private theorem answersPhase_iff (hs : s.status = .running) {turn : Turn} {order : Seaport.Order} {id : U256}
    (ha : turn.accepted? = some (order, id)) :
    AnswersPhase settings s turn ↔
      (∀ rfq, s.phaseRfq settings s.sellRfq = some rfq → Matches rfq s.sellRfq order) ∧
      (s.sellRfq = true → ¬Receives settings order ∧ ∀ x ∈ s.submitted, ¬Gives settings x.2) := by
  obtain ⟨offer, offeredOrder, hr, ho, hacc⟩ := accepted?_eq_some ha
  obtain ⟨parameters, hp, htr⟩ := acceptedOrder_ok hacc
  have honWire : AnswersPhase settings s turn ↔
      (∀ rfq, s.phaseRfq settings s.sellRfq = some rfq → MatchesOnWire rfq s.sellRfq parameters) ∧
      (s.sellRfq = true → ¬ReceivesOnWire settings parameters ∧ ∀ x ∈ s.submitted, ¬Gives settings x.2) := by
    constructor
    · intro h
      exact h hs (by rw [ha, Option.isSome_some]) offer offeredOrder parameters hr ho hp
    · intro h _ _ offer' offeredOrder' parameters' hr' ho' hp'
      cases hr.symm.trans hr'
      cases ho.symm.trans ho'
      cases hp.symm.trans hp'
      exact h
  rw [honWire, receives_iff htr]
  simp only [matches_iff htr]

/-- A turn keeps to the RFQs if and only if the answer it brings is for the current one. -/
theorem step_keepsToRfqs_iff (hp : Phased s) (ha : Asked settings s) (h : KeepsToRfqs settings s) (turn : Turn) :
    KeepsToRfqs settings (step settings chain s turn) ↔ AnswersPhase settings s turn := by
  have hmatching := (submitsMatching_iff hp ha).mp h.1
  have hmatching' := @submitsMatching_iff settings _ (@step_phased settings chain s turn hp) (step_asked turn ha)
  have hold {x : Bool × Seaport.Order} (hx : x ∈ s.submitted) :
      (step settings chain s turn).phaseRfq settings x.1 = s.phaseRfq settings x.1 :=
    step_phaseRfq turn fun hphase => hp.selling (List.mem_map.mpr ⟨x, hx, hphase⟩)
  rcases @step_submitted settings chain s turn with ⟨ht, _, _, hno, _⟩ | ⟨hs, order, id, hacc, ht, _⟩
  · refine iff_of_true ⟨hmatching'.mpr ?_, ?_⟩ fun hs hsome => ?_
    · rw [ht]
      intro x hx rfq hrfq
      exact hmatching x hx rfq ((hold hx).symm.trans hrfq)
    · rw [FulfillsOnce, ht]
      exact h.2
    · rw [hno hs] at hsome
      cases hsome
  -- What was submitted before was submitted in the buy phase, so that it brought options.
  have hbuying {x : Bool × Seaport.Order} (hx : x ∈ s.submitted) : s.sellRfq = true ∧ Receives settings x.2 := by
    obtain ⟨hphase, hselling⟩ := submitted_buying hs hp hx
    have hbought := hmatching x hx (buyRfq settings) (by rw [hphase]; rfl)
    rw [hphase] at hbought
    exact ⟨hselling, receives_of_matches hbought⟩
  rw [answersPhase_iff hs hacc, KeepsToRfqs, hmatching', FulfillsOnce, ht, List.pairwise_append, List.pairwise_append]
  constructor
  · intro ⟨hall, ⟨_, _, hreceives⟩, _, _, hgives⟩
    have hnew : ∀ rfq, s.phaseRfq settings s.sellRfq = some rfq → Matches rfq s.sellRfq order := by
      intro rfq hrfq
      refine hall (s.sellRfq, order) (by simp) rfq ?_
      rw [step_phaseRfq turn fun hselling => hselling]
      exact hrfq
    refine ⟨hnew, fun hselling => ⟨fun hreceived => ?_, fun x hx hgave => ?_⟩⟩
    · have hphases := hp.running hs
      rw [hselling, if_pos rfl] at hphases
      obtain ⟨x, hx, _⟩ := List.mem_map.mp (by rw [hphases]; simp : false ∈ s.submitted.map Prod.fst)
      exact hreceives x hx _ (List.mem_singleton.mpr rfl) ⟨(hbuying hx).2, hreceived⟩
    · obtain ⟨bought, hid, _⟩ := ha.2 hselling
      have hsale := hnew (sellRfq settings bought) (by rw [hselling, State.phaseRfq, if_pos rfl, hid]; rfl)
      rw [hselling] at hsale
      exact hgives x hx _ (List.mem_singleton.mpr rfl) ⟨hgave, gives_of_matches hsale⟩
  · intro ⟨hnew, honce⟩
    refine ⟨fun x hx rfq hrfq => ?_, ⟨h.2.1, List.pairwise_singleton _ _, fun x hx y hy hboth => ?_⟩,
      h.2.2, List.pairwise_singleton _ _, fun x hx y hy hboth => ?_⟩
    · rcases List.mem_append.mp hx with hx | hx
      · exact hmatching x hx rfq ((hold hx).symm.trans hrfq)
      · rw [List.mem_singleton.mp hx] at hrfq ⊢
        rw [step_phaseRfq turn fun hselling => hselling] at hrfq
        exact hnew rfq hrfq
    · rw [List.mem_singleton.mp hy] at hboth
      exact (honce (hbuying hx).1).1 hboth.2
    · exact (honce (hbuying hx).1).2 x hx hboth.1

end

/-- The taker keeps to its RFQs in exactly the runs in which every answer it submits is for
the RFQ of the phase it is read in. -/
theorem run_keepsToRfqs_iff (settings : Settings) (chain : Chain) (turns : List Turn) :
    KeepsToRfqs settings (run settings chain turns) ↔
      AllSteps (step settings chain) (AnswersPhase settings) (State.initial settings) turns := by
  refine @holds_iff_allSteps_of_kept _ _ (step settings chain) (fun s => Phased s ∧ Asked settings s)
    (KeepsToRfqs settings) _ (fun s turn h => ?_) (fun s turn h hstep => ?_) (fun s turn h hkeeps => ?_) _
    (initial_submissions settings) ?_ turns
  · exact ⟨step_phased turn h.1, step_asked turn h.2⟩
  · exact keepsToRfqs_of_step turn h.1 h.2 hstep
  · exact step_keepsToRfqs_iff h.1 h.2 hkeeps turn
  · exact ⟨fun x hx => (by cases hx), .nil, .nil⟩

/-- A second answer to the Buy request is read in the sell phase and submitted, and the check
that nothing is left of the options fails. -/
theorem late_answer_submitted :
    let s := run sampleSettings sampleChain
      [sampleTurn (some sampleBuyOrder) .succeeded, sampleTurn (some sampleBuyOrder) .succeeded]
    ¬SubmitsMatching sampleSettings s ∧ ¬FulfillsOnce sampleSettings s ∧
      s.status = .exited (.panicked .assertionFailed) := by
  intro s
  refine ⟨fun h => ?_, fun h => ?_, ?_⟩
  · have hlate : ∃ x ∈ s.submitted, ∀ rfq ∈ s.phaseRfq sampleSettings x.1, ¬Matches rfq x.1 x.2 := by
      decide +kernel
    obtain ⟨x, hx, hno⟩ := hlate
    obtain ⟨rfq, _, hrfq, hyes⟩ := h x hx
    exact hno rfq hrfq hyes
  · exact absurd h.1 (by decide +kernel)
  · decide +kernel

end TradeInterfaces.Taker
