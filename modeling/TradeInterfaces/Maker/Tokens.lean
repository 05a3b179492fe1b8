import TradeInterfaces.Maker.Delivery

/-! The token of a request and the one that is offered. The checks ask for a token
address; the orders name the settlement engine. -/
namespace TradeInterfaces.Maker
open Foundations.BigEndian Foundations.Panics Foundations.Effects Ethers
open Seaport (seaportContractAddress)
open Foundations.Runs (AllSteps allSteps_iff)

/-- The token fields of the ERC1155 items of an order. -/
def erc1155Tokens (order : Grpc.Order) : List (Option Grpc.H160) :=
  (order.offer.filter fun item => item.itemType = Grpc.ItemType.erc1155.toI32).map (·.token) ++
    (order.consideration.filter fun item => item.itemType = Grpc.ItemType.erc1155.toI32).map (·.token)

/-- The order has one ERC1155 item, of the token that the request names. -/
def OrderForToken (quote : Grpc.QuoteRequest) (order : Grpc.Order) : Prop :=
  ∃ token requested, erc1155Tokens order = [some token] ∧ quote.tokenAddress = some requested ∧
    token.toHash = requested.toHash

/-- A response without an order is put on the channel of the stream. -/
def Declined (stream : Stream) (events : List Event) : Prop :=
  match stream with
  | .rfq => ∃ response, .queueQuote response ∈ events ∧ response.order = none
  | .softQuote => ∃ response, .queueSoftQuote response ∈ events ∧ response.order = none

/-- Orders are for the token of the request, and a request for another token than the
settlement engine's is answered with a no-offer. -/
structure ForRequestedToken (maker : MarketMaker) (stream : Stream) (quote : Grpc.QuoteRequest)
    (events : List Event) : Prop where
  quotes : ∀ response signedOrder, .queueQuote response ∈ events → response.order = some signedOrder →
    ∃ order, signedOrder.parameters = some order ∧ OrderForToken quote order
  softQuotes : ∀ response order, .queueSoftQuote response ∈ events → response.order = some order →
    OrderForToken quote order
  otherToken : ∀ requested, quote.tokenAddress = some requested → requested.toHash ≠ maker.settlementEngine →
    Declined stream events ∧ (∀ response, .queueQuote response ∈ events → response.order = none) ∧
      ∀ response, .queueSoftQuote response ∈ events → response.order = none

/-- The request on the RFQ stream is malformed, or a Buy that fits and whose write reports no ids. -/
def WithoutOffer (maker : MarketMaker) (rpc : Rpc) (quote : Grpc.QuoteRequest) : Prop :=
  ¬ValidRfq seaportContractAddress quote ∨
    (Grpc.Action.ofI32 quote.action = .buy ∧ (∀ id, ¬Reported maker rpc id) ∧
      ∃ amount, quote.amount = some amount ∧ amount.toU256.toNat < 2^128)

/-- The request is answered with a no-offer: it names a supported chain, finds its channel
open, and is one that is offered nothing on its stream. -/
def Declines (maker : MarketMaker) (turn : Turn) (quote : Grpc.QuoteRequest) : Prop :=
  supported quote = true ∧ turn.channelOpen = true ∧ match turn.stream with
  | .rfq => WithoutOffer maker turn.rpc quote
  | .softQuote => ¬ValidSoftQuote quote

/-- A request for another token than the settlement engine's is one that is declined. -/
def DeclinesOtherToken (maker : MarketMaker) (turn : Turn) (quote : Grpc.QuoteRequest) : Prop :=
  ∀ requested, quote.tokenAddress = some requested → requested.toHash ≠ maker.settlementEngine →
    Declines maker turn quote

/-- Whatever a turn of a run adds to the log for a request keeps to the token of the request. -/
def RunForRequestedToken (maker : MarketMaker) (turns : List Turn) : Prop :=
  ∀ before turn after quote events, turns = before ++ turn :: after → (run maker before).status = .running →
    turn.message = .ok (some quote) →
    (run maker (before ++ [turn])).events = (run maker before).events ++ events →
    ForRequestedToken maker turn.stream quote events

section
variable {maker : MarketMaker} {rpc : Rpc} {quote : Grpc.QuoteRequest}

/-- The one ERC1155 item of an order, on either side, is of the settlement engine. -/
theorem Sides.erc1155Tokens {id amount : Grpc.H256} {offered : Grpc.OfferItem}
    {considered : Grpc.ConsiderationItem} {before : List Event}
    (h : Sides maker quote id amount rpc offered considered before) :
    erc1155Tokens (quoteOrder maker offered considered rpc) = [some (.ofHash maker.settlementEngine)] := by
  cases h <;> rfl

private theorem Sides.not_declined {id amount : Grpc.H256} {offered : Grpc.OfferItem}
    {considered : Grpc.ConsiderationItem} {before : List Event}
    (h : Sides maker quote id amount rpc offered considered before) (valid : ValidRfq seaportContractAddress quote) :
    ¬WithoutOffer maker rpc quote := by
  rintro (hinvalid | ⟨hb, hnone, _⟩)
  · exact hinvalid valid
  · cases h with
    | buy action fits ids => cases ids.symm.trans (writtenIds_eq_none_iff.mpr hnone)
    | sell action => cases action.symm.trans hb

private theorem softQuoteItems_erc1155Tokens {price : U256} {offered : Grpc.OfferItem}
    {considered : Grpc.ConsiderationItem}
    (h : softQuoteItems maker quote price = .ok (some (offered, considered))) :
    erc1155Tokens (quoteOrder maker offered considered rpc) = [some (.ofHash maker.settlementEngine)] := by
  unfold softQuoteItems at h
  split at h
  · cases h
    rfl
  · obtain ⟨identifier, _, hitems⟩ := bind_returns_iff.mp h
    cases hitems
    rfl
  · cases h

private theorem orderForToken_of_engine {order : Grpc.Order}
    (h : erc1155Tokens order = [some (.ofHash maker.settlementEngine)])
    {requested : Grpc.H160} (hr : quote.tokenAddress = some requested)
    (hsame : requested.toHash = maker.settlementEngine) : OrderForToken quote order :=
  ⟨_, requested, h, hr, by rw [hsame, Grpc.H160.toHash_ofHash]⟩

/-- Where the answer on the RFQ stream carries an order, that order is for the settlement
engine, and the request was accepted and, for a Buy, written. -/
theorem answerRfq_order {response : Grpc.QuoteResponse} {signedOrder : Grpc.SignedOrder}
    (h : (answerRfq maker rpc quote).outcome = .ok (some response)) (ho : response.order = some signedOrder) :
    (∃ order, signedOrder.parameters = some order ∧
      erc1155Tokens order = [some (.ofHash maker.settlementEngine)]) ∧
    ValidRfq seaportContractAddress quote ∧
      (Grpc.Action.ofI32 quote.action = .buy → ∃ id, Reported maker rpc id) := by
  have ha := answerRfq_answered maker rpc quote
  generalize answerRfq maker rpc quote = task at h ha
  cases ha with
  | malformed invalid =>
    cases h
    cases ho
  | handled valid identifier requested handled =>
    cases handled with
    | overflow action large => cases h
    | noOffer action fits ids =>
      cases h
      cases ho
    | unsigned sides fails quiet => cases h
    | offer sides answers =>
      cases h
      cases ho
      refine ⟨⟨_, rfl, sides.erc1155Tokens⟩, valid, fun hb => ?_⟩
      cases sides with
      | buy action fits ids => exact ⟨_, reported_iff_writtenIds.mpr ⟨_, ids⟩⟩
      | sell action =>
        rw [hb] at action
        cases action

/-- A no-offer is given to what is malformed, and to a Buy whose write reports no ids. -/
theorem answerRfq_declines_iff (maker : MarketMaker) (rpc : Rpc) (quote : Grpc.QuoteRequest) :
    (∃ response, (answerRfq maker rpc quote).outcome = .ok (some response) ∧ response.order = none) ↔
      WithoutOffer maker rpc quote := by
  have ha := answerRfq_answered maker rpc quote
  generalize answerRfq maker rpc quote = task at ha
  cases ha with
  | malformed invalid => exact iff_of_true ⟨_, rfl, rfl⟩ (.inl invalid)
  | handled valid identifier requested handled =>
    cases handled with
    | overflow action large =>
      refine iff_of_false (fun ⟨_, hr, _⟩ => by cases hr) ?_
      rintro (hinvalid | ⟨_, _, amount, hamount, hfits⟩)
      · exact hinvalid valid
      · cases requested.symm.trans hamount
        exact absurd hfits (Nat.not_lt.mpr large)
    | noOffer action fits ids =>
      have hnone := writtenIds_eq_none_iff.mp ids
      exact iff_of_true ⟨_, rfl, rfl⟩ (.inr ⟨action, hnone, _, requested, toNat_lt_of_asU128 fits⟩)
    | unsigned sides fails quiet =>
      exact iff_of_false (fun ⟨_, hr, _⟩ => by cases hr) (sides.not_declined valid)
    | offer sides answers =>
      refine iff_of_false (fun ⟨response, hr, ho⟩ => ?_) (sides.not_declined valid)
      cases hr
      cases ho

private theorem answerSoftQuote_order {response : Grpc.SoftQuoteResponse} {order : Grpc.Order}
    (h : (answerSoftQuote maker rpc quote).outcome = .ok (some response)) (ho : response.order = some order) :
    erc1155Tokens order = [some (.ofHash maker.settlementEngine)] ∧ ValidSoftQuote quote := by
  have ha := answerSoftQuote_answered maker rpc quote
  generalize answerSoftQuote maker rpc quote = task at h ha
  cases ha with
  | malformed invalid =>
    cases h
    cases ho
  | failed valid chainId => cases h
  | offer valid chainId items =>
    cases h
    cases ho
    exact ⟨softQuoteItems_erc1155Tokens items, valid⟩

private theorem answerSoftQuote_declines_iff (maker : MarketMaker) (rpc : Rpc) (quote : Grpc.QuoteRequest) :
    (∃ response, (answerSoftQuote maker rpc quote).outcome = .ok (some response) ∧ response.order = none) ↔
      ¬ValidSoftQuote quote := by
  have ha := answerSoftQuote_answered maker rpc quote
  generalize answerSoftQuote maker rpc quote = task at ha
  cases ha with
  | malformed invalid => exact iff_of_true ⟨_, rfl, rfl⟩ invalid
  | failed valid chainId => exact iff_of_false (fun ⟨_, hr, _⟩ => by cases hr) (not_not_intro valid)
  | offer valid chainId items =>
    refine iff_of_false (fun ⟨response, hr, ho⟩ => ?_) (not_not_intro valid)
    cases hr
    cases ho

/-- The responses that a branch queues are those of its own stream. -/
theorem queued_cases {turn : Turn} (hm : turn.message = .ok (some quote)) :
    (∀ response, .queueQuote response ∈ (selectBranch maker turn).events → turn.stream = .rfq ∧
      supported quote = true ∧ turn.channelOpen = true ∧
      (answerRfq maker turn.rpc quote).outcome = .ok (some response)) ∧
    ∀ response, .queueSoftQuote response ∈ (selectBranch maker turn).events → turn.stream = .softQuote ∧
      supported quote = true ∧ turn.channelOpen = true ∧
      (answerSoftQuote maker turn.rpc quote).outcome = .ok (some response) := by
  obtain ⟨stream, message, rpc, channelOpen⟩ := turn
  cases hm
  cases stream with
  | rfq =>
    refine ⟨fun response hmem => ?_, fun response hmem => ?_⟩
    · obtain ⟨hsup, he | ⟨hopen, response', hr, he⟩⟩ := (mem_serve_iff _ _ _ _ _).mp hmem
      · cases (answerRfq_quiet maker rpc quote _ he).1
      · cases he
        exact ⟨rfl, hsup, hopen, hr⟩
    · obtain ⟨_, he | ⟨_, _, _, he⟩⟩ := (mem_serve_iff _ _ _ _ _).mp hmem
      · cases (answerRfq_quiet maker rpc quote _ he).2
      · cases he
  | softQuote =>
    refine ⟨fun response hmem => ?_, fun response hmem => ?_⟩
    · obtain ⟨_, he | ⟨_, _, _, he⟩⟩ := (mem_serve_iff _ _ _ _ _).mp hmem
      · cases (answerSoftQuote_quiet maker rpc quote _ he).1
      · cases he
    · obtain ⟨hsup, he | ⟨hopen, response', hr, he⟩⟩ := (mem_serve_iff _ _ _ _ _).mp hmem
      · cases (answerSoftQuote_quiet maker rpc quote _ he).2
      · cases he
        exact ⟨rfl, hsup, hopen, hr⟩

/-- A turn declines a request under the condition, and otherwise sends something else or nothing. -/
theorem declined_iff (maker : MarketMaker) {turn : Turn} (hm : turn.message = .ok (some quote)) :
    Declined turn.stream (selectBranch maker turn).events ↔ Declines maker turn quote := by
  obtain ⟨hquotes, hsoft⟩ := @queued_cases maker quote turn hm
  obtain ⟨stream, message, rpc, channelOpen⟩ := turn
  cases hm
  cases stream with
  | rfq =>
    constructor
    · rintro ⟨response, hmem, ho⟩
      obtain ⟨_, hsup, hopen, hr⟩ := hquotes response hmem
      exact ⟨hsup, hopen, (answerRfq_declines_iff maker rpc quote).mp ⟨response, hr, ho⟩⟩
    · rintro ⟨hsup, hopen, hdeclines⟩
      obtain ⟨response, hr, ho⟩ := (answerRfq_declines_iff maker rpc quote).mpr hdeclines
      exact ⟨response, (mem_serve_iff _ _ _ _ _).mpr ⟨hsup, .inr ⟨hopen, response, hr, rfl⟩⟩, ho⟩
  | softQuote =>
    constructor
    · rintro ⟨response, hmem, ho⟩
      obtain ⟨_, hsup, hopen, hr⟩ := hsoft response hmem
      exact ⟨hsup, hopen, (answerSoftQuote_declines_iff maker rpc quote).mp ⟨response, hr, ho⟩⟩
    · rintro ⟨hsup, hopen, hdeclines⟩
      obtain ⟨response, hr, ho⟩ := (answerSoftQuote_declines_iff maker rpc quote).mpr hdeclines
      exact ⟨response, (mem_serve_iff _ _ _ _ _).mpr ⟨hsup, .inr ⟨hopen, response, hr, rfl⟩⟩, ho⟩

/-- An order that is queued is for the settlement engine, and answers a request that names a
token and is not declined. -/
theorem ordered_of_queued {turn : Turn} (hm : turn.message = .ok (some quote)) :
    (∀ response signedOrder, .queueQuote response ∈ (selectBranch maker turn).events →
      response.order = some signedOrder → quote.tokenAddress.isSome ∧ ¬Declines maker turn quote ∧
        ∃ order, signedOrder.parameters = some order ∧
          erc1155Tokens order = [some (.ofHash maker.settlementEngine)]) ∧
    ∀ response order, .queueSoftQuote response ∈ (selectBranch maker turn).events →
      response.order = some order → quote.tokenAddress.isSome ∧ ¬Declines maker turn quote ∧
        erc1155Tokens order = [some (.ofHash maker.settlementEngine)] := by
  obtain ⟨hquotes, hsoft⟩ := @queued_cases maker quote turn hm
  refine ⟨fun response signedOrder hmem ho => ?_, fun response order hmem ho => ?_⟩
  · obtain ⟨hstream, _, _, hr⟩ := hquotes response hmem
    obtain ⟨horder, hvalid, hb⟩ := answerRfq_order hr ho
    refine ⟨hvalid.tokenAddress, ?_, horder⟩
    rintro ⟨_, _, hdeclines⟩
    rw [hstream] at hdeclines
    rcases hdeclines with hinvalid | ⟨hbuy, hnone, _⟩
    · exact hinvalid hvalid
    · obtain ⟨id, hreported⟩ := hb hbuy
      exact hnone id hreported
  · obtain ⟨hstream, _, _, hr⟩ := hsoft response hmem
    obtain ⟨htokens, hvalid⟩ := answerSoftQuote_order hr ho
    refine ⟨hvalid.tokenAddress, ?_, htokens⟩
    rintro ⟨_, _, hdeclines⟩
    rw [hstream] at hdeclines
    exact hdeclines hvalid

/-- A turn keeps to the token of its request exactly when a request for another token is
declined. -/
theorem selectBranch_forRequestedToken_iff (maker : MarketMaker) {turn : Turn}
    (hm : turn.message = .ok (some quote)) :
    ForRequestedToken maker turn.stream quote (selectBranch maker turn).events ↔
      DeclinesOtherToken maker turn quote := by
  obtain ⟨hrfq, hsoftQuote⟩ := @ordered_of_queued maker quote turn hm
  constructor
  · intro h requested hr hne
    exact (declined_iff maker hm).mp (h.otherToken requested hr hne).1
  · intro hother
    have hordered {order : Grpc.Order} (htoken : quote.tokenAddress.isSome) (hno : ¬Declines maker turn quote)
        (htokens : erc1155Tokens order = [some (.ofHash maker.settlementEngine)]) : OrderForToken quote order := by
      obtain ⟨requested, hr⟩ := Option.isSome_iff_exists.mp htoken
      refine orderForToken_of_engine htokens hr ?_
      by_contra hne
      exact hno (hother requested hr hne)
    refine ⟨fun response signedOrder hmem ho => ?_, fun response order hmem ho => ?_, fun requested hr hne => ?_⟩
    · obtain ⟨htoken, hno, order, hp, htokens⟩ := hrfq response signedOrder hmem ho
      exact ⟨order, hp, hordered htoken hno htokens⟩
    · obtain ⟨htoken, hno, htokens⟩ := hsoftQuote response order hmem ho
      exact hordered htoken hno htokens
    · have hdeclines := hother requested hr hne
      refine ⟨(declined_iff maker hm).mpr hdeclines, fun response hmem => ?_, fun response hmem => ?_⟩
      · apply Option.eq_none_iff_forall_ne_some.mpr
        intro signedOrder ho
        exact (hrfq response signedOrder hmem ho).2.1 hdeclines
      · apply Option.eq_none_iff_forall_ne_some.mpr
        intro order ho
        exact (hsoftQuote response order hmem ho).2.1 hdeclines

end

/-- A run keeps to the tokens it is asked for exactly when every request for another token
than the settlement engine's is one that is declined. -/
theorem run_forRequestedToken_iff (maker : MarketMaker) (turns : List Turn) :
    RunForRequestedToken maker turns ↔
      AllSteps (step maker) (fun s turn => s.status = .running → ∀ quote, turn.message = .ok (some quote) →
        DeclinesOtherToken maker turn quote) State.initial turns := by
  rw [allSteps_iff]
  constructor
  · intro h before turn after he hs quote hm
    have hrunning : (run maker before).status = .running := hs
    apply (selectBranch_forRequestedToken_iff maker hm).mp
    apply h before turn after quote _ he hrunning hm
    rw [run_snoc, step, if_pos hrunning]
  · intro h before turn after quote events he hs hm hevents
    rcases turn_events maker before turn hevents with ⟨_, rfl⟩ | ⟨hended, _⟩
    · exact (selectBranch_forRequestedToken_iff maker hm).mpr (h before turn after he hs quote hm)
    · exact absurd hs hended

/-- The taker sells five of a token at another address, and is offered ten USDC for five
options of the settlement engine. -/
theorem otherToken_offered :
    ¬RunForRequestedToken sampleMaker
      [sampleTurn { sampleRfq .sell 5 with tokenAddress := some (.ofHash (toBytes 20 12)) } sampleRpc] := by
  intro h
  have hturn := h [] _ [] _ _ rfl rfl rfl rfl
  obtain ⟨_, hnone, _⟩ := hturn.otherToken _ rfl (by decide +kernel)
  have hall : ∀ response ∈ (run sampleMaker [sampleTurn { sampleRfq .sell 5 with
      tokenAddress := some (.ofHash (toBytes 20 12)) } sampleRpc]).quoteResponses, response.order = none := by
    intro response hr
    obtain ⟨e, he, hqueued⟩ := List.mem_filterMap.mp hr
    cases e <;> cases hqueued
    exact hnone response he
  exact absurd hall (by decide +kernel)

end TradeInterfaces.Maker
