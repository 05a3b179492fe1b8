import TradeInterfaces.Maker.Answers
import TradeInterfaces.Market.Parties

/-! What the maker replies to the requests a taker sends. -/
namespace TradeInterfaces.Market
open Foundations.Panics Foundations.Effects Foundations.Exchanges Ethers
open Maker (MarketMaker Rpc Stream quoteOrder)
open Taker (Settings Chain)
open Seaport (seaportContractAddress)

/-- The price of five options, both in the soft quote and in the offer. -/
def pricePaid : U256 := 10000000

/-- Five options of an id for the price. -/
def buyOrder (maker : MarketMaker) (id : U256) (rpc : Rpc) : Grpc.Order :=
  quoteOrder maker (Maker.optionOffer maker (some (.ofU256 id)) (some (.ofU256 Taker.amount)))
    (Maker.priceConsideration maker pricePaid) rpc

/-- The price for five options of an id. -/
def sellOrder (maker : MarketMaker) (id : U256) (rpc : Rpc) : Grpc.Order :=
  quoteOrder maker (Maker.priceOffer maker pricePaid)
    (Maker.optionConsideration maker (some (.ofU256 id)) (some (.ofU256 Taker.amount))) rpc

def signed (order : Grpc.Order) (signature : Signature) : Grpc.SignedOrder :=
  ⟨some order, some (.ofSignature signature)⟩

/-- A soft quote is always given. A Buy can remain without an offer, a Sell cannot. What a
Buy offers are the `ids` that receipts report. -/
inductive Replies (maker : MarketMaker) (settings : Settings) (ids : U256 → Prop) : Request → Response → Prop
  | quote (rpc : Rpc) (response : Grpc.SoftQuoteResponse)
      (order : response.order = some (buyOrder maker settings.optionId rpc)) :
      Replies maker settings ids (.softQuote, Taker.buyRfq settings) (.softQuote response)
  | noOffer (response : Grpc.QuoteResponse) (order : response.order = none) :
      Replies maker settings ids (.rfq, Taker.buyRfq settings) (.rfq response)
  | buy (id : U256) (reported : ids id) (rpc : Rpc) (signature : Signature) (response : Grpc.QuoteResponse)
      (order : response.order = some (signed (buyOrder maker id rpc) signature)) :
      Replies maker settings ids (.rfq, Taker.buyRfq settings) (.rfq response)
  | sell (id : U256) (rpc : Rpc) (signature : Signature) (response : Grpc.QuoteResponse)
      (order : response.order = some (signed (sellOrder maker id rpc) signature)) :
      Replies maker settings ids (.rfq, Taker.sellRfq settings id) (.rfq response)

/-- The receipt of a write transaction reports one of these ids if it reports any. -/
def Reports (maker : MarketMaker) (ids : U256 → Prop) (calls : MakerCalls) : Prop :=
  ∀ optionId claimId, Maker.writtenIds maker calls.rpc = some (optionId, claimId) → ids optionId

private theorem response?_of_quiet {e : Maker.Event} (h : e.Quiet) : response? e = none := by
  obtain ⟨hquote, hsoft⟩ := h
  cases e with
  | queueQuote response => cases hquote
  | queueSoftQuote response => cases hsoft
  | _ => rfl

private theorem filterMap_response?_of_quiet {events : List Maker.Event} (h : ∀ e ∈ events, e.Quiet) :
    events.filterMap response? = [] :=
  List.filterMap_eq_nil_iff.mpr fun e he => response?_of_quiet (h e he)

private theorem serve_sends {ρ : Type} {answer : Grpc.QuoteRequest → Maker.Task (Option ρ)}
    {queue : ρ → Maker.Event} {respond : ρ → Response}
    (hqueue : ∀ response, response? (queue response) = some (respond response))
    {quote : Grpc.QuoteRequest} (hquiet : ∀ e ∈ (answer quote).events, e.Quiet) (channelOpen : Bool) :
    let sent := (Maker.serve answer queue (.ok (some quote)) channelOpen).events.filterMap response?
    sent = [] ∨ ∃ response, (answer quote).outcome = .ok (some response) ∧ sent = [respond response] := by
  intro sent
  cases hsup : Maker.supported quote with
  | false => exact .inl (by simp [sent, Maker.serve_of_unsupported answer queue channelOpen hsup])
  | true =>
    rcases Maker.serve_supported_cases answer queue channelOpen hsup with
      ⟨response, hr, _, h⟩ | ⟨outcome, _, _, h⟩
    · refine .inr ⟨response, hr, ?_⟩
      simp [sent, h, filterMap_response?_of_quiet hquiet, hqueue]
    · exact .inl (by simp [sent, h, filterMap_response?_of_quiet hquiet])

variable {maker : MarketMaker}

/-- What the relay sees of a request that the maker takes. -/
theorem serve_cases {m m' : Maker.State} {calls : MakerCalls} {request : Request} {sent : List Response}
    (h : serve maker m calls request = some (m', sent)) :
    sent = [] ∨
    (request.1 = .rfq ∧ ∃ response, sent = [.rfq response] ∧
      (Maker.answerRfq maker calls.rpc (populate calls.ulid request.2)).outcome = .ok (some response)) ∨
    (request.1 = .softQuote ∧ ∃ response, sent = [.softQuote response] ∧
      (Maker.answerSoftQuote maker calls.rpc (populate calls.ulid request.2)).outcome =
        .ok (some response)) := by
  unfold serve at h
  split at h
  swap
  · cases h
  cases h
  obtain ⟨stream, quote⟩ := request
  cases stream with
  | rfq =>
    rcases @serve_sends _ _ Maker.Event.queueQuote _ (fun _ => rfl) _
      (Maker.answerRfq_quiet maker calls.rpc (populate calls.ulid quote)) calls.channelOpen with
      hnone | ⟨response, hr, hsent⟩
    · exact .inl hnone
    · exact .inr (.inl ⟨rfl, response, hsent, hr⟩)
  | softQuote =>
    rcases @serve_sends _ _ Maker.Event.queueSoftQuote _ (fun _ => rfl) _
      (Maker.answerSoftQuote_quiet maker calls.rpc (populate calls.ulid quote)) calls.channelOpen with
      hnone | ⟨response, hr, hsent⟩
    · exact .inl hnone
    · exact .inr (.inr ⟨rfl, response, hsent, hr⟩)

/-- The response is the answer of the handler of the request's stream, under a ulid and
outcomes of the calls. -/
inductive GivenTo (maker : MarketMaker) : Request → Response → Prop
  | rfq (ulid : Grpc.H128) (rpc : Rpc) {quote : Grpc.QuoteRequest} {response : Grpc.QuoteResponse}
      (h : (Maker.answerRfq maker rpc (populate ulid quote)).outcome = .ok (some response)) :
      GivenTo maker (.rfq, quote) (.rfq response)
  | softQuote (ulid : Grpc.H128) (rpc : Rpc) {quote : Grpc.QuoteRequest} {response : Grpc.SoftQuoteResponse}
      (h : (Maker.answerSoftQuote maker rpc (populate ulid quote)).outcome = .ok (some response)) :
      GivenTo maker (.softQuote, quote) (.softQuote response)

theorem serve_given {m m' : Maker.State} {calls : MakerCalls} {request : Request} {response : Response}
    (h : serve maker m calls request = some (m', [response])) : GivenTo maker request response := by
  obtain ⟨stream, quote⟩ := request
  rcases serve_cases h with hnone | ⟨rfl, offer, hsent, hout⟩ | ⟨rfl, soft, hsent, hout⟩
  · cases hnone
  · cases hsent
    exact .rfq calls.ulid calls.rpc hout
  · cases hsent
    exact .softQuote calls.ulid calls.rpc hout

/-- What the taker can rely on in a response: whose answer it is, and its terms. -/
structure Reply (maker : MarketMaker) (settings : Settings) (ids : U256 → Prop) (request : Request)
    (response : Response) : Prop where
  given : GivenTo maker request response
  terms : Replies maker settings ids request response

private theorem ofI32_toI32 (action : Grpc.Action) : Grpc.Action.ofI32 action.toI32 = action := by
  cases action <;> decide

private theorem amount_toU256 : (Grpc.H256.ofU256 Taker.amount).toU256 ≠ 0 := by
  rw [Grpc.H256.toU256_ofU256]
  decide +kernel

section
variable (settings : Settings) (id : U256) {action : Grpc.Action} (h : action ≠ .invalid) (ulid : Grpc.H128)
include h

/-- Every request of the taker is considered once the API gave it its ulid. -/
theorem validRfq_quoteRequest :
    Maker.ValidRfq seaportContractAddress (populate ulid (Taker.quoteRequest settings id action)) where
  ulid := rfl
  itemType := (by decide : Grpc.ItemType.ofI32 Grpc.ItemType.erc1155.toI32 = .erc1155)
  tokenAddress := rfl
  identifier := rfl
  amount := ⟨_, rfl, amount_toU256⟩
  action := fun hinvalid => h ((ofI32_toI32 action).symm.trans hinvalid)
  seaport := ⟨_, rfl, Grpc.H160.toHash_ofHash _⟩

private theorem validSoftQuote_quoteRequest :
    Maker.ValidSoftQuote (populate ulid (Taker.quoteRequest settings id action)) where
  tokenAddress := rfl
  identifier := rfl
  amount := ⟨_, rfl, amount_toU256⟩
  action := by
    change Grpc.Action.ofI32 action.toI32 = .buy ∨ Grpc.Action.ofI32 action.toI32 = .sell
    rw [ofI32_toI32]
    cases action with
    | invalid => exact absurd rfl h
    | buy => exact .inl rfl
    | sell => exact .inr rfl

end

theorem answerRfq_buy {settings : Settings} {rpc : Rpc} {ulid : Grpc.H128} {response : Grpc.QuoteResponse}
    (h : (Maker.answerRfq maker rpc (populate ulid (Taker.buyRfq settings))).outcome = .ok (some response)) :
    (Maker.writtenIds maker rpc = none ∧ response.order = none) ∨
    ∃ optionId claimId signature, Maker.writtenIds maker rpc = some (optionId, claimId) ∧
      response.order = some (signed (buyOrder maker optionId rpc) signature) := by
  have ha := Maker.answerRfq_answered maker rpc (populate ulid (Taker.buyRfq settings))
  generalize Maker.answerRfq maker rpc (populate ulid (Taker.buyRfq settings)) = task at h ha
  cases ha with
  | malformed invalid => exact absurd (validRfq_quoteRequest settings _ (by decide) ulid) invalid
  | handled valid identifier requested handled =>
    cases handled with
    | overflow action large => cases h
    | noOffer action fits ids =>
      cases h
      exact .inl ⟨ids, rfl⟩
    | unsigned sides fails quiet => cases h
    | offer sides answers =>
      cases h
      cases sides with
      | buy action fits ids => exact .inr ⟨_, _, _, ids, rfl⟩
      | sell action => cases (ofI32_toI32 .buy).symm.trans action

theorem answerRfq_sell {settings : Settings} {id : U256} {rpc : Rpc} {ulid : Grpc.H128}
    {response : Grpc.QuoteResponse}
    (h : (Maker.answerRfq maker rpc (populate ulid (Taker.sellRfq settings id))).outcome =
      .ok (some response)) :
    ∃ signature, response.order = some (signed (sellOrder maker id rpc) signature) := by
  have ha := Maker.answerRfq_answered maker rpc (populate ulid (Taker.sellRfq settings id))
  generalize Maker.answerRfq maker rpc (populate ulid (Taker.sellRfq settings id)) = task at h ha
  cases ha with
  | malformed invalid => exact absurd (validRfq_quoteRequest settings _ (by decide) ulid) invalid
  | handled valid identifier requested handled =>
    cases identifier
    cases handled with
    | overflow action large => cases (ofI32_toI32 .sell).symm.trans action
    | noOffer action fits ids => cases (ofI32_toI32 .sell).symm.trans action
    | unsigned sides fails quiet => cases h
    | offer sides answers =>
      cases h
      cases sides with
      | buy action fits ids => cases (ofI32_toI32 .sell).symm.trans action
      | sell action => exact ⟨_, by rw [Grpc.H256.toU256_ofU256]; rfl⟩

theorem answerSoftQuote_buy {settings : Settings} {rpc : Rpc} {ulid : Grpc.H128}
    {response : Grpc.SoftQuoteResponse}
    (h : (Maker.answerSoftQuote maker rpc (populate ulid (Taker.buyRfq settings))).outcome =
      .ok (some response)) :
    response.order = some (buyOrder maker settings.optionId rpc) := by
  have ha := Maker.answerSoftQuote_answered maker rpc (populate ulid (Taker.buyRfq settings))
  generalize Maker.answerSoftQuote maker rpc (populate ulid (Taker.buyRfq settings)) = task at h ha
  cases ha with
  | malformed invalid => exact absurd (validSoftQuote_quoteRequest settings _ (by decide) ulid) invalid
  | failed valid chainId => cases h
  | offer valid chainId items =>
    cases h
    cases items
    rfl

/-! The maker replies to every request of the taker when the calls for it are answered. -/

/-- The calls made for a request are answered, and the channel takes the response. -/
structure MakerCalls.Answered (calls : MakerCalls) : Prop where
  rpc : Maker.Answers calls.rpc
  channelOpen : calls.channelOpen = true

private theorem amount_small : (Grpc.H256.ofU256 Taker.amount).toU256.toNat < 2^128 := by
  rw [Grpc.H256.toU256_ofU256]
  decide +kernel

section
variable (maker) (settings : Settings) (id : U256) (action : Grpc.Action) (ulid : Grpc.H128) {rpc : Rpc}

theorem answerRfq_returns (h : action ≠ .invalid) (hrpc : Maker.Answers rpc) : ∃ response,
    (Maker.answerRfq maker rpc (populate ulid (Taker.quoteRequest settings id action))).outcome =
      .ok (some response) := by
  have ha := Maker.answerRfq_answered maker rpc (populate ulid (Taker.quoteRequest settings id action))
  generalize Maker.answerRfq maker rpc (populate ulid (Taker.quoteRequest settings id action)) = task at ha ⊢
  cases ha with
  | malformed invalid => exact absurd (validRfq_quoteRequest settings id h ulid) invalid
  | handled valid identifier requested handled =>
    cases requested
    cases handled with
    | overflow action large => exact absurd large (Nat.not_le.mpr amount_small)
    | noOffer action fits ids => exact ⟨_, rfl⟩
    | unsigned sides fails quiet => exact absurd hrpc fails
    | offer sides answers => exact ⟨_, rfl⟩

theorem answerSoftQuote_returns (hrpc : Maker.Answers rpc) : ∃ response,
    (Maker.answerSoftQuote maker rpc (populate ulid (Taker.quoteRequest settings id action))).outcome =
      .ok (some response) := by
  have ha := Maker.answerSoftQuote_answered maker rpc (populate ulid (Taker.quoteRequest settings id action))
  generalize Maker.answerSoftQuote maker rpc (populate ulid (Taker.quoteRequest settings id action)) = task at ha ⊢
  cases ha with
  | malformed invalid => exact ⟨_, rfl⟩
  | failed valid chainId =>
    rw [hrpc.getChainid] at chainId
    cases chainId
  | offer valid chainId items => exact ⟨_, rfl⟩

end

private theorem step_next {m : Maker.State} (hm : m.status = .running) {turn : Maker.Turn}
    {events : List Maker.Event} (h : Maker.selectBranch maker turn = ⟨.ok .next, events⟩) :
    (Maker.step maker m turn).status = .running := by
  rw [Maker.step, if_pos hm, h]

private theorem serve_answer {ρ : Type} {answer : Grpc.QuoteRequest → Maker.Task (Option ρ)}
    {queue : ρ → Maker.Event} {respond : ρ → Response}
    (hqueue : ∀ response, response? (queue response) = some (respond response)) {quote : Grpc.QuoteRequest}
    (hquiet : ∀ e ∈ (answer quote).events, e.Quiet) {response : ρ}
    (hr : (answer quote).outcome = .ok (some response)) (hsup : Maker.supported quote = true) :
    ∃ events, Maker.serve answer queue (.ok (some quote)) true = ⟨.ok .next, events⟩ ∧
      events.filterMap response? = [respond response] := by
  refine ⟨(answer quote).events ++ [queue response], ?_, ?_⟩
  · simp only [Maker.serve_of_supported answer queue true hsup, hr, if_true]
  · simp [filterMap_response?_of_quiet hquiet, hqueue]

section
variable {m : Maker.State} (hm : m.status = .running) {calls : MakerCalls} (hopen : calls.channelOpen = true)
  {quote : Grpc.QuoteRequest} (hsup : Maker.supported (populate calls.ulid quote) = true)
include hm hopen hsup

theorem serve_rfq {response : Grpc.QuoteResponse}
    (hr : (Maker.answerRfq maker calls.rpc (populate calls.ulid quote)).outcome = .ok (some response)) :
    ∃ m', serve maker m calls (.rfq, quote) = some (m', [.rfq response]) ∧ m'.status = .running := by
  obtain ⟨events, hserve, hsent⟩ := @serve_answer _ _ Maker.Event.queueQuote _ (fun _ => rfl) _
    (Maker.answerRfq_quiet maker calls.rpc (populate calls.ulid quote)) _ hr hsup
  have hbranch : Maker.selectBranch maker (calls.turn (.rfq, quote)) = ⟨.ok .next, events⟩ := by
    rw [← hserve, ← hopen]
    rfl
  refine ⟨_, ?_, step_next hm hbranch⟩
  rw [serve, if_pos hm, hbranch, hsent]

theorem serve_softQuote {response : Grpc.SoftQuoteResponse}
    (hr : (Maker.answerSoftQuote maker calls.rpc (populate calls.ulid quote)).outcome = .ok (some response)) :
    ∃ m', serve maker m calls (.softQuote, quote) = some (m', [.softQuote response]) ∧ m'.status = .running := by
  obtain ⟨events, hserve, hsent⟩ := @serve_answer _ _ Maker.Event.queueSoftQuote _ (fun _ => rfl) _
    (Maker.answerSoftQuote_quiet maker calls.rpc (populate calls.ulid quote)) _ hr hsup
  have hbranch : Maker.selectBranch maker (calls.turn (.softQuote, quote)) = ⟨.ok .next, events⟩ := by
    rw [← hserve, ← hopen]
    rfl
  refine ⟨_, ?_, step_next hm hbranch⟩
  rw [serve, if_pos hm, hbranch, hsent]

end

/-! A schedule in which the first write reports no ids. -/

def sampleMakerCalls (rpc : Rpc) : MakerCalls := ⟨⟨0, 1⟩, rpc, true⟩

def sampleTakerCalls : TakerCalls := ⟨.ok (), .succeeded, .ok (), .ok (), true⟩

/-- The receipt of the write is missing. -/
def sampleRpcUnwritten : Rpc := { Maker.sampleRpc with pendingTx := .ok none }

def sampleSchedule : Schedule :=
  [.serve 0 (sampleMakerCalls Maker.sampleRpc), .read 0 sampleTakerCalls,
    .serve 0 (sampleMakerCalls sampleRpcUnwritten), .read 0 sampleTakerCalls,
    .serve 0 (sampleMakerCalls Maker.sampleRpc), .read 0 sampleTakerCalls,
    .serve 0 (sampleMakerCalls Maker.sampleRpc), .read 0 sampleTakerCalls]

theorem reports_sampleRpc : Reports Maker.sampleMaker (· = 42) (sampleMakerCalls Maker.sampleRpc) := by
  intro optionId claimId h
  have hids : Maker.writtenIds Maker.sampleMaker Maker.sampleRpc = some (42, 43) := by decide +kernel
  cases hids.symm.trans h
  rfl

theorem reports_sampleRpcUnwritten : Reports Maker.sampleMaker (· = 42) (sampleMakerCalls sampleRpcUnwritten) :=
  fun _ _ h => by cases h

end TradeInterfaces.Market
