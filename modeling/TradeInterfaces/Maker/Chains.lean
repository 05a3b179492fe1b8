import TradeInterfaces.Maker.Accounts
import TradeInterfaces.Maker.Crashes

/-! The chains of a request, of its answer and of the provider. The loop accepts two
chains, and the handlers act on the provider's. -/
namespace TradeInterfaces.Maker
open Foundations.BigEndian Foundations.Panics Foundations.Effects Ethers
open Seaport (seaportContractAddress)
open Foundations.Runs (AllSteps allSteps_iff)

/-- Writing options and signing are done on the provider's chain. -/
def Event.actsOnChain : Event → Bool
  | .sendTransaction _ | .optionsWritten .. | .signHash _ => true
  | .getOrderHash _ | .queueQuote _ | .queueSoftQuote _ => false

/-- Answers carry the chain id of the request, and nothing is done on another chain. -/
structure OnRequestedChain (maker : MarketMaker) (quote : Grpc.QuoteRequest) (events : List Event) : Prop where
  quotes : ∀ response, .queueQuote response ∈ events →
    response.chainId.map Grpc.H256.toU256 = quote.chainId.map Grpc.H256.toU256
  softQuotes : ∀ response, .queueSoftQuote response ∈ events →
    response.chainId.map Grpc.H256.toU256 = quote.chainId.map Grpc.H256.toU256
  acts : (∃ e ∈ events, e.actsOnChain) → quote.chainId.map Grpc.H256.toU256 = some maker.chainId

/-- A request that is processed: it passes the checks of its stream, and its amount does
not stop the write. -/
def Processed (stream : Stream) (quote : Grpc.QuoteRequest) : Prop :=
  supported quote = true ∧ match stream with
  | .rfq => (validateRfq seaportContractAddress quote).isSome ∧
      ¬(Grpc.Action.ofI32 quote.action = .buy ∧ ∃ amount, quote.amount = some amount ∧ 2^128 ≤ amount.toU256.toNat)
  | .softQuote => (validateSoftQuote quote).isSome

/-- A request that is processed names the chain of the provider. -/
def NamesProviderChain (maker : MarketMaker) (stream : Stream) (quote : Grpc.QuoteRequest) : Prop :=
  Processed stream quote → quote.chainId.map Grpc.H256.toU256 = some maker.chainId

/-- The calls made before an order is signed succeed. -/
structure Signs (rpc : Rpc) : Prop where
  getCounter : ∃ counter, rpc.getCounter = .ok counter
  getOrderHash : ∃ orderHash, rpc.getOrderHash = .ok orderHash
  information : ∃ domainSeparator, rpc.information = .ok domainSeparator

/-- How far the handling of a processed request gets: a Buy sends the write, a Sell comes to
its signature, and a soft quote is sent. -/
def ComesToAct (turn : Turn) (quote : Grpc.QuoteRequest) : Prop :=
  match turn.stream with
  | .rfq => Grpc.Action.ofI32 quote.action = .buy ∨ Signs turn.rpc
  | .softQuote => turn.rpc.getChainid = .ok () ∧ turn.channelOpen = true

/-- A request for which something is done names the chain of the provider. -/
def StaysOnChain (maker : MarketMaker) (turn : Turn) : Prop :=
  ∀ quote, turn.message = .ok (some quote) → Processed turn.stream quote → ComesToAct turn quote →
    quote.chainId.map Grpc.H256.toU256 = some maker.chainId

/-- Whatever a turn of a run adds to the log is done on the chain of its request. -/
def RunOnRequestedChain (maker : MarketMaker) (turns : List Turn) : Prop :=
  ∀ before turn after quote events, turns = before ++ turn :: after → turn.message = .ok (some quote) →
    (run maker (before ++ [turn])).events = (run maker before).events ++ events →
    OnRequestedChain maker quote events

section
variable {maker : MarketMaker} {rpc : Rpc} {quote : Grpc.QuoteRequest}

private theorem writing_acts_iff :
    (∃ e ∈ writing maker rpc quote, e.actsOnChain) ↔ (purchase? quote).isSome := by
  unfold writing
  cases purchase? quote with
  | none => simp
  | some bought => exact ⟨fun _ => rfl, fun _ => ⟨_, List.mem_cons_self, rfl⟩⟩

private theorem signing_acts_iff {sides? : Option (Grpc.OfferItem × Grpc.ConsiderationItem)} :
    (∃ e ∈ signing maker rpc sides?, e.actsOnChain) ↔ sides?.isSome ∧ Signs rpc := by
  constructor
  · rintro ⟨e, he, hacts⟩
    rcases @signing_cases maker rpc sides? with
      h | ⟨_, _, counter, rfl, hc, h | ⟨orderHash, domainSeparator, hh, hi, _⟩⟩
    · rw [h] at he
      cases he
    · rw [h] at he
      rw [List.mem_singleton.mp he] at hacts
      cases hacts
    · exact ⟨rfl, ⟨counter, hc⟩, ⟨orderHash, hh⟩, ⟨domainSeparator, hi⟩⟩
  · rintro ⟨hsides, ⟨counter, hc⟩, ⟨orderHash, hh⟩, ⟨domainSeparator, hi⟩⟩
    obtain ⟨sides, rfl⟩ := Option.isSome_iff_exists.mp hsides
    rw [signing, hc, hh, hi]
    exact ⟨_, List.mem_cons_of_mem _ List.mem_cons_self, rfl⟩

private theorem purchase?_isSome_iff (hsup : supported quote = true) :
    (purchase? quote).isSome ↔ Processed .rfq quote ∧ Grpc.Action.ofI32 quote.action = .buy := by
  constructor
  · intro h
    obtain ⟨bought, hp⟩ := Option.isSome_iff_exists.mp h
    obtain ⟨hvalid, hb, _, amount, _, ha, _, hn⟩ := purchase?_eq_some hp
    refine ⟨⟨hsup, validateRfq_isSome_iff.mpr hvalid, ?_⟩, hb⟩
    rintro ⟨_, amount', ha', hlarge⟩
    rw [ha] at ha'
    cases ha'
    exact absurd (toNat_lt_of_asU128 hn) (Nat.not_lt.mpr hlarge)
  · rintro ⟨⟨_, hv, hfits⟩, hb⟩
    have hvalid := validateRfq_isSome_iff.mp hv
    obtain ⟨id, hi⟩ := Option.isSome_iff_exists.mp hvalid.identifier
    obtain ⟨amount, ha, _⟩ := hvalid.amount
    have hlt : amount.toU256.toNat < 2^128 := Nat.lt_of_not_le fun hlarge => hfits ⟨hb, amount, ha, hlarge⟩
    have hn : asU128 amount.toU256 = .ok _ := if_pos hlt
    simp [purchase?, hv, hb, hi, ha, hn, Except.toOption]

/-- On the RFQ stream the maker acts for the processed Buys, and for the processed Sells
whose signature is reached. -/
theorem answerRfq_acts_iff (maker : MarketMaker) (rpc : Rpc) (hsup : supported quote = true) :
    (∃ e ∈ (answerRfq maker rpc quote).events, e.actsOnChain) ↔
      Processed .rfq quote ∧ (Grpc.Action.ofI32 quote.action = .buy ∨ Signs rpc) := by
  have hacts : (∃ e ∈ (answerRfq maker rpc quote).events, e.actsOnChain) ↔
      (purchase? quote).isSome ∨ (offer? maker rpc quote).isSome ∧ Signs rpc := by
    rw [answerRfq_account]
    simp only [List.mem_append, or_and_right, exists_or, writing_acts_iff, signing_acts_iff]
  rw [hacts]
  constructor
  · rintro (hp | ⟨ho, hsigns⟩)
    · exact ((purchase?_isSome_iff hsup).mp hp).imp_right .inl
    · obtain ⟨⟨offered, considered⟩, ho⟩ := Option.isSome_iff_exists.mp ho
      rcases offer?_eq_some ho with ⟨_, _, _, _, hp, _⟩ | ⟨hs, hvalid, _⟩
      · exact ⟨((purchase?_isSome_iff hsup).mp (by rw [hp]; rfl)).1, .inr hsigns⟩
      · refine ⟨⟨hsup, validateRfq_isSome_iff.mpr hvalid, fun hlarge => ?_⟩, .inr hsigns⟩
        rw [hs] at hlarge
        cases hlarge.1
  · rintro ⟨hp, hb | hsigns⟩
    · exact .inl ((purchase?_isSome_iff hsup).mpr ⟨hp, hb⟩)
    · have hvalid := validateRfq_isSome_iff.mp hp.2.1
      cases hact : Grpc.Action.ofI32 quote.action with
      | buy => exact .inl ((purchase?_isSome_iff hsup).mpr ⟨hp, hact⟩)
      | sell =>
        obtain ⟨id, hi⟩ := Option.isSome_iff_exists.mp hvalid.identifier
        refine .inr ⟨?_, hsigns⟩
        simp [offer?, hp.2.1, hact, hi]
      | invalid => exact absurd hact hvalid.action

/-- A response names the chain of its request, or that of the provider once an order was
signed there. -/
theorem answerRfq_chainId {response : Grpc.QuoteResponse}
    (h : (answerRfq maker rpc quote).outcome = .ok (some response)) :
    response.chainId = quote.chainId ∨ response.chainId = some (.ofU256 maker.chainId) ∧
      ∃ e ∈ (answerRfq maker rpc quote).events, e.actsOnChain := by
  have ha := answerRfq_answered maker rpc quote
  generalize answerRfq maker rpc quote = task at h ha
  cases ha with
  | malformed invalid =>
    cases h
    exact .inl rfl
  | handled valid identifier requested handled =>
    cases handled with
    | overflow action large => cases h
    | noOffer action fits ids =>
      cases h
      exact .inl rfl
    | unsigned sides fails quiet => cases h
    | @offer _ _ before components hash sides answers =>
      cases h
      exact .inr ⟨rfl, .signHash hash, List.mem_append_right _ (by simp), rfl⟩

private theorem answerSoftQuote_chainId (hsup : supported quote = true) {response : Grpc.SoftQuoteResponse}
    (h : (answerSoftQuote maker rpc quote).outcome = .ok (some response)) :
    response.chainId = quote.chainId ∨ Processed .softQuote quote ∧ rpc.getChainid = .ok () ∧
      response.chainId = some (.ofU256 maker.chainId) := by
  have ha := answerSoftQuote_answered maker rpc quote
  generalize answerSoftQuote maker rpc quote = task at h ha
  cases ha with
  | malformed invalid =>
    cases h
    exact .inl rfl
  | failed valid chainId => cases h
  | offer valid chainId items =>
    cases h
    exact .inr ⟨⟨hsup, validateSoftQuote_isSome_iff.mpr valid⟩, chainId, rfl⟩

private theorem answerSoftQuote_processed (maker : MarketMaker) (h : Processed .softQuote quote)
    (hid : rpc.getChainid = .ok ()) : ∃ response,
    (answerSoftQuote maker rpc quote).outcome = .ok (some response) ∧
      response.chainId = some (.ofU256 maker.chainId) := by
  have ha := answerSoftQuote_answered maker rpc quote
  generalize answerSoftQuote maker rpc quote = task at ha
  cases ha with
  | malformed invalid => exact absurd (validateSoftQuote_isSome_iff.mp h.2) invalid
  | failed valid chainId =>
    rw [hid] at chainId
    cases chainId
  | offer valid chainId items => exact ⟨_, rfl, rfl⟩

private theorem onRequestedChain_nil (maker : MarketMaker) (quote : Grpc.QuoteRequest) :
    OnRequestedChain maker quote [] := by
  constructor
  · intro _ h
    cases h
  · intro _ h
    cases h
  · rintro ⟨_, h, _⟩
    cases h

private theorem rfq_onRequestedChain_iff (maker : MarketMaker) (rpc : Rpc) (hsup : supported quote = true)
    (channelOpen : Bool) :
    OnRequestedChain maker quote
      (serve (answerRfq maker rpc) .queueQuote (.ok (some quote)) channelOpen).events ↔
    (Processed .rfq quote → Grpc.Action.ofI32 quote.action = .buy ∨ Signs rpc →
      quote.chainId.map Grpc.H256.toU256 = some maker.chainId) := by
  have hacts := answerRfq_acts_iff maker rpc hsup
  constructor
  · intro h hp hcomes
    obtain ⟨e, he, hacts⟩ := hacts.mpr ⟨hp, hcomes⟩
    exact h.acts ⟨e, (mem_serve_iff _ _ _ _ _).mpr ⟨hsup, .inl he⟩, hacts⟩
  · intro h
    constructor
    · intro response hmem
      rcases ((mem_serve_iff _ _ _ _ _).mp hmem).2 with he | ⟨_, response', hr, he⟩
      · cases (answerRfq_quiet maker rpc quote _ he).1
      · cases he
        rcases answerRfq_chainId hr with hid | ⟨hid, hdone⟩
        · rw [hid]
        · obtain ⟨hp, hcomes⟩ := hacts.mp hdone
          rw [hid, h hp hcomes]
          simp
    · intro response hmem
      rcases ((mem_serve_iff _ _ _ _ _).mp hmem).2 with he | ⟨_, response', hr, he⟩
      · cases (answerRfq_quiet maker rpc quote _ he).2
      · cases he
    · rintro ⟨e, hmem, hdone⟩
      rcases ((mem_serve_iff _ _ _ _ _).mp hmem).2 with he | ⟨_, response', hr, rfl⟩
      · obtain ⟨hp, hcomes⟩ := hacts.mp ⟨e, he, hdone⟩
        exact h hp hcomes
      · cases hdone

private theorem softQuote_onRequestedChain_iff (maker : MarketMaker) (rpc : Rpc) (hsup : supported quote = true)
    (channelOpen : Bool) :
    OnRequestedChain maker quote
      (serve (answerSoftQuote maker rpc) .queueSoftQuote (.ok (some quote)) channelOpen).events ↔
    (Processed .softQuote quote → rpc.getChainid = .ok () ∧ channelOpen = true →
      quote.chainId.map Grpc.H256.toU256 = some maker.chainId) := by
  constructor
  · rintro h hp ⟨hid, hopen⟩
    obtain ⟨response, hr, hresponse⟩ := answerSoftQuote_processed maker hp hid
    rw [← h.softQuotes response ((mem_serve_iff _ _ _ _ _).mpr ⟨hsup, .inr ⟨hopen, response, hr, rfl⟩⟩), hresponse]
    simp
  · intro h
    constructor
    · intro response hmem
      rcases ((mem_serve_iff _ _ _ _ _).mp hmem).2 with he | ⟨_, response', hr, he⟩
      · rw [answerSoftQuote_events] at he
        cases he
      · cases he
    · intro response hmem
      rcases ((mem_serve_iff _ _ _ _ _).mp hmem).2 with he | ⟨hopen, response', hr, he⟩
      · rw [answerSoftQuote_events] at he
        cases he
      · cases he
        rcases answerSoftQuote_chainId hsup hr with hid | ⟨hp, hcall, hid⟩
        · rw [hid]
        · rw [hid, h hp ⟨hcall, hopen⟩]
          simp
    · rintro ⟨e, hmem, hdone⟩
      rcases ((mem_serve_iff _ _ _ _ _).mp hmem).2 with he | ⟨_, response', hr, rfl⟩
      · rw [answerSoftQuote_events] at he
        cases he
      · cases hdone

/-- A turn stays on the chain of its request exactly when the request names the provider's
chain, or the handling does not come to act on it. -/
theorem turn_onRequestedChain_iff (maker : MarketMaker) (turn : Turn) :
    (∀ quote, turn.message = .ok (some quote) → OnRequestedChain maker quote (selectBranch maker turn).events) ↔
      StaysOnChain maker turn := by
  obtain ⟨stream, message, rpc, channelOpen⟩ := turn
  refine forall_congr' fun quote => forall_congr' fun hm => ?_
  cases hm
  cases hsup : supported quote with
  | false =>
    have hnone : (selectBranch maker ⟨stream, .ok (some quote), rpc, channelOpen⟩).events = [] := by
      cases stream <;> exact congrArg Proc.events (serve_of_unsupported _ _ _ hsup)
    rw [hnone]
    refine iff_of_true (onRequestedChain_nil maker quote) fun hp => ?_
    cases hsup.symm.trans hp.1
  | true =>
    cases stream with
    | rfq => exact rfq_onRequestedChain_iff maker rpc hsup channelOpen
    | softQuote => exact softQuote_onRequestedChain_iff maker rpc hsup channelOpen

private theorem sampleRpc_signs : Signs sampleRpc := ⟨⟨_, rfl⟩, ⟨_, rfl⟩, ⟨_, rfl⟩⟩

/-- Under all outcomes of the calls: exactly when it is not processed or names the
provider's chain. -/
theorem selectBranch_onRequestedChain_iff (maker : MarketMaker) (stream : Stream) (quote : Grpc.QuoteRequest) :
    (∀ rpc channelOpen, OnRequestedChain maker quote
      (selectBranch maker ⟨stream, .ok (some quote), rpc, channelOpen⟩).events) ↔
      NamesProviderChain maker stream quote := by
  have hturn (rpc : Rpc) (channelOpen : Bool) :=
    turn_onRequestedChain_iff maker ⟨stream, .ok (some quote), rpc, channelOpen⟩
  constructor
  · intro h hp
    refine (hturn sampleRpc true).mp (fun _ hm => ?_) quote rfl hp ?_
    · cases hm
      exact h sampleRpc true
    · cases stream with
      | rfq => exact .inr sampleRpc_signs
      | softQuote => exact ⟨rfl, rfl⟩
  · intro h rpc channelOpen
    refine (hturn rpc channelOpen).mpr (fun _ hm hp _ => ?_) quote rfl
    cases hm
    exact h hp

/-- A run stays on the chains of its requests exactly when each of its turns does. -/
theorem run_onRequestedChain_iff (maker : MarketMaker) (turns : List Turn) :
    RunOnRequestedChain maker turns ↔
      AllSteps (step maker) (fun s turn => s.status = .running → StaysOnChain maker turn) State.initial turns := by
  rw [allSteps_iff]
  constructor
  · intro h before turn after he hs
    refine (turn_onRequestedChain_iff maker turn).mp fun quote hm => h before turn after quote _ he hm ?_
    rw [run_snoc, step, if_pos (show (run maker before).status = .running from hs)]
  · intro h before turn after quote events he hm hevents
    rcases turn_events maker before turn hevents with ⟨hs, rfl⟩ | ⟨_, rfl⟩
    · exact (turn_onRequestedChain_iff maker turn).mpr (h before turn after he hs) quote hm
    · exact onRequestedChain_nil maker quote

end

/-- The maker stays on the chain it was asked about, under all outcomes of the calls, for
exactly those requests that name the provider's chain or are not processed, and so in every
run of such requests. With its outcomes given, a run does so exactly when each request for
which the maker comes to act names the provider's chain. -/
theorem maker_onRequestedChain (maker : MarketMaker) :
    (∀ stream quote, (∀ rpc channelOpen, OnRequestedChain maker quote
      (selectBranch maker ⟨stream, .ok (some quote), rpc, channelOpen⟩).events) ↔
        NamesProviderChain maker stream quote) ∧
    (∀ turns, AllSteps (step maker) (fun s turn => s.status = .running → ∀ quote,
      turn.message = .ok (some quote) → NamesProviderChain maker turn.stream quote) State.initial turns →
      RunOnRequestedChain maker turns) ∧
    ∀ turns, RunOnRequestedChain maker turns ↔
      AllSteps (step maker) (fun s turn => s.status = .running → StaysOnChain maker turn) State.initial turns := by
  refine ⟨selectBranch_onRequestedChain_iff maker, ?_, run_onRequestedChain_iff maker⟩
  intro turns hall
  refine (run_onRequestedChain_iff maker turns).mpr (allSteps_iff.mpr fun before turn after he hs quote hm hp _ => ?_)
  exact allSteps_iff.mp hall before turn after he hs quote hm hp

/-- The taker asks for chain 31337, and the answer is signed on 421614 and says so. -/
theorem maker_leaves_requestedChain :
    ¬RunOnRequestedChain sampleMaker
      [sampleTurn { sampleRfq .sell 5 with chainId := some (.ofU256 31337) } sampleRpc] := by
  intro h
  have hturn := h [] _ [] _ _ rfl rfl rfl
  have hsame : ∀ response ∈ (run sampleMaker [sampleTurn { sampleRfq .sell 5 with
      chainId := some (.ofU256 31337) } sampleRpc]).quoteResponses,
      response.chainId.map Grpc.H256.toU256 = some 31337 := by
    intro response hr
    obtain ⟨e, he, hqueued⟩ := List.mem_filterMap.mp hr
    cases e <;> cases hqueued
    rw [hturn.quotes response he]
    decide +kernel
  exact absurd hsame (by decide +kernel)

end TradeInterfaces.Maker
