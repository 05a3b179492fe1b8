import TradeInterfaces.Market.Settlement
import TradeInterfaces.Market.Turns

/-! The trade comes to its end: the taker buys and sells back when its requests and the
maker's replies get through, however long a write takes to succeed. -/
namespace TradeInterfaces.Market
open Foundations.Effects Foundations.Exchanges Foundations.Runs Ethers
open Maker (MarketMaker)
open Taker (Settings Chain buyRfq sellRfq)

inductive Delivery where
  | serve | read
  deriving DecidableEq

/-- The delivery of the message in flight. -/
def delivery : Label TakerCalls MakerCalls Elsewhere → Option Delivery
  | .serve 0 _ => some .serve
  | .read 0 _ => some .read
  | _ => none

/-- Maker and taker are awaited in turn. -/
def awaited (rank : Nat) : Delivery := if rank % 2 = 0 then .serve else .read

/-- A write that reports no ids leaves a Buy without an offer. -/
def unwritten (maker : MarketMaker) : Label TakerCalls MakerCalls Elsewhere → Bool
  | .serve _ calls => (Maker.writtenIds maker calls.rpc).isNone
  | _ => false

/-- Messages get through and calls succeed, but for the receipts of writes. Others do not
make the maker leave its loop. -/
def GetsThrough (maker : MarketMaker) (settings : Settings) (n : Relay) :
    Label TakerCalls MakerCalls Elsewhere → Prop
  | .read _ calls => calls.Succeeds
  | .serve _ calls => calls.Answered ∧ Reports maker (· = settings.optionId) calls
  | .attend other => (attend maker n.server other).status = .running
  | _ => False

structure Buying (settings : Settings) (t : Taker.State) : Prop where
  running : t.status = .running
  phase : t.sellRfq = false
  events : ∃ buys, t.events = List.replicate (buys + 1) (.sendRfq (buyRfq settings))

/-- What the taker did until it owned the options. -/
def Purchased (maker : MarketMaker) (settings : Settings) (events : List Taker.Event) : Prop :=
  ∃ buys purchase, Bought maker settings.optionId purchase ∧
    events = List.replicate (buys + 1) (.sendRfq (buyRfq settings)) ++
      [.fulfillOrder false (Taker.fulfillTx purchase) .succeeded, .sendRfq (sellRfq settings settings.optionId)]

structure Selling (maker : MarketMaker) (settings : Settings) (t : Taker.State) : Prop where
  running : t.status = .running
  phase : t.sellRfq = true
  events : Purchased maker settings t.events

/-- The options are sold back, after one purchase and one sale. -/
structure Closed (maker : MarketMaker) (settings : Settings) (t : Taker.State) : Prop where
  exited : t.status = .exited .soldBack
  events : ∃ before sale, Purchased maker settings before ∧ SoldBack maker settings.optionId sale ∧
    t.events = before ++ [.fulfillOrder true (Taker.fulfillTx sale) .succeeded]

/-- How far the trade is, by the number of deliveries it takes at least until its end. -/
inductive Stage (maker : MarketMaker) (settings : Settings) : Nat → Relay → Prop
  | quoteAsked {m : Maker.State} (hm : m.status = .running) :
      Stage maker settings 6
        ⟨⟨Taker.SoftState.initial settings, none⟩, m, [(.softQuote, buyRfq settings)], []⟩
  | quoted {m : Maker.State} (hm : m.status = .running) {response : Grpc.SoftQuoteResponse} {rpc : Maker.Rpc}
      (order : response.order = some (buyOrder maker settings.optionId rpc)) :
      Stage maker settings 5 ⟨⟨Taker.SoftState.initial settings, none⟩, m, [], [.softQuote response]⟩
  | buyAsked {m : Maker.State} (hm : m.status = .running) {q : Taker.SoftState} {t : Taker.State}
      (ht : Buying settings t) : Stage maker settings 4 ⟨⟨q, some t⟩, m, [(.rfq, buyRfq settings)], []⟩
  | refused {m : Maker.State} (hm : m.status = .running) {q : Taker.SoftState} {t : Taker.State}
      (ht : Buying settings t) {response : Grpc.QuoteResponse} (order : response.order = none) :
      Stage maker settings 5 ⟨⟨q, some t⟩, m, [], [.rfq response]⟩
  | offered {m : Maker.State} (hm : m.status = .running) {q : Taker.SoftState} {t : Taker.State}
      (ht : Buying settings t) {response : Grpc.QuoteResponse} {rpc : Maker.Rpc} {signature : Signature}
      (order : response.order = some (signed (buyOrder maker settings.optionId rpc) signature)) :
      Stage maker settings 3 ⟨⟨q, some t⟩, m, [], [.rfq response]⟩
  | sellAsked {m : Maker.State} (hm : m.status = .running) {q : Taker.SoftState} {t : Taker.State}
      (ht : Selling maker settings t) :
      Stage maker settings 2 ⟨⟨q, some t⟩, m, [(.rfq, sellRfq settings settings.optionId)], []⟩
  | bid {m : Maker.State} (hm : m.status = .running) {q : Taker.SoftState} {t : Taker.State}
      (ht : Selling maker settings t) {response : Grpc.QuoteResponse} {rpc : Maker.Rpc} {signature : Signature}
      (order : response.order = some (signed (sellOrder maker settings.optionId rpc) signature)) :
      Stage maker settings 1 ⟨⟨q, some t⟩, m, [], [.rfq response]⟩
  | closed {m : Maker.State} (hm : m.status = .running) {q : Taker.SoftState} {t : Taker.State}
      (ht : Closed maker settings t) : Stage maker settings 0 ⟨⟨q, some t⟩, m, [], []⟩

variable {maker : MarketMaker} {settings : Settings} {owned : U256 → Nat}

/-- Where the message in flight is at each stage. -/
theorem Stage.inFlight {rank : Nat} {n : Relay} (h : Stage maker settings rank n) :
    (rank = 0 ∧ n.requests = [] ∧ n.responses = []) ∨
    (rank ≠ 0 ∧ awaited rank = .serve ∧ (∃ request, n.requests = [request]) ∧ n.responses = []) ∨
    (rank ≠ 0 ∧ awaited rank = .read ∧ n.requests = [] ∧ ∃ response, n.responses = [response]) := by
  cases h <;> simp [awaited]

private theorem Stage.attended {rank : Nat} {n : Relay} (h : Stage maker settings rank n) {m : Maker.State}
    (hm : m.status = .running) : Stage maker settings rank { n with server := m } := by
  cases h with
  | quoteAsked _ => exact .quoteAsked hm
  | quoted _ order => exact .quoted hm order
  | buyAsked _ ht => exact .buyAsked hm ht
  | refused _ ht order => exact .refused hm ht order
  | offered _ ht order => exact .offered hm ht order
  | sellAsked _ ht => exact .sellAsked hm ht
  | bid _ ht order => exact .bid hm ht order
  | closed _ ht => exact .closed hm ht

/-- What is not awaited changes nothing. -/
theorem Stage.other {chain : Chain} {rank : Nat} {n : Relay} (h : Stage maker settings rank n)
    {label : Label TakerCalls MakerCalls Elsewhere} (hC : GetsThrough maker settings n label)
    (hkind : ∀ r, rank = r + 1 → delivery label ≠ some (awaited rank)) :
    Stage maker settings rank (step (parties maker settings chain) n label) := by
  have hnot (hrank : rank ≠ 0) : delivery label ≠ some (awaited rank) :=
    hkind (rank - 1) (by omega)
  cases label with
  | read k calls =>
    have hnone : n.responses[k]? = none := by
      rcases h.inFlight with ⟨_, _, hres⟩ | ⟨_, _, _, hres⟩ | ⟨hrank, hawaited, _, response, hres⟩
      · simp [hres]
      · simp [hres]
      · cases k with
        | zero =>
          rw [hawaited] at hnot
          exact absurd rfl (hnot hrank)
        | succ k => simp [hres]
    rwa [step_read_none hnone]
  | serve k calls =>
    have hnone : n.requests[k]? = none := by
      rcases h.inFlight with ⟨_, hreq, _⟩ | ⟨hrank, hawaited, ⟨request, hreq⟩, _⟩ | ⟨_, _, hreq, _⟩
      · simp [hreq]
      · cases k with
        | zero =>
          rw [hawaited] at hnot
          exact absurd rfl (hnot hrank)
        | succ k => simp [hreq]
      · simp [hreq]
    rwa [step_serve_none hnone]
  | attend other => exact h.attended hC
  | loseRequest k => exact hC.elim
  | loseResponse k => exact hC.elim
  | breakOff => exact hC.elim

private theorem supported_quoteRequest
    (hsup : Maker.supportedChain (BitVec.ofNat 256 settings.chainId.toNat) = true)
    (id : U256) (action : Grpc.Action) (ulid : Grpc.H128) :
    Maker.supported (populate ulid (Taker.quoteRequest settings id action)) = true := by
  have hid : (populate ulid (Taker.quoteRequest settings id action)).chainId =
      some (.ofU256 (BitVec.ofNat 256 settings.chainId.toNat)) := rfl
  rw [Maker.supported, hid, Option.any_some, Grpc.H256.toU256_ofU256]
  exact hsup

private theorem step_serving {chain : Chain} {s : Session} {m m' : Maker.State} {calls : MakerCalls}
    {request : Request} {sent : List Response} (h : Market.serve maker m calls request = some (m', sent)) :
    step (parties maker settings chain) ⟨s, m, [request], []⟩ (.serve 0 calls) = ⟨s, m', [], sent⟩ :=
  step_serve h

private theorem step_reading {chain : Chain} {s s' : Session} {m : Maker.State} {calls : TakerCalls}
    {response : Response} {sent : List Request} (h : Market.read settings chain s calls response = some (s', sent)) :
    step (parties maker settings chain) ⟨s, m, [], [response]⟩ (.read 0 calls) = ⟨s', m, sent, []⟩ :=
  step_read h

/-- The maker replies to what is asked, and a write that reports no ids sets a Buy back. -/
theorem Stage.serve {chain : Chain} (hsup : Maker.supportedChain (BitVec.ofNat 256 settings.chainId.toNat) = true)
    {rank : Nat} {n : Relay} (h : Stage maker settings (rank + 1) n) (hawaited : awaited (rank + 1) = .serve)
    {calls : MakerCalls} (hcalls : calls.Answered) (hreports : Reports maker (· = settings.optionId) calls) :
    Stage maker settings rank (step (parties maker settings chain) n (.serve 0 calls)) ∨
      unwritten maker (.serve 0 calls) = true ∧
        Stage maker settings (rank + 2) (step (parties maker settings chain) n (.serve 0 calls)) := by
  have hbuy : Maker.supported (populate calls.ulid (buyRfq settings)) = true :=
    supported_quoteRequest hsup settings.optionId .buy calls.ulid
  have hsell : Maker.supported (populate calls.ulid (sellRfq settings settings.optionId)) = true :=
    supported_quoteRequest hsup settings.optionId .sell calls.ulid
  cases h with
  | quoteAsked hm =>
    obtain ⟨response, hr⟩ := answerSoftQuote_returns maker settings settings.optionId .buy calls.ulid hcalls.rpc
    obtain ⟨m', hserve, hm'⟩ := serve_softQuote hm hcalls.channelOpen hbuy hr
    rw [step_serving hserve]
    exact .inl (.quoted hm' (answerSoftQuote_buy hr))
  | buyAsked hm ht =>
    obtain ⟨response, hr⟩ := answerRfq_returns maker settings settings.optionId .buy calls.ulid (by simp) hcalls.rpc
    obtain ⟨m', hserve, hm'⟩ := serve_rfq hm hcalls.channelOpen hbuy hr
    rw [step_serving hserve]
    rcases answerRfq_buy hr with ⟨hnone, ho⟩ | ⟨optionId, claimId, signature, hids, ho⟩
    · refine .inr ⟨?_, .refused hm' ht ho⟩
      simp [unwritten, hnone]
    · rw [hreports optionId claimId hids] at ho
      exact .inl (.offered hm' ht ho)
  | sellAsked hm ht =>
    obtain ⟨response, hr⟩ := answerRfq_returns maker settings settings.optionId .sell calls.ulid (by simp) hcalls.rpc
    obtain ⟨m', hserve, hm'⟩ := serve_rfq hm hcalls.channelOpen hsell hr
    rw [step_serving hserve]
    obtain ⟨signature, ho⟩ := answerRfq_sell hr
    exact .inl (.bid hm' ht ho)
  | quoted _ _ => cases hawaited
  | refused _ _ _ => cases hawaited
  | offered _ _ _ => cases hawaited
  | bid _ _ _ => cases hawaited

/-- The options that are owned after the purchase. -/
theorem balanceOf_purchased {events : List Taker.Event} (h : Purchased maker settings events) (i : U256) :
    (seaportChain maker.settlementEngine owned).balanceOf events i =
      owned i + if i = settings.optionId then 5 else 0 := by
  obtain ⟨buys, purchase, hbought, rfl⟩ := h
  have hsplit : List.replicate (buys + 1) (.sendRfq (buyRfq settings)) ++
      [Taker.Event.fulfillOrder false (Taker.fulfillTx purchase) .succeeded,
        .sendRfq (sellRfq settings settings.optionId)] =
      (List.replicate (buys + 1) (.sendRfq (buyRfq settings)) ++
        [.fulfillOrder false (Taker.fulfillTx purchase) .succeeded]) ++
        [.sendRfq (sellRfq settings settings.optionId)] := by simp
  rw [hsplit, Taker.balanceOf_sendRfq, Taker.balanceOf_append, settle_bought hbought, balanceOf_requests]
  rfl

/-- Afterwards everything is as it was before. -/
theorem balanceOf_closed {t : Taker.State} (h : Closed maker settings t) (i : U256) :
    (seaportChain maker.settlementEngine owned).balanceOf t.events i = owned i := by
  obtain ⟨before, sale, hpurchased, hsold, hevents⟩ := h.events
  rw [hevents, Taker.balanceOf_append, settle_soldBack hsold, balanceOf_purchased hpurchased]
  omega

private theorem step_readingOffer {chain : Chain} {q : Taker.SoftState} {t t' : Taker.State} {m : Maker.State}
    {calls : TakerCalls} {response : Grpc.QuoteResponse} {sent : List Grpc.QuoteRequest}
    (hs : t.status = .running) (hstep : Taker.step settings chain t (calls.turn (.ok (some response))) = t')
    (hsent : t'.requests = t.requests ++ sent) :
    step (parties maker settings chain) ⟨⟨q, some t⟩, m, [], [.rfq response]⟩ (.read 0 calls) =
      ⟨⟨q, some t'⟩, m, sent.map fun rfq => (.rfq, rfq), []⟩ := by
  rw [← hstep] at hsent
  have hoffer := readOffer_eq settings chain hs hsent
  rw [hstep] at hoffer
  apply step_reading
  simp [Market.read, hs, hoffer]

private theorem step_readingQuote {chain : Chain} {rpc : Maker.Rpc} {m : Maker.State} {calls : TakerCalls}
    (hcalls : calls.Succeeds) {response : Grpc.SoftQuoteResponse}
    (order : response.order = some (buyOrder maker settings.optionId rpc)) :
    step (parties maker settings chain)
        ⟨⟨Taker.SoftState.initial settings, none⟩, m, [], [.softQuote response]⟩ (.read 0 calls) =
      ⟨⟨⟨.liked, [buyRfq settings]⟩, some (Taker.State.initial settings)⟩, m, [(.rfq, buyRfq settings)], []⟩ := by
  obtain ⟨offer, hoffer⟩ : ∃ offer, Taker.receivedOffer (buyOrder maker settings.optionId rpc) = .ok offer :=
    ⟨_, rfl⟩
  have hasking : (Taker.SoftState.initial settings).status = .asking := rfl
  have hlikes : Taker.readSoftQuote settings ⟨.ok (some response), true⟩ = ⟨.ok true, []⟩ := by
    simp only [Taker.readSoftQuote, order, hoffer, Proc.lift_ok_bind]
    rfl
  apply step_reading
  simp [Market.read, readQuote, Taker.softStep, hasking, hlikes, hcalls.channelOpen]
  rfl

/-- The taker goes on with what it is given. -/
theorem Stage.read (howned : owned settings.optionId = 0) (hzero : owned 0 = 0) {rank : Nat} {n : Relay}
    (h : Stage maker settings (rank + 1) n) (hawaited : awaited (rank + 1) = .read) {calls : TakerCalls}
    (hcalls : calls.Succeeds) :
    Stage maker settings rank
      (step (parties maker settings (seaportChain maker.settlementEngine owned)) n (.read 0 calls)) := by
  cases h with
  | quoted hm order =>
    rw [step_readingQuote hcalls order]
    exact .buyAsked hm ⟨rfl, rfl, 0, rfl⟩
  | refused hm ht order =>
    obtain ⟨buys, hevents⟩ := ht.events
    rw [step_readingOffer ht.running (step_noOffer hcalls ht.running order) List.filterMap_append]
    refine .buyAsked hm ⟨ht.running, ht.phase, buys + 1, ?_⟩
    change _ ++ _ = _
    rw [hevents]
    exact List.replicate_succ'.symm
  | offered hm ht order =>
    rename_i q t response rpc signature
    obtain ⟨purchase, ha, hbought⟩ := acceptedOrder_buyOrder maker settings.optionId rpc signature
    obtain ⟨buys, hevents⟩ := ht.events
    have hbalance : t.ownedTokens (seaportChain maker.settlementEngine owned)
        (calls.turn (.ok (some response))) purchase settings.optionId = 5 := by
      have hreceipt : (calls.turn (.ok (some response))).receipt = .succeeded := hcalls.receipt
      rw [Taker.State.ownedTokens, Taker.State.fulfillment, hreceipt, Taker.balanceOf_append, settle_bought hbought,
        hevents, balanceOf_requests, if_pos rfl]
      exact congrArg (· + 5) howned
    rw [step_readingOffer ht.running (step_buy hcalls ht.running order ha ht.phase hbalance) List.filterMap_append]
    refine .sellAsked hm ⟨ht.running, rfl, buys, purchase, hbought, ?_⟩
    change _ ++ _ = _
    rw [hevents]
  | bid hm ht order =>
    rename_i q t response rpc signature
    obtain ⟨sale, ha, hsold⟩ := acceptedOrder_sellOrder maker settings.optionId rpc signature
    have hbalance : t.ownedTokens (seaportChain maker.settlementEngine owned)
        (calls.turn (.ok (some response))) sale 0 = 0 := by
      have hreceipt : (calls.turn (.ok (some response))).receipt = .succeeded := hcalls.receipt
      rw [Taker.State.ownedTokens, Taker.State.fulfillment, hreceipt, Taker.balanceOf_append, settle_soldBack hsold,
        balanceOf_purchased ht.events, hzero]
      omega
    rw [step_readingOffer ht.running (step_sell hcalls ht.running order ha ht.phase hbalance) List.filterMap_append]
    exact .closed hm ⟨rfl, _, sale, ht.events, hsold, rfl⟩
  | quoteAsked _ => cases hawaited
  | buyAsked _ _ => cases hawaited
  | sellAsked _ _ => cases hawaited

/-- The taker buys and sells back, and owns what it owned before, when the messages in
flight are delivered often enough: six times, and twice more for each write that fails.
Other takers' requests that leave the maker in its loop can come in between. -/
theorem run_completes (maker : MarketMaker) (settings : Settings) (owned : U256 → Nat) (schedule : Schedule)
    (hcontract : settings.settlementContract = maker.settlementEngine)
    (hsup : Maker.supportedChain (BitVec.ofNat 256 settings.chainId.toNat) = true)
    (howned : owned settings.optionId = 0) (hzero : owned 0 = 0)
    (hthrough : AllSteps (step (parties maker settings (seaportChain settings.settlementContract owned)))
      (GetsThrough maker settings) (initial settings) schedule)
    (hdelivered : (script awaited (6 + 2 * schedule.countP (unwritten maker))).Sublist (schedule.filterMap delivery)) :
    ∃ t, (run maker settings (seaportChain settings.settlementContract owned) schedule).client.rfqs = some t ∧
      Closed maker settings t ∧
      ∀ id, (seaportChain settings.settlementContract owned).balanceOf t.events id = owned id := by
  rw [hcontract] at hthrough ⊢
  have hstart : Stage maker settings 6 (initial settings) := .quoteAsked rfl
  have hend : Stage maker settings 0 (run maker settings (seaportChain maker.settlementEngine owned) schedule) := by
    refine reaches_zero (fun rank => by simp [awaited]) ?_ ?_ hthrough hstart hdelivered
    · intro rank n label h hC hkind
      cases label with
      | serve k calls =>
        cases k with
        | succ k => cases hkind
        | zero => exact h.serve hsup (Option.some.inj hkind).symm hC.1 hC.2
      | read k calls =>
        cases k with
        | succ k => cases hkind
        | zero => exact .inl (h.read howned hzero (Option.some.inj hkind).symm hC)
      | loseRequest k => cases hkind
      | loseResponse k => cases hkind
      | attend other => cases hkind
      | breakOff => cases hkind
    · exact fun h hC hkind => h.other hC hkind
  generalize run maker settings (seaportChain maker.settlementEngine owned) schedule = n at hend
  cases hend with
  | closed hm ht => exact ⟨_, rfl, ht, balanceOf_closed ht⟩

private theorem answered_sampleRpc : (sampleMakerCalls Maker.sampleRpc).Answered :=
  ⟨⟨⟨_, rfl⟩, ⟨_, rfl⟩, ⟨_, rfl⟩, rfl⟩, rfl⟩

/-- The taker buys with its second Buy request and sells back. -/
theorem run_completes_retried :
    ∃ t, (run Maker.sampleMaker Taker.sampleSettings
        (seaportChain Taker.sampleSettings.settlementContract fun _ => 0) sampleSchedule).client.rfqs = some t ∧
      t.status = .exited .soldBack := by
  have hread : sampleTakerCalls.Succeeds := ⟨rfl, rfl, rfl, rfl, rfl⟩
  have hserved := And.intro answered_sampleRpc reports_sampleRpc
  obtain ⟨t, ht, hclosed, _⟩ := run_completes Maker.sampleMaker Taker.sampleSettings (fun _ => 0) sampleSchedule rfl
    (by decide) rfl rfl
    ⟨hserved, hread, ⟨⟨⟨⟨_, rfl⟩, ⟨_, rfl⟩, ⟨_, rfl⟩, rfl⟩, rfl⟩, reports_sampleRpcUnwritten⟩, hread, hserved, hread,
      hserved, hread, trivial⟩
    (by decide +kernel)
  exact ⟨t, ht, hclosed.exited⟩

end TradeInterfaces.Market
