import TradeInterfaces.Agreement
import TradeInterfaces.Maker.Ledger
import TradeInterfaces.Market.Ordering

/-! Whose signature the taker submits: every order was signed by this maker, for the request
that the taker made in that phase. -/
namespace TradeInterfaces.Market
open Foundations.Exchanges Ethers
open Maker (MarketMaker)
open Taker (Settings Chain buyRfq sellRfq)

/-- The maker's answer to the request is in its log, with the hash of components that quote
the request and the signature over their digest. What the order has is what was signed. -/
inductive Authentic (maker : MarketMaker) (log : List Maker.Event) (rfq : Grpc.QuoteRequest) (order : Seaport.Order) :
    Response → Prop
  | signed (ulid : Grpc.H128) (rpc : Maker.Rpc) (components : Seaport.OrderComponents) (hash : H256)
      (offer : Grpc.QuoteResponse) (quoted : Maker.Quoted maker rpc (populate ulid rfq) components)
      (digested : Maker.Digested maker rpc components hash)
      (logged : Maker.writing maker rpc (populate ulid rfq) ++
        [.getOrderHash components, .signHash hash, .queueQuote offer] <:+: log)
      (agrees : Seaport.Agrees order.parameters components)
      (total : order.parameters.totalOriginalConsiderationItems = BitVec.ofNat 256 components.consideration.length)
      (signature : order.signature = (maker.signHash hash).toVec) : Authentic maker log rfq order (.rfq offer)

/-- The order is what the taker makes of the response. -/
def Converted (order : Seaport.Order) (response : Response) : Prop :=
  ∃ offer signedOrder parameters, response = .rfq offer ∧ offer.order = some signedOrder ∧
    signedOrder.parameters = some parameters ∧ Taker.transformToSeaportOrder signedOrder parameters = .ok order

/-- The maker answered the request with this offer, and its log has what it did for it. -/
def HasAnswer (maker : MarketMaker) (log : List Maker.Event) (request : Request) (offer : Grpc.QuoteResponse) : Prop :=
  request.1 = .rfq ∧ ∃ ulid rpc,
    (Maker.answerRfq maker rpc (populate ulid request.2)).outcome = .ok (some offer) ∧
      (Maker.answerRfq maker rpc (populate ulid request.2)).events ++ [.queueQuote offer] <:+: log

variable {maker : MarketMaker} {settings : Settings} {chain : Chain}

theorem HasAnswer.mono {log more : List Maker.Event} {request : Request} {offer : Grpc.QuoteResponse}
    (h : HasAnswer maker log request offer) (hlog : log <+: more) : HasAnswer maker more request offer := by
  obtain ⟨hstream, ulid, rpc, hr, hin⟩ := h
  exact ⟨hstream, ulid, rpc, hr, hin.trans hlog.isInfix⟩

private theorem serve_answers {m m' : Maker.State} {calls : MakerCalls} {request : Request}
    {sent : List Response}
    (h : serve maker m calls request = some (m', sent)) {offer : Grpc.QuoteResponse} (hoffer : .rfq offer ∈ sent) :
    HasAnswer maker m'.events request offer := by
  obtain ⟨_, hevents, rfl⟩ := serve_logs h
  obtain ⟨e, hmem, he⟩ := List.mem_filterMap.mp hoffer
  have hqueued : e = .queueQuote offer := by
    cases e with
    | queueQuote response => rw [Response.rfq.inj (Option.some.inj he)]
    | queueSoftQuote response => cases he
    | _ => cases he
  rw [hqueued] at hmem
  have hrequest : (calls.turn request).request? = some (request.1, populate calls.ulid request.2) := rfl
  rcases @Maker.entry_cases maker _ _ hrequest with ⟨hstream, _, queued, hbranch, hq⟩ | ⟨_, hbranch⟩
  · rw [← Maker.answerRfq_account] at hbranch
    rw [hbranch, List.mem_append] at hmem
    rcases hmem with hmem | hmem
    · cases (Maker.answerRfq_quiet maker _ _ _ hmem).1
    · rcases hq with rfl | ⟨response, hr, rfl⟩
      · cases hmem
      · cases List.mem_singleton.mp hmem
        refine ⟨hstream, calls.ulid, calls.rpc, hr, ?_⟩
        rw [hevents, hbranch]
        exact (List.suffix_append _ _).isInfix
  · rcases hbranch with hbranch | ⟨response, hbranch⟩
    · simp [hbranch] at hmem
    · simp [hbranch] at hmem

/-- What was signed for an order that the taker converts. -/
theorem HasAnswer.authentic {log : List Maker.Event} {request : Request} {offer : Grpc.QuoteResponse}
    (h : HasAnswer maker log request offer) {order : Seaport.Order} (hconverted : Converted order (.rfq offer)) :
    Authentic maker log request.2 order (.rfq offer) := by
  obtain ⟨_, ulid, rpc, hr, hin⟩ := h
  obtain ⟨_, signedOrder, parameters, hsame, ho, hp, htransformed⟩ := hconverted
  cases hsame
  obtain ⟨quoteOrder, counter, components, hash, hquoted, hdigested, hcomponents, rfl, hevents⟩ :=
    Maker.answerRfq_signs hr ho
  cases hp
  obtain ⟨_, signature, seaportParameters, hsig, hread, hpar, rfl⟩ :=
    Taker.transformToSeaportOrder_ok_iff.mp htransformed
  obtain ⟨components', hcomponents', hagrees, _, htotal⟩ := orderParameters_agrees hpar counter
  cases hcomponents.symm.trans hcomponents'
  cases hsig
  cases (Grpc.EthSignature.toSignature_ofSignature _).symm.trans hread
  rw [hevents, List.append_assoc] at hin
  refine .signed ulid rpc components hash offer hquoted hdigested hin hagrees htotal ?_
  rw [Signature.toVec, UInt8.toUInt8_toUInt64, Signature.toVec]

/-- The offers that were sent for these requests are in the log. -/
def Accounted (maker : MarketMaker) (s : Maker.State) (served : List Request) (answered : List Response) : Prop :=
  ∀ offer, .rfq offer ∈ answered → ∃ request ∈ served, HasAnswer maker s.events request offer

theorem Accounted.serve {m m' : Maker.State} {served : List Request} {answered sent : List Response}
    (h : Accounted maker m served answered) {calls : MakerCalls} {request : Request}
    (hs : Market.serve maker m calls request = some (m', sent)) :
    Accounted maker m' (served ++ [request]) (answered ++ sent) := by
  intro offer hoffer
  rcases List.mem_append.mp hoffer with hold | hnew
  · obtain ⟨request', hmem, hanswer⟩ := h offer hold
    refine ⟨request', List.mem_append_left _ hmem, hanswer.mono ?_⟩
    rw [(serve_logs hs).2.1]
    exact List.prefix_append _ _
  · exact ⟨request, List.mem_append_right _ (List.mem_singleton.mpr rfl), serve_answers hs hnew⟩

theorem Accounted.attend {m : Maker.State} {served : List Request} {answered : List Response}
    (h : Accounted maker m served answered) (other : Elsewhere) :
    Accounted maker (attend maker m other) served answered := by
  intro offer hoffer
  obtain ⟨request, hmem, hanswer⟩ := h offer hoffer
  exact ⟨request, hmem, hanswer.mono (attend_logs maker m other).2⟩

/-- The orders that are submitted are made of responses that were read, in their order. -/
def Drawn (s : Session) (read : List Response) : Prop :=
  ∀ t, s.rfqs = some t → List.SublistForall₂ (fun x response => Converted x.2 response) t.submitted read

private theorem step_drawn {t : Taker.State} {read more : List Response}
    (h : List.SublistForall₂ (fun x response => Converted x.2 response) t.submitted read) {turn : Taker.Turn}
    (hmore : ∀ offer, turn.response? = some offer → more = [.rfq offer]) :
    List.SublistForall₂ (fun x response => Converted x.2 response)
      (Taker.step settings chain t turn).submitted (read ++ more) := by
  rcases @Taker.step_submitted settings chain t turn with ⟨ht, _⟩ | ⟨_, order, id, ha, ht, _⟩
  · rw [ht, ← List.append_nil t.submitted]
    exact sublistForall₂_append h .nil
  · obtain ⟨offer, signedOrder, hr, ho, hacc⟩ := Taker.accepted?_eq_some ha
    obtain ⟨parameters, hp, htransformed⟩ := Taker.acceptedOrder_ok hacc
    rw [ht, hmore offer hr]
    exact sublistForall₂_append h (.cons ⟨offer, signedOrder, parameters, rfl, ho, hp, htransformed⟩ .nil)

private theorem read_drawn {s s' : Session} {calls : TakerCalls} {response : Response} {sent : List Request}
    {read : List Response} (h : Drawn s read) (hr : Market.read settings chain s calls response = some (s', sent)) :
    Drawn s' (read ++ [response]) := by
  intro t ht
  rcases read_cases settings chain hr with ⟨quote, _, _, hasking, hq⟩ | ⟨offer, t₀, rfl, hrfqs, hs, t', ho, rfl⟩
  · rcases readQuote_cases settings hasking calls quote with ⟨status, h⟩ | h | h
    · cases hq.symm.trans h
      cases ht
    · cases hq.symm.trans h
      cases ht
    · cases hq.symm.trans h
      cases ht
      exact .nil
  · have ht' : t' = Taker.step settings chain t₀ (calls.turn (.ok (some offer))) := (congrArg Prod.fst ho).symm
    cases ht
    rw [ht']
    refine step_drawn (h t₀ hrfqs) fun offer' hoffer => ?_
    cases hoffer
    rfl

private theorem breakOff_drawn {s : Session} {read : List Response} (h : Drawn s read) :
    Drawn (breakOff settings chain s) read := by
  intro t ht
  cases hr : s.rfqs with
  | none =>
    simp only [breakOff, hr] at ht
    cases ht
  | some t₀ =>
    simp only [breakOff, hr] at ht
    cases ht
    rw [← List.append_nil read]
    exact step_drawn (h t₀ hr) fun offer hoffer => by cases hoffer

/-! A purchase is signed for a Buy, and a sale for a Sell. -/

private theorem quoted_buy {ulid : Grpc.H128} {rpc : Maker.Rpc} {components : Seaport.OrderComponents}
    (h : Maker.Quoted maker rpc (populate ulid (buyRfq settings)) components) :
    ∃ item, components.offer = [item] ∧ item.itemType = 3 := by
  obtain ⟨_, _, _, _, ⟨_, _, _, _, hoffer, _⟩ | ⟨hs, _⟩⟩ := h.sides
  · exact ⟨_, hoffer, rfl⟩
  · exact absurd hs (by decide : Grpc.Action.ofI32 Grpc.Action.buy.toI32 ≠ .sell)

private theorem quoted_sell {ulid : Grpc.H128} {rpc : Maker.Rpc} {id : U256}
    {components : Seaport.OrderComponents}
    (h : Maker.Quoted maker rpc (populate ulid (sellRfq settings id)) components) :
    ∃ item, components.offer = [item] ∧ item.itemType = 1 := by
  obtain ⟨_, _, _, _, ⟨hb, _⟩ | ⟨_, hoffer, _⟩⟩ := h.sides
  · exact absurd hb (by decide : Grpc.Action.ofI32 Grpc.Action.sell.toI32 ≠ .buy)
  · exact ⟨_, hoffer, rfl⟩

/-- The request that an order is signed for is the one of its phase. -/
theorem Trading.phaseRfq {t : Taker.State} (h : Trading maker settings chain (fun _ => True) t)
    {x : Bool × Seaport.Order} (hx : x ∈ t.submitted) {rfq : Grpc.QuoteRequest} (hrfq : rfq ∈ t.requests)
    {log : List Maker.Event} {response : Response} (ha : Authentic maker log rfq x.2 response) :
    t.phaseRfq settings x.1 = some rfq := by
  obtain ⟨buys, hrequests⟩ := h.requests
  obtain ⟨inSellPhase, order⟩ := x
  obtain ⟨_, _, components, _, _, quoted, _, _, agrees, _, _⟩ := ha
  rw [hrequests, List.mem_append] at hrfq
  have hoffer := agrees.offer
  cases inSellPhase with
  | false =>
    obtain ⟨id, _, hbought, _⟩ := h.bought order hx
    rcases hrfq with hbuy | hsell
    · rw [List.eq_of_mem_replicate hbuy]
      rfl
    · obtain ⟨id', _, rfl⟩ := Option.map_eq_some_iff.mp (Option.mem_toList.mp hsell)
      obtain ⟨item, hitem, htype⟩ := quoted_sell quoted
      rw [hbought.offer, hitem] at hoffer
      rw [← (List.cons.inj hoffer).1] at htype
      cases htype
  | true =>
    obtain ⟨id, hid, hsold⟩ := h.sold order hx
    rcases hrfq with hbuy | hsell
    · rw [List.eq_of_mem_replicate hbuy] at quoted
      obtain ⟨item, hitem, htype⟩ := quoted_buy quoted
      rw [hsold.offer, hitem] at hoffer
      rw [← (List.cons.inj hoffer).1] at htype
      cases htype
    · exact Option.mem_toList.mp hsell

private theorem rfq_requested {s : Session} {t : Taker.State} (ht : s.rfqs = some t) {request : Request}
    (h : request ∈ s.requests) (hstream : request.1 = .rfq) : request.2 ∈ t.requests := by
  unfold Session.requests at h
  rw [ht, List.mem_append] at h
  rcases h with h | h
  · obtain ⟨quote, _, rfl⟩ := List.mem_map.mp h
    cases hstream
  · obtain ⟨rfq, hrfq, rfl⟩ := List.mem_map.mp h
    exact hrfq

/-- Whatever the network does and whomever else the maker serves, each order the taker
submits was signed by this maker for the request of the phase, in an offer of its own. -/
theorem run_authentic (maker : MarketMaker) (settings : Settings) (chain : Chain) (schedule : Schedule) :
    let n := run maker settings chain schedule
    ∀ t, n.client.rfqs = some t →
      List.SublistForall₂ (fun x response => ∃ rfq, t.phaseRfq settings x.1 = some rfq ∧
          Authentic maker n.server.events rfq x.2 response)
        t.submitted (n.server.events.filterMap response?) := by
  intro n t ht
  obtain ⟨hserved, hread⟩ := run_passes maker settings chain schedule
  have hattended := run_attended maker settings chain schedule
  have haccounted : Accounted maker n.server _ _ :=
    run_server (fun h hs => h.serve hs) (fun h => h.attend _) fun offer hoffer => by cases hoffer
  have hdrawn : Drawn n.client (traffic (parties maker settings chain) (initial settings) schedule).read := by
    refine @run_client _ _ _ _ _ _ _ (parties maker settings chain) (initial settings) schedule
      (fun s _ read => Drawn s read) (fun h hr => read_drawn h hr) (fun h => breakOff_drawn h) ?_
    intro t ht
    cases ht
  refine sublistForall₂_trans
    (sublistForall₂_imp (sublistForall₂_trans (hdrawn t ht) hread) fun x hx response hresponse hconverted => ?_)
    hattended.answered
  obtain ⟨offer, rfl⟩ : ∃ offer, response = .rfq offer := by
    obtain ⟨offer, _, _, hrfq, _⟩ := hconverted
    exact ⟨offer, hrfq⟩
  obtain ⟨request, hrequest, hanswer⟩ := haccounted offer hresponse
  have hauthentic := hanswer.authentic hconverted
  have hrfq := rfq_requested ht (hserved.subset hrequest) hanswer.1
  exact ⟨request.2, (run_trading schedule ht).phaseRfq hx hrfq hauthentic, hauthentic⟩

/-- The purchase and the sale of the option. -/
theorem run_authentic_retried :
    let n := run Maker.sampleMaker Taker.sampleSettings Taker.sampleChain sampleSchedule
    ∃ t, n.client.rfqs = some t ∧ t.submitted.map Prod.fst = [false, true] ∧
      List.SublistForall₂ (fun x response => ∃ rfq, t.phaseRfq Taker.sampleSettings x.1 = some rfq ∧
          Authentic Maker.sampleMaker n.server.events rfq x.2 response)
        t.submitted (n.server.events.filterMap response?) := by
  obtain ⟨t, ht, hphases⟩ := Option.map_eq_some_iff.mp sample_phases
  exact ⟨t, ht, hphases,
    run_authentic Maker.sampleMaker Taker.sampleSettings Taker.sampleChain sampleSchedule t ht⟩

end TradeInterfaces.Market
