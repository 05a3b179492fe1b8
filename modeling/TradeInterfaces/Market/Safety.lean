import TradeInterfaces.Market.Trading

/-! What holds of the taker and the maker together, whatever the network does with their
messages: nothing the taker reads comes too late, and its orders are the ones it asked for. -/
namespace TradeInterfaces.Market
open Foundations.Exchanges Ethers
open Maker (MarketMaker)
open Taker (Settings Chain buyRfq sellRfq)

/-- The taker asked for quotes for its options, and then traded them. -/
structure Sound (maker : MarketMaker) (settings : Settings) (chain : Chain) (ids : U256 → Prop)
    (s : Session) : Prop where
  quotes : ∃ quotes, s.softQuotes.requests = List.replicate (quotes + 1) (buyRfq settings)
  trading : ∀ t, s.rfqs = some t → Trading maker settings chain ids t

variable {maker : MarketMaker} {settings : Settings} {chain : Chain} {ids : U256 → Prop}

private theorem trading_initial : Trading maker settings chain ids (Taker.State.initial settings) where
  reached := ⟨[], rfl⟩
  requests := ⟨0, rfl⟩
  phase := rfl
  bought := fun o ho => by cases ho
  sold := fun o ho => by cases ho

/-- The last request of the taker: a quote, a Buy, or the Sell of what it bought. -/
theorem Sound.last_cases {s : Session} (h : Sound maker settings chain ids s) {request : Request}
    (hlast : s.last = some request) :
    (s.rfqs = none ∧ request = (.softQuote, buyRfq settings)) ∨
    ∃ t, s.rfqs = some t ∧ t.requests.getLast? = some request.2 ∧
      (request = (.rfq, buyRfq settings) ∨ ∃ id, request = (.rfq, sellRfq settings id)) := by
  unfold Session.last at hlast
  cases hr : s.rfqs with
  | none =>
    obtain ⟨quotes, hq⟩ := h.quotes
    rw [hr, hq, List.replicate_succ', List.getLast?_concat] at hlast
    exact .inl ⟨rfl, (Option.some.inj hlast).symm⟩
  | some t =>
    have htrading := h.trading t hr
    simp only [hr, htrading.last, Option.map_some] at hlast
    cases hlast
    refine .inr ⟨t, rfl, htrading.last, ?_⟩
    cases t.boughtId with
    | none => exact .inl rfl
    | some id => exact .inr ⟨id, rfl⟩

/-- What the maker answers to the last request of the taker is a reply to it. -/
theorem serve_replies {s : Session} (hs : Sound maker settings chain ids s) {m m' : Maker.State}
    {calls : MakerCalls} {request : Request} {response : Response} (hlast : s.last = some request)
    (hcalls : Reports maker ids calls) (h : serve maker m calls request = some (m', [response])) :
    Reply maker settings ids request response := by
  refine ⟨serve_given h, ?_⟩
  rcases serve_cases h with hnone | ⟨hstream, offer, hsent, hout⟩ | ⟨hstream, quote, hsent, hout⟩
  · cases hnone
  · cases hsent
    rcases hs.last_cases hlast with ⟨_, rfl⟩ | ⟨t, _, _, rfl | ⟨id, rfl⟩⟩
    · cases hstream
    · rcases answerRfq_buy hout with ⟨_, ho⟩ | ⟨optionId, claimId, signature, hids, ho⟩
      · exact .noOffer offer ho
      · exact .buy optionId (hcalls optionId claimId hids) calls.rpc signature offer ho
    · obtain ⟨signature, ho⟩ := answerRfq_sell hout
      exact .sell id calls.rpc signature offer ho
  · cases hsent
    rcases hs.last_cases hlast with ⟨_, rfl⟩ | ⟨t, _, _, rfl | ⟨id, rfl⟩⟩
    · exact .quote calls.rpc quote (answerSoftQuote_buy hout)
    · cases hstream
    · cases hstream

theorem read_sound {s s' : Session} (hs : Sound maker settings chain ids s) {calls : TakerCalls}
    {request : Request} {response : Response} {sent : List Request} (hlast : s.last = some request)
    (hreply : Replies maker settings ids request response)
    (h : read settings chain s calls response = some (s', sent)) : Sound maker settings chain ids s' := by
  rcases read_cases settings chain h with ⟨quote, _, _, hasking, hq⟩ | ⟨offer, t, rfl, hr, _, t', ho, rfl⟩
  · obtain ⟨quotes, hreq⟩ := hs.quotes
    rcases readQuote_cases settings hasking calls quote with ⟨status, h⟩ | h | h
    · cases hq.symm.trans h
      exact ⟨⟨quotes, hreq⟩, fun t ht => by cases ht⟩
    · cases hq.symm.trans h
      refine ⟨⟨quotes + 1, ?_⟩, fun t ht => by cases ht⟩
      rw [hreq]
      exact List.replicate_succ'.symm
    · cases hq.symm.trans h
      refine ⟨⟨quotes, hreq⟩, fun t ht => ?_⟩
      cases ht
      exact trading_initial
  · have ht := hs.trading t hr
    have ht' : t' = Taker.step settings chain t (calls.turn (.ok (some offer))) := (congrArg Prod.fst ho).symm
    refine ⟨hs.quotes, fun u hu => ?_⟩
    cases hu
    rw [ht']
    rcases hs.last_cases hlast with ⟨hnone, _⟩ | ⟨t₀, ht₀, hlast', hrequest⟩
    · rw [hr] at hnone
      cases hnone
    · rw [hr] at ht₀
      cases ht₀
      obtain ⟨stream, rfq⟩ := request
      have hstream : stream = .rfq := by
        rcases hrequest with h | ⟨id, h⟩
        · exact congrArg Prod.fst h
        · exact congrArg Prod.fst h
      rw [hstream] at hreply
      exact ht.step (ht.reply hlast' hreply calls)

theorem breakOff_sound {s : Session} (hs : Sound maker settings chain ids s) :
    Sound maker settings chain ids (breakOff settings chain s) := by
  cases hr : s.rfqs with
  | none =>
    simp only [breakOff, hr]
    refine ⟨?_, fun t ht => by cases ht⟩
    rw [Taker.softStep_ended]
    exact hs.quotes
  | some t =>
    simp only [breakOff, hr]
    refine ⟨hs.quotes, fun u hu => ?_⟩
    cases hu
    exact (hs.trading t hr).step ⟨fun hno => (by cases hno), fun order id ha => (by cases ha)⟩

/-- Every schedule keeps to this: a message in flight is the last request of the taker or
a reply to it, and the taker trades what it asked for. -/
theorem run_sound (schedule : Schedule) (hserved : ∀ label ∈ schedule, Served (Reports maker ids) label) :
    Exchange Session.last (Reply maker settings ids) (run maker settings chain schedule) ∧
      Sound maker settings chain ids (run maker settings chain schedule).client := by
  refine run_exchange (takesTurns settings chain maker) ?_ ?_ ?_ ?_ ?_ hserved
  · exact fun hs hlast hcalls h => serve_replies hs hlast hcalls h
  · exact fun hs hlast hreply h => read_sound hs hlast hreply.terms h
  · exact fun hs => breakOff_sound hs
  · exact .asked _ _ _ rfl
  · exact ⟨⟨0, rfl⟩, fun t ht => by cases ht⟩

theorem served_all (schedule : Schedule) :
    ∀ label ∈ schedule, Served (Reports maker fun _ => True) label := by
  intro label _
  cases label <;> simp [Served, Reports]

/-- Whatever the receipts report. -/
theorem run_trading (schedule : Schedule) {t : Taker.State}
    (ht : (run maker settings chain schedule).client.rfqs = some t) :
    Trading maker settings chain (fun _ => True) t :=
  (run_sound schedule (served_all schedule)).2.trading t ht

/-- At most one message is in flight, a request is the last one the taker sent, and a
response is what the maker's handler answers to it. -/
theorem run_oneInFlight (maker : MarketMaker) (settings : Settings) (chain : Chain) (schedule : Schedule) :
    let n := run maker settings chain schedule
    n.requests.length + n.responses.length ≤ 1 ∧
    (∀ request ∈ n.requests, n.client.last = some request) ∧
    ∀ response ∈ n.responses, ∃ request, n.client.last = some request ∧
      GivenTo maker request response := by
  intro n
  have hn : Exchange Session.last (Reply maker settings fun _ => True) n :=
    (run_sound schedule (served_all schedule)).1
  refine ⟨hn.length_le, fun request hr => ?_, fun response hr => ?_⟩
  · obtain ⟨k, hk⟩ := List.mem_iff_getElem?.mp hr
    exact (hn.request hk).2.2
  · obtain ⟨k, hk⟩ := List.mem_iff_getElem?.mp hr
    obtain ⟨_, _, request, hlast, hreply⟩ := hn.response hk
    exact ⟨request, hlast, hreply.given⟩

private theorem Trading.submitted_cases {t : Taker.State} (h : Trading maker settings chain ids t) :
    t.submitted = [] ∨ ∃ id purchase, ids id ∧ Bought maker id purchase ∧
      (t.submitted = [(false, purchase)] ∨ ∃ sale, t.boughtId = some id ∧ SoldBack maker id sale ∧
        t.submitted = [(false, purchase), (true, sale)]) := by
  obtain ⟨turns, ht⟩ := h.reached
  have hphases : t.submitted.map Prod.fst <+: [false, true] := by
    rw [ht]
    exact (Taker.run_submissions settings chain turns).1.phases
  match hsub : t.submitted with
  | [] => exact .inl rfl
  | [(p, purchase)] =>
    rw [hsub] at hphases
    obtain ⟨rfl, _⟩ : p = false ∧ [] <+: [true] := by simpa using hphases
    obtain ⟨id, hid, hbought, _⟩ := h.bought purchase (by simp [hsub])
    exact .inr ⟨id, purchase, hid, hbought, .inl rfl⟩
  | (p, purchase) :: (q, sale) :: rest =>
    rw [hsub] at hphases
    obtain ⟨rfl, rfl, rfl⟩ : p = false ∧ q = true ∧ rest = [] := by simpa using hphases
    obtain ⟨id, hid, hbought, hsame⟩ := h.bought purchase (by simp [hsub])
    obtain ⟨boughtId, hb, hsold⟩ := h.sold sale (by simp [hsub])
    obtain rfl := hsame boughtId hb
    exact .inr ⟨boughtId, purchase, hid, hbought, .inr ⟨sale, hb, hsold, rfl⟩⟩

/-- The taker's part of every schedule is a run of its loop that sends Buys and then at
most one Sell, and that submits at most a purchase and the sale of the option bought, both
offered by this maker for the same price. -/
theorem run_trades (maker : MarketMaker) (settings : Settings) (chain : Chain) (schedule : Schedule) :
    ∀ t, (run maker settings chain schedule).client.rfqs = some t →
      (∃ turns, t = Taker.run settings chain turns) ∧
      (∃ buys, t.requests = List.replicate (buys + 1) (buyRfq settings) ++
        (t.boughtId.map (sellRfq settings)).toList) ∧
      (t.submitted = [] ∨ ∃ id purchase, Bought maker id purchase ∧
        (t.submitted = [(false, purchase)] ∨ ∃ sale, t.boughtId = some id ∧ SoldBack maker id sale ∧
          t.submitted = [(false, purchase), (true, sale)])) := by
  intro t ht
  have h := run_trading schedule ht
  refine ⟨h.reached, h.requests, h.submitted_cases.imp_right ?_⟩
  intro ⟨id, purchase, _, hbought, hsubmitted⟩
  exact ⟨id, purchase, hbought, hsubmitted⟩

private theorem requested_quoteRequest (settings : Settings) (id : U256) (action : Grpc.Action) :
    Taker.Requested (Taker.quoteRequest settings id action) settings.settlementContract id Taker.amount
      Taker.amount :=
  ⟨Grpc.H160.toHash_ofHash _, Grpc.H256.toU256_ofU256 _, Grpc.H256.toU256_ofU256 _, Grpc.H256.toU256_ofU256 _⟩

section
variable (hcontract : settings.settlementContract = maker.settlementEngine) {order : Seaport.Order}
include hcontract

private theorem Bought.matches (h : Bought maker settings.optionId order) :
    Taker.Matches (buyRfq settings) false order := by
  refine ⟨_, by rw [h.offer]; exact List.mem_singleton.mpr rfl, ?_⟩
  rw [← hcontract]
  exact requested_quoteRequest settings settings.optionId .buy

private theorem SoldBack.matches {id : U256} (h : SoldBack maker id order) :
    Taker.Matches (sellRfq settings id) true order := by
  refine ⟨_, by rw [h.consideration]; exact List.mem_singleton.mpr rfl, ?_⟩
  rw [← hcontract]
  exact requested_quoteRequest settings id .sell

variable (husdc : maker.usdcAddress ≠ maker.settlementEngine)
include husdc

private theorem Bought.gives_none {id : U256} (h : Bought maker id order) : ¬Taker.Gives settings order := by
  rintro ⟨item, hitem, htoken⟩
  rw [h.consideration] at hitem
  rw [List.mem_singleton.mp hitem, hcontract] at htoken
  exact husdc htoken

private theorem SoldBack.receives_none {id : U256} (h : SoldBack maker id order) :
    ¬Taker.Receives settings order := by
  rintro ⟨item, hitem, htoken⟩
  rw [h.offer] at hitem
  rw [List.mem_singleton.mp hitem, hcontract] at htoken
  exact husdc htoken

end

/-- With receipts that report the option asked for, every order matches the request of its
phase, and options are received once and given away once. -/
theorem run_matches (maker : MarketMaker) (settings : Settings) (chain : Chain) (schedule : Schedule)
    (hcontract : settings.settlementContract = maker.settlementEngine)
    (husdc : maker.usdcAddress ≠ maker.settlementEngine)
    (hserved : ∀ label ∈ schedule, Served (Reports maker (· = settings.optionId)) label) :
    ∀ t, (run maker settings chain schedule).client.rfqs = some t →
      Taker.SubmitsMatching settings t ∧ Taker.FulfillsOnce settings t := by
  intro t ht
  have h : Trading maker settings chain (· = settings.optionId) t := (run_sound schedule hserved).2.trading t ht
  obtain ⟨buys, hreq⟩ := h.requests
  have hbuy : buyRfq settings ∈ t.requests := by
    rw [hreq]
    exact List.mem_append_left _ (List.mem_replicate.mpr ⟨by omega, rfl⟩)
  rcases h.submitted_cases with hnone | ⟨id, purchase, rfl, hbought, hone | ⟨sale, hid, hsold, hboth⟩⟩
  · unfold Taker.SubmitsMatching Taker.FulfillsOnce
    rw [hnone]
    exact ⟨fun x hx => (by cases hx), .nil, .nil⟩
  · unfold Taker.SubmitsMatching Taker.FulfillsOnce
    rw [hone]
    refine ⟨fun x hx => ?_, List.pairwise_singleton _ _, List.pairwise_singleton _ _⟩
    rw [List.mem_singleton.mp hx]
    exact ⟨buyRfq settings, hbuy, rfl, hbought.matches hcontract⟩
  · have hsell : sellRfq settings settings.optionId ∈ t.requests := by
      rw [hreq, hid]
      exact List.mem_append_right _ (List.mem_singleton.mpr rfl)
    unfold Taker.SubmitsMatching Taker.FulfillsOnce
    rw [hboth]
    refine ⟨fun x hx => ?_, List.pairwise_pair.mpr ?_, List.pairwise_pair.mpr ?_⟩
    · rcases List.mem_cons.mp hx with rfl | hx
      · exact ⟨buyRfq settings, hbuy, rfl, hbought.matches hcontract⟩
      · rw [List.mem_singleton.mp hx]
        refine ⟨_, hsell, ?_, hsold.matches hcontract⟩
        rw [Taker.State.phaseRfq, hid]
        rfl
    · exact fun hreceives => hsold.receives_none hcontract husdc hreceives.2
    · exact fun hgives => hbought.gives_none hcontract husdc hgives.1

/-! The schedule in which the taker's second Buy request is offered. -/

theorem sample_phases : ((run Maker.sampleMaker Taker.sampleSettings Taker.sampleChain sampleSchedule).client.rfqs.map
    fun t => t.submitted.map Prod.fst) = some [false, true] := by decide +kernel

/-- The option that is bought is sold back. -/
theorem run_trades_retried : ∃ t id purchase sale,
    (run Maker.sampleMaker Taker.sampleSettings Taker.sampleChain sampleSchedule).client.rfqs = some t ∧
      t.submitted = [(false, purchase), (true, sale)] ∧ Bought Maker.sampleMaker id purchase ∧
      SoldBack Maker.sampleMaker id sale := by
  obtain ⟨t, ht, hphases⟩ := Option.map_eq_some_iff.mp sample_phases
  obtain ⟨_, _, hsubmitted⟩ := run_trades Maker.sampleMaker Taker.sampleSettings Taker.sampleChain sampleSchedule t ht
  rcases hsubmitted with h | ⟨id, purchase, hbought, h | ⟨sale, _, hsold, h⟩⟩
  · rw [h] at hphases
    cases hphases
  · rw [h] at hphases
    cases hphases
  · exact ⟨t, id, purchase, sale, ht, h, hbought, hsold⟩

theorem run_matches_retried : ∃ t,
    (run Maker.sampleMaker Taker.sampleSettings Taker.sampleChain sampleSchedule).client.rfqs = some t ∧
      Taker.SubmitsMatching Taker.sampleSettings t ∧ t.submitted ≠ [] := by
  have hserved : ∀ label ∈ sampleSchedule, Served (Reports Maker.sampleMaker (· = 42)) label := by
    intro label hlabel
    simp only [sampleSchedule, List.mem_cons, List.not_mem_nil, or_false] at hlabel
    rcases hlabel with rfl | rfl | rfl | rfl | rfl | rfl | rfl | rfl
    · exact reports_sampleRpc
    · trivial
    · exact reports_sampleRpcUnwritten
    · trivial
    · exact reports_sampleRpc
    · trivial
    · exact reports_sampleRpc
    · trivial
  obtain ⟨t, ht, hphases⟩ := Option.map_eq_some_iff.mp sample_phases
  have hmatches := run_matches Maker.sampleMaker Taker.sampleSettings Taker.sampleChain sampleSchedule rfl (by decide)
    hserved t ht
  refine ⟨t, ht, hmatches.1, fun hnone => ?_⟩
  rw [hnone] at hphases
  cases hphases

end TradeInterfaces.Market
