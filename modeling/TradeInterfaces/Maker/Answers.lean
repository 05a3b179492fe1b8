import TradeInterfaces.Maker.Outcomes

/-! The maker's answers over a run: one for each request it looks at, in order, on the
channel of the stream the request came from. -/
namespace TradeInterfaces.Maker
open Foundations.Panics Foundations.Effects Ethers
open Seaport (seaportContractAddress)

/-- The requests on a stream that carry a supported chain id. -/
def requestsOn (stream : Stream) (consumed : List (Stream × Grpc.QuoteRequest)) : List Grpc.QuoteRequest :=
  (consumed.filter fun x => x.1 = stream && supported x.2).map Prod.snd

/-- Each channel holds one answer to each of these requests, in their order. -/
structure InStep (consumed : List (Stream × Grpc.QuoteRequest)) (s : State) : Prop where
  rfq : List.Forall₂ (fun quote response => response.ulid = quote.ulid) (requestsOn .rfq consumed)
    s.quoteResponses
  softQuote : List.Forall₂ (fun quote response => response.ulid = quote.ulid) (requestsOn .softQuote consumed)
    s.softQuoteResponses

/-- Nothing is put on a channel. -/
def Event.Quiet (e : Event) : Prop := e.quoteResponse? = none ∧ e.softQuoteResponse? = none

private theorem writeEvents_quiet (maker : MarketMaker) (optionType : U256) (amount : U128)
    (gasPrice : U256) (rpc : Rpc) :
    ∀ e ∈ writeEvents maker optionType amount gasPrice rpc, e.Quiet := by
  intro e he
  unfold writeEvents at he
  cases hw : rpc.writeEffect with
  | none =>
    rw [hw] at he
    rw [List.mem_singleton.mp he]
    exact ⟨rfl, rfl⟩
  | some id =>
    rw [hw] at he
    rcases List.mem_cons.mp he with rfl | he
    · exact ⟨rfl, rfl⟩
    · rw [List.mem_singleton.mp he]
      exact ⟨rfl, rfl⟩

theorem Sides.quiet {maker : MarketMaker} {rfq : Grpc.QuoteRequest} {id amount : Grpc.H256} {rpc : Rpc}
    {offered : Grpc.OfferItem} {considered : Grpc.ConsiderationItem} {before : List Event}
    (h : Sides maker rfq id amount rpc offered considered before) : ∀ e ∈ before, e.Quiet := by
  cases h with
  | buy action fits ids => exact writeEvents_quiet maker _ _ _ rpc
  | sell action => simp

/-- The handlers put nothing on a channel themselves. -/
theorem answerRfq_quiet (maker : MarketMaker) (rpc : Rpc) (quote : Grpc.QuoteRequest) :
    ∀ e ∈ (answerRfq maker rpc quote).events, e.Quiet := by
  have h := answerRfq_answered maker rpc quote
  generalize answerRfq maker rpc quote = task at h
  intro e he
  cases h with
  | malformed invalid => cases he
  | handled valid identifier requested handled =>
    cases handled with
    | overflow action large => cases he
    | noOffer action fits ids => exact writeEvents_quiet maker _ _ _ rpc e he
    | unsigned sides fails quiet =>
      rcases List.mem_append.mp he with he | he
      · exact sides.quiet e he
      · rcases quiet e he with ⟨_, rfl⟩ | ⟨_, rfl⟩ <;> exact ⟨rfl, rfl⟩
    | offer sides answers =>
      rcases List.mem_append.mp he with he | he
      · exact sides.quiet e he
      · rcases List.mem_cons.mp he with rfl | he
        · exact ⟨rfl, rfl⟩
        · rw [List.mem_singleton.mp he]
          exact ⟨rfl, rfl⟩

theorem answerRfq_ulid {maker : MarketMaker} {rpc : Rpc} {quote : Grpc.QuoteRequest}
    {response : Grpc.QuoteResponse} (h : (answerRfq maker rpc quote).outcome = .ok (some response)) :
    response.ulid = quote.ulid := by
  have ha := answerRfq_answered maker rpc quote
  generalize answerRfq maker rpc quote = task at h ha
  cases ha with
  | malformed invalid =>
    cases h
    rfl
  | handled valid identifier requested handled => cases handled <;> cases h <;> rfl

theorem answerSoftQuote_events (maker : MarketMaker) (rpc : Rpc) (quote : Grpc.QuoteRequest) :
    (answerSoftQuote maker rpc quote).events = [] := by
  have ha := answerSoftQuote_answered maker rpc quote
  generalize answerSoftQuote maker rpc quote = task at ha
  cases ha <;> rfl

theorem answerSoftQuote_quiet (maker : MarketMaker) (rpc : Rpc) (quote : Grpc.QuoteRequest) :
    ∀ e ∈ (answerSoftQuote maker rpc quote).events, e.Quiet := by
  simp [answerSoftQuote_events]

private theorem answerSoftQuote_ulid {maker : MarketMaker} {rpc : Rpc} {quote : Grpc.QuoteRequest}
    {response : Grpc.SoftQuoteResponse} (h : (answerSoftQuote maker rpc quote).outcome = .ok (some response)) :
    response.ulid = quote.ulid := by
  have ha := answerSoftQuote_answered maker rpc quote
  generalize answerSoftQuote maker rpc quote = task at h ha
  cases ha <;> cases h <;> rfl

/-- What a turn puts on the channels. -/
theorem selectBranch_cases (maker : MarketMaker) (turn : Turn) :
    (turn.request? = none ∧ selectBranch maker turn = ⟨.ok .returned, []⟩) ∨
    (∃ quote, turn.message = .ok (some quote) ∧ supported quote = false ∧
      selectBranch maker turn = ⟨.ok .next, []⟩) ∨
    ∃ quote quiet, turn.message = .ok (some quote) ∧ supported quote = true ∧ (∀ e ∈ quiet, e.Quiet) ∧
      ((turn.stream = .rfq ∧ ∃ response : Grpc.QuoteResponse, response.ulid = quote.ulid ∧
          selectBranch maker turn = ⟨.ok .next, quiet ++ [.queueQuote response]⟩) ∨
        (turn.stream = .softQuote ∧ ∃ response : Grpc.SoftQuoteResponse, response.ulid = quote.ulid ∧
          selectBranch maker turn = ⟨.ok .next, quiet ++ [.queueSoftQuote response]⟩) ∨
        ∃ outcome, outcome ≠ .ok .next ∧ selectBranch maker turn = ⟨outcome, quiet⟩) := by
  by_cases hm : ∃ quote, turn.message = .ok (some quote)
  swap
  · have hno (quote : Grpc.QuoteRequest) : turn.message ≠ .ok (some quote) := fun h => hm ⟨quote, h⟩
    refine .inl ⟨?_, ?_⟩
    · unfold Turn.request?
      split
      · rename_i quote h
        exact absurd h (hno quote)
      · rfl
    · unfold selectBranch
      cases turn.stream <;> exact serve_of_noRequest _ _ _ hno
  · obtain ⟨quote, hm⟩ := hm
    cases hsup : supported quote with
    | false =>
      refine .inr (.inl ⟨quote, hm, hsup, ?_⟩)
      unfold selectBranch
      rw [hm]
      cases turn.stream <;> exact serve_of_unsupported _ _ _ hsup
    | true =>
      refine .inr (.inr ?_)
      unfold selectBranch
      rw [hm]
      cases turn.stream with
      | rfq =>
        refine ⟨quote, _, rfl, hsup, answerRfq_quiet maker turn.rpc quote, ?_⟩
        rcases serve_supported_cases (answerRfq maker turn.rpc) .queueQuote turn.channelOpen hsup with
          ⟨response, hr, _, h⟩ | ⟨outcome, hne, _, h⟩
        · exact .inl ⟨rfl, response, answerRfq_ulid hr, h⟩
        · exact .inr (.inr ⟨outcome, hne, h⟩)
      | softQuote =>
        refine ⟨quote, _, rfl, hsup, answerSoftQuote_quiet maker turn.rpc quote, ?_⟩
        rcases serve_supported_cases (answerSoftQuote maker turn.rpc) .queueSoftQuote turn.channelOpen hsup with
          ⟨response, hr, _, h⟩ | ⟨outcome, hne, _, h⟩
        · exact .inr (.inl ⟨rfl, response, answerSoftQuote_ulid hr, h⟩)
        · exact .inr (.inr ⟨outcome, hne, h⟩)

section
variable {maker : MarketMaker}

private theorem filterMap_quiet {events : List Event} (h : ∀ e ∈ events, e.Quiet) :
    events.filterMap Event.quoteResponse? = [] ∧ events.filterMap Event.softQuoteResponse? = [] :=
  ⟨List.filterMap_eq_nil_iff.mpr fun e he => (h e he).1, List.filterMap_eq_nil_iff.mpr fun e he => (h e he).2⟩

private theorem responses_append {s t : State} {quiet sent : List Event} (hq : ∀ e ∈ quiet, e.Quiet)
    (ht : t.events = s.events ++ (quiet ++ sent)) :
    t.quoteResponses = s.quoteResponses ++ sent.filterMap Event.quoteResponse? ∧
      t.softQuoteResponses = s.softQuoteResponses ++ sent.filterMap Event.softQuoteResponse? := by
  obtain ⟨hquotes, hsoft⟩ := filterMap_quiet hq
  unfold State.quoteResponses State.softQuoteResponses
  simp only [ht, List.filterMap_append, hquotes, hsoft, List.nil_append, and_self]

private theorem requestsOn_snoc (stream : Stream) (xs : List (Stream × Grpc.QuoteRequest))
    {quote : Grpc.QuoteRequest} (h : supported quote = true) :
    requestsOn stream (xs ++ [(stream, quote)]) = requestsOn stream xs ++ [quote] := by
  simp [requestsOn, h]

private theorem requestsOn_snoc_other {stream other : Stream} (xs : List (Stream × Grpc.QuoteRequest))
    {quote : Grpc.QuoteRequest} (h : other ≠ stream ∨ supported quote = false) :
    requestsOn stream (xs ++ [(other, quote)]) = requestsOn stream xs := by
  rcases h with h | h <;> simp [requestsOn, h]

/-- A turn of a running loop, by its effect on the two channels and on what was read. -/
theorem step_channels {s : State} (hs : s.status = .running) (turn : Turn) :
    let t := step maker s turn
    (turn.request? = none ∧ t.status = .returned ∧ t.consumed = s.consumed ∧ t.events = s.events) ∨
    (∃ quote, turn.message = .ok (some quote) ∧ supported quote = false ∧
      t = { s with consumed := s.consumed ++ [(turn.stream, quote)] }) ∨
    ∃ quote, turn.message = .ok (some quote) ∧ supported quote = true ∧
      t.consumed = s.consumed ++ [(turn.stream, quote)] ∧
      ((turn.stream = .rfq ∧ t.status = .running ∧ t.softQuoteResponses = s.softQuoteResponses ∧
          ∃ response, response.ulid = quote.ulid ∧ t.quoteResponses = s.quoteResponses ++ [response]) ∨
        (turn.stream = .softQuote ∧ t.status = .running ∧ t.quoteResponses = s.quoteResponses ∧
          ∃ response, response.ulid = quote.ulid ∧ t.softQuoteResponses = s.softQuoteResponses ++ [response]) ∨
        (t.status ≠ .running ∧ t.quoteResponses = s.quoteResponses ∧
          t.softQuoteResponses = s.softQuoteResponses)) := by
  intro t
  have ht : t = step maker s turn := rfl
  rw [step, if_pos hs] at ht
  rcases selectBranch_cases maker turn with
    ⟨hno, hb⟩ | ⟨quote, hm, hsup, hb⟩ | ⟨quote, quiet, hm, hsup, hq, hcase⟩
  · rw [hb] at ht
    exact .inl ⟨hno, by rw [ht], by rw [ht, hno]; simp, by rw [ht]; simp⟩
  · rw [hb] at ht
    refine .inr (.inl ⟨quote, hm, hsup, ?_⟩)
    rw [ht, Turn.request?, hm]
    simp [hs]
  · have hread : turn.request? = some (turn.stream, quote) := by rw [Turn.request?, hm]
    refine .inr (.inr ⟨quote, hm, hsup, by rw [ht, hread]; rfl, ?_⟩)
    rcases hcase with ⟨hstream, response, hid, hb⟩ | ⟨hstream, response, hid, hb⟩ | ⟨outcome, hne, hb⟩
    · rw [hb] at ht
      obtain ⟨hquotes, hsoft⟩ := responses_append hq (congrArg State.events ht)
      exact .inl ⟨hstream, by rw [ht], hsoft.trans (List.append_nil _), response, hid, hquotes⟩
    · rw [hb] at ht
      obtain ⟨hquotes, hsoft⟩ := responses_append hq (congrArg State.events ht)
      exact .inr (.inl ⟨hstream, by rw [ht], hquotes.trans (List.append_nil _), response, hid, hsoft⟩)
    · rw [hb] at ht
      have hevents : t.events = s.events ++ (quiet ++ []) := by rw [ht, List.append_nil]
      obtain ⟨hquotes, hsoft⟩ := responses_append hq hevents
      refine .inr (.inr ⟨?_, hquotes.trans (List.append_nil _), hsoft.trans (List.append_nil _)⟩)
      rw [ht]
      cases outcome with
      | error panic => simp
      | ok flow =>
        cases flow with
        | next => exact absurd rfl hne
        | returned => simp

/-- The invariant: in step while running, and afterwards but for the last request read. -/
structure InStepUntilLast (s : State) : Prop where
  running : s.status = .running → InStep s.consumed s
  ended : InStep s.consumed s ∨ ∃ before last, s.consumed = before ++ [last] ∧ InStep before s

private theorem InStepUntilLast.of_inStep {s : State} (h : InStep s.consumed s) : InStepUntilLast s :=
  ⟨fun _ => h, .inl h⟩

private theorem step_inStep {s : State} (turn : Turn) (h : InStepUntilLast s) :
    InStepUntilLast (step maker s turn) := by
  by_cases hs : s.status = .running
  swap
  · rwa [show step maker s turn = s from if_neg hs]
  have hin := h.running hs
  rcases @step_channels maker s hs turn with
    ⟨_, hr, hc, he⟩ | ⟨quote, _, hsup, ht⟩ | ⟨quote, _, hsup, hc, hcase⟩
  · apply InStepUntilLast.of_inStep
    constructor
    · rw [hc, State.quoteResponses, he]
      exact hin.rfq
    · rw [hc, State.softQuoteResponses, he]
      exact hin.softQuote
  · rw [ht]
    apply InStepUntilLast.of_inStep
    constructor
    · rw [requestsOn_snoc_other _ (.inr hsup)]
      exact hin.rfq
    · rw [requestsOn_snoc_other _ (.inr hsup)]
      exact hin.softQuote
  · rcases hcase with ⟨hstream, _, hother, response, hid, hq⟩ | ⟨hstream, _, hother, response, hid, hq⟩ |
      ⟨hend, hq, hother⟩
    · apply InStepUntilLast.of_inStep
      constructor
      · rw [hc, hq, hstream, requestsOn_snoc _ _ hsup]
        exact List.rel_append hin.rfq (.cons hid .nil)
      · rw [hc, hother, hstream, requestsOn_snoc_other _ (.inl (by simp))]
        exact hin.softQuote
    · apply InStepUntilLast.of_inStep
      constructor
      · rw [hc, hother, hstream, requestsOn_snoc_other _ (.inl (by simp))]
        exact hin.rfq
      · rw [hc, hq, hstream, requestsOn_snoc _ _ hsup]
        exact List.rel_append hin.softQuote (.cons hid .nil)
    · refine ⟨fun h => absurd h hend, .inr ⟨s.consumed, (turn.stream, quote), hc, ?_, ?_⟩⟩
      · rw [hq]
        exact hin.rfq
      · rw [hother]
        exact hin.softQuote

end

/-- One answer per request, in order, on the right stream, at every point of a run. -/
theorem run_answers (maker : MarketMaker) (turns : List Turn) :
    let s := run maker turns
    (s.status = .running → InStep s.consumed s) ∧
    (InStep s.consumed s ∨ ∃ before last, s.consumed = before ++ [last] ∧ InStep before s) ∧
    (∀ turn quote, s.status = .running → turn.message = .ok (some quote) → supported quote = false →
      step maker s turn = { s with consumed := s.consumed ++ [(turn.stream, quote)] }) ∧
    ∀ turn, (turn.stream = .rfq → (step maker s turn).softQuoteResponses = s.softQuoteResponses) ∧
      (turn.stream = .softQuote → (step maker s turn).quoteResponses = s.quoteResponses) := by
  intro s
  have hstart : InStepUntilLast State.initial := ⟨fun _ => ⟨.nil, .nil⟩, .inl ⟨.nil, .nil⟩⟩
  have hrun : InStepUntilLast s := Foundations.Runs.invariant (fun _ turn h => step_inStep turn h) turns hstart
  refine ⟨hrun.running, hrun.ended, fun turn quote hs hm hsup => ?_, fun turn => ?_⟩
  · rcases @step_channels maker s hs turn with
      ⟨hno, _⟩ | ⟨quote', hm', _, ht⟩ | ⟨quote', hm', hsup', _⟩
    · rw [Turn.request?, hm] at hno
      cases hno
    · rw [hm] at hm'
      cases hm'
      exact ht
    · rw [hm] at hm'
      cases hm'
      rw [hsup] at hsup'
      cases hsup'
  · by_cases hs : s.status = .running
    swap
    · rw [show step maker s turn = s from if_neg hs]
      exact ⟨fun _ => rfl, fun _ => rfl⟩
    rcases @step_channels maker s hs turn with
      ⟨_, _, _, he⟩ | ⟨quote, _, _, ht⟩ | ⟨quote, _, _, _, hcase⟩
    · rw [State.quoteResponses, State.softQuoteResponses, he]
      exact ⟨fun _ => rfl, fun _ => rfl⟩
    · rw [ht]
      exact ⟨fun _ => rfl, fun _ => rfl⟩
    · rcases hcase with ⟨hstream, _, hother, _⟩ | ⟨hstream, _, hother, _⟩ | ⟨_, hq, hother⟩
      · exact ⟨fun _ => hother, fun h => absurd (hstream.symm.trans h) (by simp)⟩
      · exact ⟨fun h => absurd (hstream.symm.trans h) (by simp), fun _ => hother⟩
      · exact ⟨fun _ => hother, fun _ => hq⟩

end TradeInterfaces.Maker
