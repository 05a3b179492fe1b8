import TradeInterfaces.Market.Replies

/-! Taker and maker take turns: a message is answered by at most one, and the taker's log
keeps the last request it sent. -/
namespace TradeInterfaces.Market
open Foundations.Panics Foundations.Effects Foundations.Exchanges Ethers
open Maker (MarketMaker)
open Taker (Settings Chain buyRfq)

variable (settings : Settings) (chain : Chain)

/-- What reading a quote leads to: the quote is asked for again, the RFQ is sent, or
neither. -/
theorem readQuote_cases {softQuotes : Taker.SoftState} (hs : softQuotes.status = .asking) (calls : TakerCalls)
    (response : Grpc.SoftQuoteResponse) :
    (∃ status, readQuote settings softQuotes calls response = (⟨⟨status, softQuotes.requests⟩, none⟩, [])) ∨
    readQuote settings softQuotes calls response =
      (⟨⟨.asking, softQuotes.requests ++ [buyRfq settings]⟩, none⟩, [(.softQuote, buyRfq settings)]) ∨
    readQuote settings softQuotes calls response =
      (⟨⟨.liked, softQuotes.requests⟩, some (Taker.State.initial settings)⟩, [(.rfq, buyRfq settings)]) := by
  rcases Taker.readSoftQuote_cases settings ⟨.ok (some response), calls.channelOpen⟩ with
    ⟨_, _, _, _, h⟩ | ⟨_, _, _, _, _, _, h⟩ | ⟨panic, h⟩
  · exact .inr (.inl (by simp [readQuote, Taker.softStep, hs, h]))
  · cases hc : calls.channelOpen with
    | true =>
      rw [hc] at h
      exact .inr (.inr (by simp [readQuote, Taker.softStep, hs, h, hc]))
    | false =>
      rw [hc] at h
      exact .inl ⟨.panicked .unwrapOnErr, by simp [readQuote, Taker.softStep, hs, h, hc]⟩
  · exact .inl ⟨.panicked panic, by simp [readQuote, Taker.softStep, hs, h]⟩

/-- The requests that are sent are the ones the log takes. -/
theorem readOffer_eq {t : Taker.State} (hs : t.status = .running) {calls : TakerCalls}
    {response : Grpc.QuoteResponse} {sent : List Grpc.QuoteRequest}
    (h : (Taker.step settings chain t (calls.turn (.ok (some response)))).requests = t.requests ++ sent) :
    readOffer settings chain t calls response =
      (Taker.step settings chain t (calls.turn (.ok (some response))), sent.map fun rfq => (.rfq, rfq)) := by
  have hlog : (Taker.step settings chain t (calls.turn (.ok (some response)))).requests = t.requests ++
      (Taker.answer settings chain t (calls.turn (.ok (some response)))).events.filterMap Taker.Event.request? := by
    unfold Taker.step Taker.State.requests
    rw [if_pos hs, ← List.filterMap_append]
    dsimp only
    split <;> rfl
  rw [List.append_cancel_left (h.symm.trans hlog)]
  rfl

theorem readOffer_cases {t : Taker.State} (hs : t.status = .running) (calls : TakerCalls)
    (response : Grpc.QuoteResponse) :
    let t' := Taker.step settings chain t (calls.turn (.ok (some response)))
    (readOffer settings chain t calls response = (t', []) ∧ t'.requests = t.requests) ∨
    ∃ rfq, readOffer settings chain t calls response = (t', [(.rfq, rfq)]) ∧ t'.requests = t.requests ++ [rfq] := by
  intro t'
  rcases @Taker.step_requests settings chain t (calls.turn (.ok (some response))) with
    ⟨_, _, _, h, _⟩ | ⟨_, _, id, h⟩ | ⟨h, _⟩
  · exact .inr ⟨_, readOffer_eq settings chain hs h, h⟩
  · exact .inr ⟨_, readOffer_eq settings chain hs h, h⟩
  · exact .inl ⟨readOffer_eq settings chain hs (h.trans (List.append_nil _).symm), h⟩

/-- What the taker does with a response that it looks at. -/
theorem read_cases {s s' : Session} {calls : TakerCalls} {response : Response} {sent : List Request}
    (h : read settings chain s calls response = some (s', sent)) :
    (∃ quote, response = .softQuote quote ∧ s.rfqs = none ∧ s.softQuotes.status = .asking ∧
      readQuote settings s.softQuotes calls quote = (s', sent)) ∨
    ∃ offer t, response = .rfq offer ∧ s.rfqs = some t ∧ t.status = .running ∧
      ∃ t', readOffer settings chain t calls offer = (t', sent) ∧ s' = ⟨s.softQuotes, some t'⟩ := by
  cases response with
  | softQuote quote =>
    cases hr : s.rfqs with
    | some t => simp [read, hr] at h
    | none =>
      by_cases hs : s.softQuotes.status = .asking
      · simp only [read, hr, hs, if_true, Option.some.injEq] at h
        exact .inl ⟨quote, rfl, rfl, hs, h⟩
      · simp [read, hr, hs] at h
  | rfq offer =>
    cases hr : s.rfqs with
    | none => simp [read, hr] at h
    | some t =>
      by_cases hs : t.status = .running
      · simp only [read, hr, hs, if_true, Option.some.injEq, Prod.mk.injEq] at h
        obtain ⟨rfl, rfl⟩ := h
        exact .inr ⟨offer, t, rfl, rfl, hs, _, rfl, rfl⟩
      · simp [read, hr, hs] at h

theorem step_ended (t : Taker.State) :
    (Taker.step settings chain t ⟨.ok none, .ok (), .succeeded, .ok (), .ok (), true⟩).requests = t.requests := by
  rcases @Taker.step_requests settings chain t ⟨.ok none, .ok (), .succeeded, .ok (), .ok (), true⟩ with
    ⟨_, hno, _⟩ | ⟨_, hp, id, h⟩ | ⟨h, _⟩
  · cases hno
  · by_cases hs : t.status = .running
    · simp [Taker.State.requests, Taker.step, hs, Taker.answer] at h
    · rw [Taker.step_of_exited settings chain hs]
  · exact h

private theorem breakOff_last (s : Session) : (breakOff settings chain s).last = s.last := by
  cases hr : s.rfqs with
  | none => simp [breakOff, Session.last, hr, Taker.softStep_ended]
  | some t => simp [breakOff, Session.last, hr, step_ended]

theorem takesTurns (maker : MarketMaker) : TakesTurns (parties maker settings chain) Session.last where
  read := by
    intro s calls response s' sent h
    rcases read_cases settings chain h with ⟨quote, _, hr, hs, hq⟩ | ⟨offer, t, _, hr, hs, t', ho, rfl⟩
    · rcases readQuote_cases settings hs calls quote with ⟨status, h⟩ | h | h
      · cases hq.symm.trans h
        exact .inl ⟨rfl, by simp [Session.last, hr]⟩
      · cases hq.symm.trans h
        exact .inr ⟨_, rfl, by simp [Session.last]⟩
      · cases hq.symm.trans h
        exact .inr ⟨_, rfl, rfl⟩
    · rcases readOffer_cases settings chain hs calls offer with ⟨h, hreq⟩ | ⟨rfq, h, hreq⟩
      · cases ho.symm.trans h
        exact .inl ⟨rfl, by simp [Session.last, hr, hreq]⟩
      · cases ho.symm.trans h
        exact .inr ⟨_, rfl, by simp [Session.last, hreq]⟩
  serve := by
    intro m calls request m' sent h
    rcases serve_cases h with rfl | ⟨_, response, rfl, _⟩ | ⟨_, response, rfl, _⟩
    · exact .inl rfl
    · exact .inr ⟨_, rfl⟩
    · exact .inr ⟨_, rfl⟩
  breakOff := breakOff_last settings chain

end TradeInterfaces.Market
