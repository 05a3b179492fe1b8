import TradeInterfaces.Maker.Answers

/-! The maker's log, request by request: what is written on chain for a request, what is
signed for it, and the answer. -/
namespace TradeInterfaces.Maker
open Foundations.Panics Foundations.Effects Ethers
open Seaport (seaportContractAddress)

/-- The option and the amount that a request has written: it is a Buy that is considered
and whose amount fits. -/
def purchase? (quote : Grpc.QuoteRequest) : Option (U256 × U128) :=
  if (validateRfq seaportContractAddress quote).isSome ∧ Grpc.Action.ofI32 quote.action = .buy then do
    let identifier ← quote.identifierOrCriteria
    let amount ← quote.amount
    let amount ← (asU128 amount.toU256).toOption
    return (identifier.toU256, amount)
  else none

/-- The two sides of the order that a request is offered. -/
def offer? (maker : MarketMaker) (rpc : Rpc) (quote : Grpc.QuoteRequest) :
    Option (Grpc.OfferItem × Grpc.ConsiderationItem) :=
  if (validateRfq seaportContractAddress quote).isSome then
    match Grpc.Action.ofI32 quote.action with
    | .buy => do
      let _ ← purchase? quote
      let (optionId, _) ← writtenIds maker rpc
      return (optionOffer maker (some (.ofU256 optionId)) quote.amount, priceConsideration maker 10000000)
    | .sell => do
      let identifier ← quote.identifierOrCriteria
      return (priceOffer maker 10000000, optionConsideration maker (some (.ofU256 identifier.toU256)) quote.amount)
    | .invalid => none
  else none

def writing (maker : MarketMaker) (rpc : Rpc) (quote : Grpc.QuoteRequest) : List Event :=
  match purchase? quote with
  | some (optionType, amount) => writeEvents maker optionType amount writeGasPrice rpc
  | none => []

/-- The order is hashed on chain, and its digest is signed when the hash and the domain
separator are there. -/
def signing (maker : MarketMaker) (rpc : Rpc) : Option (Grpc.OfferItem × Grpc.ConsiderationItem) → List Event
  | none => []
  | some (offered, considered) =>
    match rpc.getCounter with
    | .error _ => []
    | .ok counter =>
      let components := quoteComponents maker offered considered rpc counter
      .getOrderHash components ::
        match rpc.getOrderHash, rpc.information with
        | .ok orderHash, .ok domainSeparator => [.signHash (digest maker domainSeparator (orderHash components))]
        | _, _ => []

theorem purchase?_eq_some {quote : Grpc.QuoteRequest} {optionType : U256} {n : U128}
    (h : purchase? quote = some (optionType, n)) :
    ValidRfq seaportContractAddress quote ∧ Grpc.Action.ofI32 quote.action = .buy ∧
      ∃ identifier amount, quote.identifierOrCriteria = some identifier ∧ quote.amount = some amount ∧
        optionType = identifier.toU256 ∧ asU128 amount.toU256 = .ok n := by
  unfold purchase? at h
  split at h
  swap
  · cases h
  rename_i hvalid
  refine ⟨validateRfq_isSome_iff.mp hvalid.1, hvalid.2, ?_⟩
  cases hi : quote.identifierOrCriteria with
  | none => simp [hi] at h
  | some identifier =>
    cases ha : quote.amount with
    | none => simp [hi, ha] at h
    | some amount =>
      cases hn : asU128 amount.toU256 with
      | error p => simp [hi, ha, hn, Except.toOption] at h
      | ok m =>
        simp only [hi, ha, hn, Except.toOption, Option.bind_eq_bind, Option.bind_some, Option.pure_def,
          Option.some.injEq, Prod.mk.injEq] at h
        exact ⟨identifier, amount, rfl, rfl, h.1.symm, by rw [hn, h.2]⟩

/-- A Buy is offered the option that was written, a Sell the price for the option it names. -/
theorem offer?_eq_some {maker : MarketMaker} {rpc : Rpc} {quote : Grpc.QuoteRequest}
    {offered : Grpc.OfferItem} {considered : Grpc.ConsiderationItem}
    (h : offer? maker rpc quote = some (offered, considered)) :
    (∃ optionType n optionId claimId, purchase? quote = some (optionType, n) ∧
      writtenIds maker rpc = some (optionId, claimId) ∧
      offered = optionOffer maker (some (.ofU256 optionId)) quote.amount ∧
      considered = priceConsideration maker 10000000) ∨
    (Grpc.Action.ofI32 quote.action = .sell ∧ ValidRfq seaportContractAddress quote ∧
      ∃ identifier, quote.identifierOrCriteria = some identifier ∧
        offered = priceOffer maker 10000000 ∧
        considered = optionConsideration maker (some (.ofU256 identifier.toU256)) quote.amount) := by
  unfold offer? at h
  split at h
  swap
  · cases h
  rename_i hvalid
  cases hact : Grpc.Action.ofI32 quote.action with
  | buy =>
    cases hp : purchase? quote with
    | none => simp [hact, hp] at h
    | some bought =>
      cases hids : writtenIds maker rpc with
      | none => simp [hact, hp, hids] at h
      | some ids =>
        simp only [hact, hp, hids, Option.bind_eq_bind, Option.bind_some, Option.pure_def,
          Option.some.injEq, Prod.mk.injEq] at h
        exact .inl ⟨bought.1, bought.2, ids.1, ids.2, rfl, rfl, h.1.symm, h.2.symm⟩
  | sell =>
    cases hi : quote.identifierOrCriteria with
    | none => simp [hact, hi] at h
    | some identifier =>
      simp only [hact, hi, Option.bind_eq_bind, Option.bind_some, Option.pure_def,
        Option.some.injEq, Prod.mk.injEq] at h
      exact .inr ⟨rfl, validateRfq_isSome_iff.mp hvalid, identifier, rfl, h.1.symm, h.2.symm⟩
  | invalid => simp [hact] at h

/-- Nothing but a hash and its signature. -/
theorem signing_cases {maker : MarketMaker} (rpc : Rpc) (offer : Option (Grpc.OfferItem × Grpc.ConsiderationItem)) :
    signing maker rpc offer = [] ∨
    ∃ offered considered counter, offer = some (offered, considered) ∧ rpc.getCounter = .ok counter ∧
      (signing maker rpc offer = [.getOrderHash (quoteComponents maker offered considered rpc counter)] ∨
        ∃ orderHash domainSeparator, rpc.getOrderHash = .ok orderHash ∧ rpc.information = .ok domainSeparator ∧
          signing maker rpc offer = [.getOrderHash (quoteComponents maker offered considered rpc counter),
            .signHash (digest maker domainSeparator
              (orderHash (quoteComponents maker offered considered rpc counter)))]) := by
  cases offer with
  | none => exact .inl rfl
  | some sides =>
    cases hc : rpc.getCounter with
    | error e => exact .inl (by simp [signing, hc])
    | ok counter =>
      refine .inr ⟨sides.1, sides.2, counter, rfl, rfl, ?_⟩
      cases hh : rpc.getOrderHash with
      | error e => exact .inl (by simp [signing, hc, hh])
      | ok orderHash =>
        cases hi : rpc.information with
        | error e => exact .inl (by simp [signing, hc, hh, hi])
        | ok domainSeparator => exact .inr ⟨orderHash, domainSeparator, rfl, rfl, by simp [signing, hc, hh, hi]⟩

variable (maker : MarketMaker) (rpc : Rpc)

private theorem signedResponse_events (seaport : Address) (rfq : Grpc.QuoteRequest) (offered : Grpc.OfferItem)
    (considered : Grpc.ConsiderationItem) :
    (signedResponse maker seaport rfq (quoteOrder maker offered considered rpc) rpc).events =
      signing maker rpc (some (offered, considered)) := by
  unfold signedResponse signing
  rcases signOrder_cases maker (quoteOrder maker offered considered rpc) rpc with
    ⟨e, hc, h⟩ | ⟨counter, p, _, ho, _⟩ | ⟨counter, components, hc, ho, hcase⟩
  · rw [h, hc, Proc.bind_of_ok rfl]
    rfl
  · rw [orderComponents_quoteOrder] at ho
    cases ho
  · rw [orderComponents_quoteOrder] at ho
    cases ho
    rw [hc]
    rcases hcase with ⟨e, hf, h⟩ | ⟨orderHash, ds, hh, hi, h⟩
    · rw [h, Proc.bind_of_ok rfl]
      rcases hf with hf | hf
      · simp [hf]
      · cases rpc.getOrderHash <;> simp [hf]
    · rw [h, Proc.bind_of_ok rfl, hh, hi]
      cases fetchChainId maker rpc <;> rfl

/-- A request is offered nothing, or it ends as the signing of its two sides does. -/
theorem answerRfq_sides (quote : Grpc.QuoteRequest) :
    (offer? maker rpc quote = none ∧ (answerRfq maker rpc quote).events = writing maker rpc quote ∧
      ∀ response, (answerRfq maker rpc quote).outcome = .ok (some response) → response.order = none) ∨
    ∃ offered considered, offer? maker rpc quote = some (offered, considered) ∧
      answerRfq maker rpc quote =
        ⟨(signedResponse maker seaportContractAddress quote (quoteOrder maker offered considered rpc) rpc).outcome,
          writing maker rpc quote ++
            (signedResponse maker seaportContractAddress quote (quoteOrder maker offered considered rpc) rpc).events⟩ := by
  by_cases hv : (validateRfq seaportContractAddress quote).isSome
  swap
  · have hnone : validateRfq seaportContractAddress quote = none := by simpa using hv
    have hp : purchase? quote = none := by simp [purchase?, hnone]
    refine .inl ⟨by simp [offer?, hnone], by simp [answerRfq, writing, hnone, hp], ?_⟩
    intro response hr
    simp only [answerRfq, hnone, Option.isNone_none, if_true, Proc.outcome_pure, Except.ok.injEq,
      Option.some.injEq] at hr
    rw [← hr]
    rfl
  have hvalid := validateRfq_isSome_iff.mp hv
  obtain ⟨id, hi⟩ := Option.isSome_iff_exists.mp hvalid.identifier
  obtain ⟨amount, ha, _⟩ := hvalid.amount
  have hanswer : answerRfq maker rpc quote = handleRfqRequest maker seaportContractAddress quote rpc := by
    rw [answerRfq, if_neg (by simpa [Option.isSome_iff_ne_none] using hv)]
  rw [hanswer]
  rcases rfqItems_cases maker hi ha rpc 10000000 with
    ⟨hb, hlarge, h⟩ | ⟨hb, n, hn, hcase⟩ | ⟨hs, h⟩ | ⟨hinv, _⟩
  · have hp : purchase? quote = none := by
      rw [purchase?, if_pos ⟨hv, hb⟩, hi, ha]
      simp [asU128_error_iff.mpr ⟨hlarge, rfl⟩, Except.toOption]
    rw [handleRfqRequest_of_panic seaportContractAddress h]
    exact .inl ⟨by simp [offer?, hp, hb, hv], by simp [writing, hp], fun response hr => by cases hr⟩
  · have hp : purchase? quote = some (id.toU256, n) := by
      rw [purchase?, if_pos ⟨hv, hb⟩, hi, ha]
      simp [hn, Except.toOption]
    rcases hcase with ⟨hids, h⟩ | ⟨optionId, claimId, hids, h⟩
    · rw [handleRfqRequest_of_noOffer seaportContractAddress h]
      refine .inl ⟨by simp [offer?, hp, hb, hv, hids], by simp [writing, hp], ?_⟩
      intro response hr
      cases hr
      rfl
    · rw [handleRfqRequest_of_items seaportContractAddress h]
      have hoffer : offer? maker rpc quote =
          some (optionOffer maker (some (.ofU256 optionId)) quote.amount, priceConsideration maker 10000000) := by
        simp [offer?, hp, hb, hv, hids]
      exact .inr ⟨_, _, hoffer, by simp only [writing, hp]⟩
  · have hp : purchase? quote = none := by simp [purchase?, hs]
    rw [handleRfqRequest_of_items seaportContractAddress h]
    have hoffer : offer? maker rpc quote = some (priceOffer maker 10000000,
        optionConsideration maker (some (.ofU256 id.toU256)) quote.amount) := by
      simp [offer?, hs, hv, hi]
    exact .inr ⟨_, _, hoffer, by simp only [writing, hp]⟩
  · exact absurd hinv hvalid.action

/-- The log of a request is what is written for it and what is signed for it. -/
theorem answerRfq_account (quote : Grpc.QuoteRequest) :
    (answerRfq maker rpc quote).events =
      writing maker rpc quote ++ signing maker rpc (offer? maker rpc quote) := by
  rcases answerRfq_sides maker rpc quote with ⟨ho, he, _⟩ | ⟨offered, considered, ho, h⟩
  · rw [ho, he, signing, List.append_nil]
  · rw [ho, h, signedResponse_events]

/-- An order in an answer has the two sides of the offer, and its signature is over the
digest of its components. -/
theorem answerRfq_signedOrder {quote : Grpc.QuoteRequest} {response : Grpc.QuoteResponse} {signedOrder : Grpc.SignedOrder}
    (hr : (answerRfq maker rpc quote).outcome = .ok (some response)) (ho : response.order = some signedOrder) :
    ∃ offered considered counter hash, offer? maker rpc quote = some (offered, considered) ∧
      signing maker rpc (some (offered, considered)) =
        [.getOrderHash (quoteComponents maker offered considered rpc counter), .signHash hash] ∧
      signedOrder = ⟨some (quoteOrder maker offered considered rpc), some (.ofSignature (maker.signHash hash))⟩ := by
  rcases answerRfq_sides maker rpc quote with ⟨_, _, hnone⟩ | ⟨offered, considered, hoffer, h⟩
  · rw [hnone response hr] at ho
    cases ho
  have hsigned := signedResponse_events maker rpc seaportContractAddress quote offered considered
  rw [h] at hr
  rcases signedResponse_cases maker seaportContractAddress quote offered considered rpc with
    ⟨_, hfail, _⟩ | ⟨hanswers, components, hash, hresp⟩
  · rw [hfail] at hr
    cases hr
  · rw [hresp] at hr hsigned
    cases hr
    cases ho
    obtain ⟨counter, hc⟩ := hanswers.getCounter
    refine ⟨offered, considered, counter, hash, hoffer, ?_, rfl⟩
    have hhead : (signing maker rpc (some (offered, considered))).head? =
        some (.getOrderHash (quoteComponents maker offered considered rpc counter)) := by
      simp [signing, hc]
    rw [← hsigned] at hhead ⊢
    cases hhead
    rfl

/-- What a turn that read a request does. -/
theorem selectBranch_account {turn : Turn} {quote : Grpc.QuoteRequest} (hm : turn.message = .ok (some quote)) :
    (supported quote = false ∧ (selectBranch maker turn).events = []) ∨
    (supported quote = true ∧ turn.stream = .rfq ∧ ∃ queued,
      (selectBranch maker turn).events =
        writing maker turn.rpc quote ++ signing maker turn.rpc (offer? maker turn.rpc quote) ++ queued ∧
      (queued = [] ∨ ∃ response, (answerRfq maker turn.rpc quote).outcome = .ok (some response) ∧
        queued = [.queueQuote response])) ∨
    (supported quote = true ∧ turn.stream = .softQuote ∧
      ((selectBranch maker turn).events = [] ∨
        ∃ response, (selectBranch maker turn).events = [.queueSoftQuote response])) := by
  cases hsup : supported quote with
  | false =>
    refine .inl ⟨rfl, ?_⟩
    rw [selectBranch]
    rw [hm]
    cases turn.stream <;> exact congrArg Proc.events (serve_of_unsupported _ _ _ hsup)
  | true =>
    refine .inr ?_
    rw [selectBranch]
    rw [hm]
    cases turn.stream with
    | rfq =>
      refine .inl ⟨rfl, rfl, ?_⟩
      rw [← answerRfq_account]
      rcases serve_supported_cases (answerRfq maker turn.rpc) .queueQuote turn.channelOpen hsup with
        ⟨response, hr, _, h⟩ | ⟨outcome, _, _, h⟩
      · exact ⟨_, congrArg Proc.events h, .inr ⟨response, hr, rfl⟩⟩
      · exact ⟨[], (congrArg Proc.events h).trans (List.append_nil _).symm, .inl rfl⟩
    | softQuote =>
      refine .inr ⟨rfl, rfl, ?_⟩
      rcases serve_supported_cases (answerSoftQuote maker turn.rpc) .queueSoftQuote turn.channelOpen hsup with
        ⟨response, hr, _, h⟩ | ⟨outcome, _, _, h⟩
      · exact .inr ⟨response, by simp [h, answerSoftQuote_events]⟩
      · exact .inl (by simp [h, answerSoftQuote_events])

end TradeInterfaces.Maker
