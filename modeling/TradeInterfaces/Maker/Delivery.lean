import TradeInterfaces.Maker.Answers
import TradeInterfaces.Maker.Crashes

/-! Options written on chain and the offers that are delivered for them. The write comes
first; five calls and the send can fail after it. -/
namespace TradeInterfaces.Maker
open Foundations.BigEndian Foundations.Panics Foundations.Effects Ethers
open Seaport (seaportContractAddress)

/-- The item offers an amount of an option of the settlement engine. -/
structure OffersOptions (maker : MarketMaker) (item : Grpc.OfferItem) (id : U256) (amount : U128) : Prop where
  itemType : item.itemType = Grpc.ItemType.erc1155.toI32
  token : item.token = some (.ofHash maker.settlementEngine)
  identifier : item.identifierOrCriteria.map Grpc.H256.toU256 = some id
  startAmount : item.startAmount.map (fun a => a.toU256.toNat) = some amount.toNat
  endAmount : item.endAmount.map (fun a => a.toU256.toNat) = some amount.toNat

/-- A response to a request whose signed order offers the options. -/
def DeliveredBy (maker : MarketMaker) (rfq : Grpc.QuoteRequest) (id : U256) (amount : U128)
    (response : Grpc.QuoteResponse) : Prop :=
  response.ulid = rfq.ulid ∧ ∃ signedOrder order, response.order = some signedOrder ∧
    signedOrder.signature.isSome ∧ signedOrder.parameters = some order ∧
    ∃ item ∈ order.offer, OffersOptions maker item id amount

/-- What a turn on the RFQ stream writes on chain, it delivers. -/
def WritesDelivered (maker : MarketMaker) (turn : Turn) : Prop :=
  ∀ rfq id amount, turn.stream = .rfq → turn.message = .ok (some rfq) →
    .optionsWritten id amount ∈ (selectBranch maker turn).events →
    ∃ response, .queueQuote response ∈ (selectBranch maker turn).events ∧
      DeliveredBy maker rfq id amount response

/-- The receipt arrives and its last `OptionsWritten` event names the id that was written. -/
structure Reported (maker : MarketMaker) (rpc : Rpc) (id : U256) : Prop where
  sendTransaction : rpc.sendTransaction = .ok ()
  receipt : ∃ receipt event, rpc.pendingTx = .ok (some receipt) ∧ lastWritten maker receipt = some event ∧
    event.optionId = id ∧ id ≠ 0 ∧ event.claimId ≠ 0

/-- When the write of an accepted Buy takes effect, nothing fails after it. -/
def NothingFailsAfterWrite (maker : MarketMaker) (turn : Turn) : Prop :=
  ∀ rfq amount id, turn.stream = .rfq → turn.message = .ok (some rfq) → supported rfq →
    (validateRfq seaportContractAddress rfq).isSome → Grpc.Action.ofI32 rfq.action = .buy →
    rfq.amount = some amount → amount.toU256.toNat < 2^128 → turn.rpc.writeEffect = some id →
    Reported maker turn.rpc id ∧ Answers turn.rpc ∧ turn.channelOpen

section
variable {maker : MarketMaker} {rpc : Rpc} {rfq : Grpc.QuoteRequest}

private theorem not_signing {signing : List Event} {id : U256} {n : U128}
    (quiet : ∀ e ∈ signing, (∃ components, e = .getOrderHash components) ∨ ∃ hash, e = .signHash hash) :
    .optionsWritten id n ∉ signing := by
  intro h
  rcases quiet _ h with ⟨_, he⟩ | ⟨_, he⟩ <;> cases he

private theorem optionsWritten_mem_iff_of_fits {optionType gasPrice requested written : U256} {m n : U128}
    (fits : asU128 requested = .ok m) :
    .optionsWritten written n ∈ writeEvents maker optionType m gasPrice rpc ↔
      asU128 requested = .ok n ∧ rpc.writeEffect = some written := by
  rw [optionsWritten_mem_writeEvents, fits, Except.ok.injEq, and_comm]
  exact and_congr_left' eq_comm

private theorem Sides.optionsWritten_mem_iff {id amount : Grpc.H256} {offered : Grpc.OfferItem}
    {considered : Grpc.ConsiderationItem} {before : List Event}
    (h : Sides maker rfq id amount rpc offered considered before) {written : U256} {n : U128} :
    .optionsWritten written n ∈ before ↔ Grpc.Action.ofI32 rfq.action = .buy ∧
      asU128 amount.toU256 = .ok n ∧ rpc.writeEffect = some written := by
  cases h with
  | buy action fits ids =>
    rw [optionsWritten_mem_iff_of_fits fits]
    exact ⟨fun h => ⟨action, h⟩, fun h => h.2⟩
  | sell action =>
    constructor
    · intro h
      cases h
    · rintro ⟨hb, _⟩
      rw [action] at hb
      cases hb

/-- Options are written for an accepted Buy whose amount fits and whose write takes effect. -/
theorem optionsWritten_mem_answerRfq_iff (maker : MarketMaker) (rpc : Rpc) (rfq : Grpc.QuoteRequest)
    {written : U256} {n : U128} :
    .optionsWritten written n ∈ (answerRfq maker rpc rfq).events ↔
      ValidRfq seaportContractAddress rfq ∧ Grpc.Action.ofI32 rfq.action = .buy ∧
        (∃ amount, rfq.amount = some amount ∧ asU128 amount.toU256 = .ok n) ∧
        rpc.writeEffect = some written := by
  have h := answerRfq_answered maker rpc rfq
  generalize answerRfq maker rpc rfq = task at h
  cases h with
  | malformed invalid =>
    constructor
    · intro h
      cases h
    · exact fun h => absurd h.1 invalid
  | @handled id requestedAmount _ valid identifier requested handled =>
    have hamount {P : Prop} : (∃ amount, rfq.amount = some amount ∧ asU128 amount.toU256 = .ok n) ∧ P ↔
        asU128 requestedAmount.toU256 = .ok n ∧ P := by
      rw [requested]
      simp
    rw [hamount]
    cases handled with
    | overflow action large =>
      constructor
      · intro h
        cases h
      · rintro ⟨_, _, hn, _⟩
        exact absurd (toNat_lt_of_asU128 hn) (Nat.not_lt.mpr large)
    | noOffer action fits ids =>
      rw [optionsWritten_mem_iff_of_fits fits]
      exact ⟨fun h => ⟨valid, action, h⟩, fun h => h.2.2⟩
    | unsigned sides fails quiet =>
      rw [List.mem_append, sides.optionsWritten_mem_iff]
      exact ⟨fun h => ⟨valid, h.resolve_right (not_signing quiet)⟩, fun h => .inl h.2⟩
    | offer sides answers =>
      rw [List.mem_append, sides.optionsWritten_mem_iff]
      exact ⟨fun h => ⟨valid, h.resolve_right (by simp)⟩, fun h => .inl h.2⟩

/-- The ids that the write reports are those of the last event of its receipt. -/
theorem reported_iff_writtenIds {id : U256} :
    Reported maker rpc id ↔ ∃ claimId, writtenIds maker rpc = some (id, claimId) := by
  simp only [writtenIds_eq_some_iff]
  constructor
  · rintro ⟨hs, receipt, event, hp, hl, hid, hne, hcne⟩
    exact ⟨event.claimId, hs, receipt, event, hp, hl, hid, rfl, hne, hcne⟩
  · rintro ⟨claimId, hs, receipt, event, hp, hl, hid, hc, hne, hcne⟩
    exact ⟨hs, receipt, event, hp, hl, hid, hne, hc ▸ hcne⟩

theorem writtenIds_eq_none_iff : writtenIds maker rpc = none ↔ ∀ id, ¬Reported maker rpc id := by
  constructor
  · intro hnone id h
    obtain ⟨claimId, hids⟩ := reported_iff_writtenIds.mp h
    cases hnone.symm.trans hids
  · intro h
    refine Option.eq_none_iff_forall_ne_some.mpr fun ids hids => h ids.1 ?_
    exact reported_iff_writtenIds.mpr ⟨ids.2, hids⟩

/-- An offer of one option delivers that option, in the amount of the request. -/
theorem deliveredBy_offerResponse_iff {seaport : Address} {amount : Grpc.H256} {n : U128}
    (ha : rfq.amount = some amount) (hn : asU128 amount.toU256 = .ok n) {optionId written : U256}
    {considered : Grpc.ConsiderationItem} {hash : H256} :
    DeliveredBy maker rfq written n (offerResponse maker seaport rfq
      (quoteOrder maker (optionOffer maker (some (.ofU256 optionId)) rfq.amount) considered rpc) hash) ↔
      optionId = written := by
  constructor
  · rintro ⟨_, signedOrder, order, ho, _, hpar, item, hitem, hoffers⟩
    cases ho
    cases hpar
    rw [List.mem_singleton.mp hitem] at hoffers
    simpa [optionOffer] using hoffers.identifier
  · rintro rfl
    refine ⟨rfl, _, _, rfl, rfl, rfl, _, List.mem_singleton.mpr rfl, rfl, rfl, ?_, ?_, ?_⟩
    · simp [optionOffer]
    · simp [optionOffer, ha, asU128_ok_iff.mp hn]
    · simp [optionOffer, ha, asU128_ok_iff.mp hn]

/-- An answer with an order comes after calls that all succeeded. -/
theorem answerRfq_delivers_iff (maker : MarketMaker) (rpc : Rpc) {rfq : Grpc.QuoteRequest}
    (hv : ValidRfq seaportContractAddress rfq) (hb : Grpc.Action.ofI32 rfq.action = .buy)
    {amount : Grpc.H256} {n : U128} (ha : rfq.amount = some amount) (hn : asU128 amount.toU256 = .ok n)
    (written : U256) :
    (∃ response, (answerRfq maker rpc rfq).outcome = .ok (some response) ∧
      DeliveredBy maker rfq written n response) ↔ Reported maker rpc written ∧ Answers rpc := by
  have h := answerRfq_answered maker rpc rfq
  generalize answerRfq maker rpc rfq = task at h
  rw [reported_iff_writtenIds]
  cases h with
  | malformed invalid => exact absurd hv invalid
  | @handled id requestedAmount _ _ identifier requested handled =>
    rw [ha] at requested
    cases requested
    cases handled with
    | overflow action large => exact absurd (toNat_lt_of_asU128 hn) (Nat.not_lt.mpr large)
    | noOffer action fits ids =>
      constructor
      · rintro ⟨response, hr, _, signedOrder, order, ho, _⟩
        cases hr
        cases ho
      · rintro ⟨⟨claimId, hids⟩, _⟩
        rw [ids] at hids
        cases hids
    | unsigned sides fails quiet =>
      constructor
      · rintro ⟨response, hr, _⟩
        cases hr
      · exact fun h => absurd h.2 fails
    | offer sides answers =>
      cases sides with
      | sell action =>
        rw [hb] at action
        cases action
      | @buy _ optionId claimId _ _ ids =>
        constructor
        · rintro ⟨response, hr, hdelivered⟩
          cases hr
          rw [(deliveredBy_offerResponse_iff ha hn).mp hdelivered] at ids
          exact ⟨⟨claimId, ids⟩, answers⟩
        · rintro ⟨⟨claimId', hids⟩, _⟩
          rw [ids] at hids
          cases hids
          exact ⟨_, rfl, (deliveredBy_offerResponse_iff ha hn).mpr rfl⟩

private theorem optionsWritten_mem_selectBranch_iff {turn : Turn} (hs : turn.stream = .rfq)
    (hm : turn.message = .ok (some rfq)) {id : U256} {n : U128} :
    .optionsWritten id n ∈ (selectBranch maker turn).events ↔
      supported rfq = true ∧ .optionsWritten id n ∈ (answerRfq maker turn.rpc rfq).events := by
  rw [selectBranch, hs, hm]
  refine (mem_serve_iff _ _ _ _ _).trans (and_congr_right fun _ => or_iff_left ?_)
  rintro ⟨_, _, _, he⟩
  cases he

private theorem queueQuote_mem_selectBranch_iff {turn : Turn} (hs : turn.stream = .rfq)
    (hm : turn.message = .ok (some rfq)) {response : Grpc.QuoteResponse} :
    .queueQuote response ∈ (selectBranch maker turn).events ↔ supported rfq = true ∧
      turn.channelOpen = true ∧ (answerRfq maker turn.rpc rfq).outcome = .ok (some response) := by
  rw [selectBranch, hs, hm]
  refine (mem_serve_iff _ _ _ _ _).trans (and_congr_right fun _ => ?_)
  constructor
  · rintro (he | ⟨hopen, response', hr, he⟩)
    · cases (answerRfq_quiet maker turn.rpc rfq _ he).1
    · cases he
      exact ⟨hopen, hr⟩
  · rintro ⟨hopen, hr⟩
    exact .inr ⟨hopen, response, hr, rfl⟩

end

/-- Written options are delivered exactly when nothing fails after the write. -/
theorem writesDelivered_iff (maker : MarketMaker) (turn : Turn) :
    WritesDelivered maker turn ↔ NothingFailsAfterWrite maker turn := by
  constructor
  · intro h rfq amount id hs hm hsup hv hb ha hlt hw
    have hvalid := validateRfq_isSome_iff.mp hv
    obtain ⟨n, hn⟩ : ∃ n, asU128 amount.toU256 = .ok n := ⟨_, if_pos hlt⟩
    have hwritten : .optionsWritten id n ∈ (selectBranch maker turn).events :=
      (optionsWritten_mem_selectBranch_iff hs hm).mpr
        ⟨hsup, (optionsWritten_mem_answerRfq_iff maker turn.rpc rfq).mpr ⟨hvalid, hb, ⟨amount, ha, hn⟩, hw⟩⟩
    obtain ⟨response, hqueued, hdelivered⟩ := h rfq id n hs hm hwritten
    obtain ⟨_, hopen, hr⟩ := (queueQuote_mem_selectBranch_iff hs hm).mp hqueued
    obtain ⟨hrep, hans⟩ := (answerRfq_delivers_iff maker turn.rpc hvalid hb ha hn id).mp ⟨response, hr, hdelivered⟩
    exact ⟨hrep, hans, hopen⟩
  · intro h rfq id n hs hm hwritten
    obtain ⟨hsup, hanswer⟩ := (optionsWritten_mem_selectBranch_iff hs hm).mp hwritten
    obtain ⟨hvalid, hb, ⟨amount, ha, hn⟩, hw⟩ := (optionsWritten_mem_answerRfq_iff maker turn.rpc rfq).mp hanswer
    obtain ⟨hrep, hans, hopen⟩ := h rfq amount id hs hm hsup (validateRfq_isSome_iff.mpr hvalid) hb ha
      (toNat_lt_of_asU128 hn) hw
    obtain ⟨response, hr, hdelivered⟩ :=
      (answerRfq_delivers_iff maker turn.rpc hvalid hb ha hn id).mpr ⟨hrep, hans⟩
    exact ⟨response, (queueQuote_mem_selectBranch_iff hs hm).mpr ⟨hsup, hopen, hr⟩, hdelivered⟩

/-- The options are written, then Seaport's counter cannot be read: `run` returns and
nothing was sent. -/
theorem writesDelivered_fails :
    ¬WritesDelivered sampleMaker
      (sampleTurn (sampleRfq .buy 5) { sampleRpc with getCounter := .error "connection reset" }) := by
  intro h
  obtain ⟨response, hqueued, _⟩ := h (sampleRfq .buy 5) 42 5 rfl rfl (by decide +kernel)
  obtain ⟨_, _, hr⟩ := (queueQuote_mem_selectBranch_iff rfl rfl).mp hqueued
  have hnone : (answerRfq sampleMaker { sampleRpc with getCounter := .error "connection reset" }
      (sampleRfq .buy 5)).outcome = .ok none := by rfl
  rw [sampleTurn, hnone] at hr
  cases hr

end TradeInterfaces.Maker
