import TradeInterfaces.Maker.Outcomes

/-! Whose event is believed: the ids of a Buy are those of the last `OptionsWritten` event
of the receipt, whichever contract emitted it and whoever it names as the writer. -/
namespace TradeInterfaces.Maker
open Foundations.BigEndian Foundations.Panics Foundations.Effects Ethers

/-- A log in which the settlement engine says that the maker wrote these ids. -/
def Genuine (maker : MarketMaker) (log : Log) (optionId claimId : U256) : Prop :=
  log.address = maker.settlementEngine ∧ ∃ event, written? maker log = some event ∧
    event.writer = maker.address ∧ event.optionId = optionId ∧ event.claimId = claimId

/-- The receipt without the logs of other contracts. -/
def ownLogs (maker : MarketMaker) (receipt : TransactionReceipt) : TransactionReceipt where
  logs := receipt.logs.filter fun log => log.address = maker.settlementEngine

/-- The ids that an event stands for, where zero means that there are none. -/
def reported (event? : Option OptionsWrittenFilter) : Option (U256 × U256) :=
  event?.bind fun event =>
    if event.optionId = 0 ∨ event.claimId = 0 then none else some (event.optionId, event.claimId)

/-- What is offered was written by the engine for the maker, and no log of another contract
has a say in it: without these logs every request is answered in the same way. -/
structure OffersWritten (maker : MarketMaker) (receipt : TransactionReceipt) : Prop where
  genuine : ∀ rfq rpc optionId claimId, rpc.pendingTx = .ok (some receipt) →
    (writeOption maker rfq rpc).outcome = .ok (some (optionId, claimId)) →
    ∃ log ∈ receipt.logs, Genuine maker log optionId claimId
  unchanged : ∀ seaport rfq rpc, rpc.pendingTx = .ok (some receipt) →
    (handleRfqRequest maker seaport rfq { rpc with pendingTx := .ok (some (ownLogs maker receipt)) }).outcome =
      (handleRfqRequest maker seaport rfq rpc).outcome

/-- The last `OptionsWritten` event has a zero id or repeats what the engine said about the
maker, and it names the same option as the last such event of the engine. -/
structure Undisturbed (maker : MarketMaker) (receipt : TransactionReceipt) : Prop where
  repeats : ∀ event, lastWritten maker receipt = some event → event.optionId = 0 ∨ event.claimId = 0 ∨
    ∃ log ∈ receipt.logs, Genuine maker log event.optionId event.claimId
  sameOption : (reported (lastWritten maker (ownLogs maker receipt))).map Prod.fst =
    (reported (lastWritten maker receipt)).map Prod.fst

section
variable {maker : MarketMaker} {rpc : Rpc} {receipt : TransactionReceipt}

theorem reported_eq_some_iff {event? : Option OptionsWrittenFilter} {optionId claimId : U256} :
    reported event? = some (optionId, claimId) ↔ ∃ event, event? = some event ∧ event.optionId = optionId ∧
      event.claimId = claimId ∧ optionId ≠ 0 ∧ claimId ≠ 0 := by
  cases event? with
  | none => simp [reported]
  | some event =>
    simp only [reported, Option.bind_some, Option.some.injEq, exists_eq_left']
    exact ite_zero_eq_some_iff

/-- The ids of a receipt, when the write could be sent. -/
theorem writtenIds_of_receipt (hs : rpc.sendTransaction = .ok ()) (hr : rpc.pendingTx = .ok (some receipt)) :
    writtenIds maker rpc = reported (lastWritten maker receipt) := by
  apply Option.ext
  rintro ⟨optionId, claimId⟩
  rw [writtenIds_eq_some_iff, reported_eq_some_iff]
  constructor
  · rintro ⟨_, receipt', event, hr', hl, hids⟩
    rw [hr] at hr'
    cases hr'
    exact ⟨event, hl, hids⟩
  · rintro ⟨event, hl, hids⟩
    exact ⟨hs, receipt, event, hr, hl, hids⟩

private theorem writeOption_ids {rfq : Grpc.QuoteRequest} {ids : U256 × U256}
    (h : (writeOption maker rfq rpc).outcome = .ok (some ids)) : writtenIds maker rpc = some ids := by
  cases hi : rfq.identifierOrCriteria with
  | none =>
    rw [writeOption, hi] at h
    cases h
  | some id =>
    cases ha : rfq.amount with
    | none =>
      rw [writeOption, hi, ha] at h
      cases h
    | some amount =>
      cases hn : asU128 amount.toU256 with
      | error p =>
        rw [writeOption_of_overflow maker rfq rpc hi ha hn] at h
        cases h
      | ok n =>
        rw [writeOption_of_fits maker rfq rpc hi ha hn] at h
        exact Except.ok.inj h

/-- A Buy depends on the receipt through the option id only. -/
theorem rfqItems_congr {rpc' : Rpc} (hevents : ∀ optionType amount gasPrice,
      writeEvents maker optionType amount gasPrice rpc' = writeEvents maker optionType amount gasPrice rpc)
    (hids : (writtenIds maker rpc').map Prod.fst = (writtenIds maker rpc).map Prod.fst)
    (rfq : Grpc.QuoteRequest) (price : U256) : rfqItems maker rfq rpc' price = rfqItems maker rfq rpc price := by
  unfold rfqItems
  cases Grpc.Action.ofI32 rfq.action with
  | sell => rfl
  | invalid => rfl
  | buy =>
    cases hi : rfq.identifierOrCriteria with
    | none => simp only [unwrap_none, Proc.lift_error_bind]
    | some id =>
      cases ha : rfq.amount with
      | none => simp only [writeOption, hi, ha, unwrap_none, Proc.lift_error_bind]
      | some amount =>
        cases hn : asU128 amount.toU256 with
        | error p => simp only [writeOption_of_overflow maker rfq _ hi ha hn]
        | ok n =>
          simp only [writeOption_of_fits maker rfq _ hi ha hn, hevents]
          cases h' : writtenIds maker rpc' with
          | none =>
            rw [h'] at hids
            rw [Option.map_eq_none_iff.mp hids.symm]
          | some ids' =>
            obtain ⟨optionId, claimId'⟩ := ids'
            rw [h'] at hids
            obtain ⟨⟨_, claimId⟩, h, rfl⟩ := Option.map_eq_some_iff.mp hids.symm
            simp only [h, unwrap_some, Proc.lift_ok_bind]
            rw [Proc.bind_of_ok rfl, Proc.bind_of_ok rfl]

theorem handleRfqRequest_congr (seaport : Address) {pendingTx : Except String (Option TransactionReceipt)}
    (hids : (writtenIds maker { rpc with pendingTx }).map Prod.fst = (writtenIds maker rpc).map Prod.fst)
    (rfq : Grpc.QuoteRequest) :
    handleRfqRequest maker seaport rfq { rpc with pendingTx } = handleRfqRequest maker seaport rfq rpc := by
  have hitems := @rfqItems_congr maker rpc { rpc with pendingTx } (fun _ _ _ => rfl) hids rfq
  unfold handleRfqRequest
  simp only [hitems]
  rfl

/-- The identifier of the option that a response offers. -/
def offeredIdentifier (response : Grpc.QuoteResponse) : Option Grpc.H256 := do
  let signedOrder ← response.order
  let order ← signedOrder.parameters
  let item ← order.offer.head?
  item.identifierOrCriteria

/-- A Buy that can be answered offers the option id of the receipt, if there is one. -/
theorem handleRfqRequest_offers (seaport : Address) {rfq : Grpc.QuoteRequest} {id amount : Grpc.H256} {n : U128}
    (hi : rfq.identifierOrCriteria = some id) (ha : rfq.amount = some amount)
    (hb : Grpc.Action.ofI32 rfq.action = .buy) (hn : asU128 amount.toU256 = .ok n) (hrpc : Answers rpc) :
    ∃ response, (handleRfqRequest maker seaport rfq rpc).outcome = .ok (some response) ∧
      offeredIdentifier response = ((writtenIds maker rpc).map Prod.fst).map Grpc.H256.ofU256 := by
  have hact : Grpc.Action.ofI32 rfq.action ≠ .invalid := by
    rw [hb]
    simp
  have h := handleRfqRequest_handled maker seaport hi ha hact rpc
  generalize handleRfqRequest maker seaport rfq rpc = task at h
  cases h with
  | overflow action large => exact absurd (toNat_lt_of_asU128 hn) (Nat.not_lt.mpr large)
  | noOffer action fits ids =>
    refine ⟨_, rfl, ?_⟩
    rw [ids]
    rfl
  | unsigned sides fails quiet => exact absurd hrpc fails
  | offer sides answers =>
    refine ⟨_, rfl, ?_⟩
    cases sides with
    | buy action fits ids =>
      rw [ids]
      rfl
    | sell action =>
      rw [hb] at action
      cases action

/-- A receipt none of whose foreign logs decodes to `OptionsWritten` is undisturbed, when
the engine only reports writes of the maker in it. -/
theorem undisturbed_of_genuine (h : ∀ log ∈ receipt.logs, ∀ event, written? maker log = some event →
    log.address = maker.settlementEngine ∧ event.writer = maker.address) : Undisturbed maker receipt := by
  have hown : (ownLogs maker receipt).logs.filterMap (written? maker) = receipt.logs.filterMap (written? maker) := by
    rw [ownLogs, List.filterMap_filter]
    apply List.filterMap_congr
    intro log hlog
    cases hw : written? maker log with
    | none => simp
    | some event => simp [(h log hlog event hw).1]
  constructor
  · intro event hlast
    obtain ⟨log, hlog, hw⟩ := List.mem_filterMap.mp (List.mem_of_getLast? hlast)
    obtain ⟨haddress, hwriter⟩ := h log hlog event hw
    exact .inr (.inr ⟨log, hlog, haddress, event, hw, hwriter, rfl, rfl⟩)
  · rw [lastWritten, hown, lastWritten]

end

/-- Exactly for the undisturbed receipts is the offered option one that the engine wrote
for the maker, whatever other contracts log. -/
theorem offersWritten_iff (maker : MarketMaker) (receipt : TransactionReceipt) :
    OffersWritten maker receipt ↔ Undisturbed maker receipt := by
  constructor
  · rintro ⟨hgenuine, hunchanged⟩
    have hfits : asU128 (Grpc.H256.ofU256 5).toU256 = .ok 5 := by
      rw [Grpc.H256.toU256_ofU256]
      rfl
    have hids (receipt' : TransactionReceipt) :
        writtenIds maker { sampleRpc with pendingTx := .ok (some receipt') } = reported (lastWritten maker receipt') :=
      writtenIds_of_receipt rfl rfl
    constructor
    · intro event hlast
      by_cases ho : event.optionId = 0
      · exact .inl ho
      by_cases hc : event.claimId = 0
      · exact .inr (.inl hc)
      refine .inr (.inr (hgenuine (sampleRfq .buy 5) { sampleRpc with pendingTx := .ok (some receipt) } _ _ rfl ?_))
      rw [writeOption_of_fits maker _ _ rfl rfl hfits, hids]
      exact congrArg Except.ok (reported_eq_some_iff.mpr ⟨event, hlast, rfl, rfl, ho, hc⟩)
    · have hanswers (receipt' : TransactionReceipt) :
          Answers { sampleRpc with pendingTx := .ok (some receipt') } := ⟨⟨_, rfl⟩, ⟨_, rfl⟩, ⟨_, rfl⟩, rfl⟩
      obtain ⟨response, hr, hoffered⟩ := @handleRfqRequest_offers maker _ (toBytes 20 1) (sampleRfq .buy 5) _ _ _ rfl
        rfl (by decide) hfits (hanswers (ownLogs maker receipt))
      obtain ⟨response', hr', hoffered'⟩ := @handleRfqRequest_offers maker _ (toBytes 20 1) (sampleRfq .buy 5) _ _ _ rfl
        rfl (by decide) hfits (hanswers receipt)
      have hsame := hunchanged (toBytes 20 1) (sampleRfq .buy 5) { sampleRpc with pendingTx := .ok (some receipt) } rfl
      rw [hr, hr'] at hsame
      cases hsame
      rw [hids] at hoffered hoffered'
      have hinj : Function.Injective Grpc.H256.ofU256 :=
        Function.LeftInverse.injective Grpc.H256.toU256_ofU256
      exact Option.map_injective hinj (hoffered.symm.trans hoffered')
  · rintro ⟨hrepeats, hsame⟩
    constructor
    · intro rfq rpc optionId claimId hr h
      obtain ⟨_, receipt', event, hr', hlast, rfl, rfl, ho, hc⟩ :=
        (writtenIds_eq_some_iff maker rpc).mp (writeOption_ids h)
      rw [hr] at hr'
      cases hr'
      exact ((hrepeats event hlast).resolve_left ho).resolve_left hc
    · intro seaport rfq rpc hr
      rw [handleRfqRequest_congr seaport]
      cases hs : rpc.sendTransaction with
      | error e => simp only [writtenIds, hs]
      | ok u =>
        have hown : writtenIds maker { rpc with pendingTx := .ok (some (ownLogs maker receipt)) } =
            reported (lastWritten maker (ownLogs maker receipt)) := @writtenIds_of_receipt maker _ _ hs rfl
        rw [hs] at hown
        rw [hown, writtenIds_of_receipt hs hr, hsame]

/-- A receipt in which the written token's contract logs the same event with ids of its
own, after the engine's. -/
def foreignReceipt : TransactionReceipt where
  logs := sampleReceipt.logs ++ [⟨toBytes 20 66,
    [toBytes 32 0x64b996b55aa21c6915cb2fbdc6f619d5456d7ab76ac22242b0c8651a560c7abb, toBytes 32 77, toBytes 32 9,
      toBytes 32 78], (toBytes 32 5).toList⟩]

/-- The engine wrote option 42, and the offer is for option 77. -/
theorem foreignLog_offered : ¬OffersWritten sampleMaker foreignReceipt ∧ ∃ response,
    (handleRfqRequest sampleMaker Seaport.seaportContractAddress (sampleRfq .buy 5)
      { sampleRpc with pendingTx := .ok (some foreignReceipt) }).outcome = .ok (some response) ∧
    offeredIdentifier response = some (.ofU256 77) := by
  refine ⟨fun h => ?_, _, rfl, rfl⟩
  have hscan : (writeOption sampleMaker (sampleRfq .buy 5)
      { sampleRpc with pendingTx := .ok (some foreignReceipt) }).outcome = .ok (some (77, 78)) := by decide +kernel
  obtain ⟨log, hlog, haddress, event, hw, _, hid, _⟩ := h.genuine _ _ _ _ rfl hscan
  rcases List.mem_cons.mp hlog with rfl | hlog
  · cases hw
    exact absurd hid (by decide +kernel)
  · rw [List.mem_singleton.mp hlog] at haddress
    exact absurd haddress (by decide +kernel)

end TradeInterfaces.Maker
