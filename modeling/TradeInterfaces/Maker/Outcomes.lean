import TradeInterfaces.Maker.Run

/-! How the handling of one request can end. The theorems about runs are read off
these case distinctions. -/
namespace TradeInterfaces.Maker
open Foundations.BigEndian Foundations.Panics Foundations.Effects Ethers
open Seaport (seaportContractAddress)

/-- The response with a signed order. -/
def offerResponse (maker : MarketMaker) (seaport : Address) (rfq : Grpc.QuoteRequest) (order : Grpc.Order)
    (hash : H256) : Grpc.QuoteResponse where
  ulid := rfq.ulid
  makerAddress := some (.ofHash maker.address)
  order := some ⟨some order, some (.ofSignature (maker.signHash hash))⟩
  chainId := some (.ofU256 maker.chainId)
  seaportAddress := some (.ofHash seaport)

/-- The two sides of an order, and what was done on chain to come to them. -/
inductive Sides (maker : MarketMaker) (rfq : Grpc.QuoteRequest) (id amount : Grpc.H256) (rpc : Rpc) :
    Grpc.OfferItem → Grpc.ConsiderationItem → List Event → Prop
  | buy {n : U128} {optionId claimId : U256} (action : Grpc.Action.ofI32 rfq.action = .buy)
      (fits : asU128 amount.toU256 = .ok n) (ids : writtenIds maker rpc = some (optionId, claimId)) :
      Sides maker rfq id amount rpc (optionOffer maker (some (.ofU256 optionId)) rfq.amount)
        (priceConsideration maker 10000000) (writeEvents maker id.toU256 n writeGasPrice rpc)
  | sell (action : Grpc.Action.ofI32 rfq.action = .sell) :
      Sides maker rfq id amount rpc (priceOffer maker 10000000)
        (optionConsideration maker (some (.ofU256 id.toU256)) rfq.amount) []

/-- How the handler ends for an accepted request: the amount does not fit, the write
reports no ids, a call made for the signature fails, or there is an offer. -/
inductive Handled (maker : MarketMaker) (seaport : Address) (rfq : Grpc.QuoteRequest) (id amount : Grpc.H256)
    (rpc : Rpc) : Task (Option Grpc.QuoteResponse) → Prop
  | overflow (action : Grpc.Action.ofI32 rfq.action = .buy) (large : 2^128 ≤ amount.toU256.toNat) :
      Handled maker seaport rfq id amount rpc ⟨.error .overflow, []⟩
  | noOffer {n : U128} (action : Grpc.Action.ofI32 rfq.action = .buy) (fits : asU128 amount.toU256 = .ok n)
      (ids : writtenIds maker rpc = none) :
      Handled maker seaport rfq id amount rpc
        ⟨.ok (some (createNoOffer maker rfq)), writeEvents maker id.toU256 n writeGasPrice rpc⟩
  | unsigned {offered : Grpc.OfferItem} {considered : Grpc.ConsiderationItem} {before signing : List Event}
      (sides : Sides maker rfq id amount rpc offered considered before) (fails : ¬Answers rpc)
      (quiet : ∀ e ∈ signing, (∃ components, e = .getOrderHash components) ∨ ∃ hash, e = .signHash hash) :
      Handled maker seaport rfq id amount rpc ⟨.ok none, before ++ signing⟩
  | offer {offered : Grpc.OfferItem} {considered : Grpc.ConsiderationItem} {before : List Event}
      {components : Seaport.OrderComponents} {hash : H256}
      (sides : Sides maker rfq id amount rpc offered considered before) (answers : Answers rpc) :
      Handled maker seaport rfq id amount rpc
        ⟨.ok (some (offerResponse maker seaport rfq (quoteOrder maker offered considered rpc) hash)),
          before ++ [.getOrderHash components, .signHash hash]⟩

private theorem handled_of_items {maker : MarketMaker} (seaport : Address) {rfq : Grpc.QuoteRequest}
    {id amount : Grpc.H256} {rpc : Rpc} {offered : Grpc.OfferItem} {considered : Grpc.ConsiderationItem}
    {before : List Event} (sides : Sides maker rfq id amount rpc offered considered before)
    (hitems : rfqItems maker rfq rpc 10000000 = ⟨.ok (some (offered, considered)), before⟩) :
    Handled maker seaport rfq id amount rpc (handleRfqRequest maker seaport rfq rpc) := by
  rw [handleRfqRequest_of_items seaport hitems]
  rcases signedResponse_cases maker seaport rfq offered considered rpc with
    ⟨hno, hout, hev⟩ | ⟨hyes, components, hash, hres⟩
  · rw [hout]
    exact .unsigned sides hno hev
  · rw [hres]
    exact .offer sides hyes

theorem handleRfqRequest_handled (maker : MarketMaker) (seaport : Address) {rfq : Grpc.QuoteRequest}
    {id amount : Grpc.H256} (hi : rfq.identifierOrCriteria = some id) (ha : rfq.amount = some amount)
    (hact : Grpc.Action.ofI32 rfq.action ≠ .invalid) (rpc : Rpc) :
    Handled maker seaport rfq id amount rpc (handleRfqRequest maker seaport rfq rpc) := by
  rcases rfqItems_cases maker hi ha rpc 10000000 with
    ⟨hb, hlarge, h⟩ | ⟨hb, n, hn, ⟨hids, h⟩ | ⟨optionId, claimId, hids, h⟩⟩ | ⟨hs, h⟩ | ⟨hinv, _⟩
  · rw [handleRfqRequest_of_panic seaport h]
    exact .overflow hb hlarge
  · rw [handleRfqRequest_of_noOffer seaport h]
    exact .noOffer hb hn hids
  · exact handled_of_items seaport (.buy hb hn hids) h
  · exact handled_of_items seaport (.sell hs) h
  · exact absurd hinv hact

/-- How a request on the RFQ stream is answered, whatever it contains. -/
inductive Answered (maker : MarketMaker) (rfq : Grpc.QuoteRequest) (rpc : Rpc) :
    Task (Option Grpc.QuoteResponse) → Prop
  | malformed (invalid : ¬ValidRfq seaportContractAddress rfq) :
      Answered maker rfq rpc ⟨.ok (some (createNoOffer maker rfq)), []⟩
  | handled {id amount : Grpc.H256} {task : Task (Option Grpc.QuoteResponse)}
      (valid : ValidRfq seaportContractAddress rfq) (identifier : rfq.identifierOrCriteria = some id)
      (requested : rfq.amount = some amount)
      (handled : Handled maker seaportContractAddress rfq id amount rpc task) : Answered maker rfq rpc task

theorem answerRfq_answered (maker : MarketMaker) (rpc : Rpc) (rfq : Grpc.QuoteRequest) :
    Answered maker rfq rpc (answerRfq maker rpc rfq) := by
  rw [answerRfq]
  cases hv : validateRfq seaportContractAddress rfq with
  | none =>
    refine .malformed fun hvalid => ?_
    rw [validateRfq_eq_some_iff.mpr ⟨hvalid, rfl⟩] at hv
    cases hv
  | some out =>
    obtain ⟨hvalid, rfl⟩ := validateRfq_eq_some_iff.mp hv
    obtain ⟨id, hi⟩ := Option.isSome_iff_exists.mp hvalid.identifier
    obtain ⟨amount, ha, _⟩ := hvalid.amount
    exact .handled hvalid hi ha (handleRfqRequest_handled maker _ hi ha hvalid.action rpc)

/-- How a request on the soft-quote stream is answered: nothing is done for it. -/
inductive SoftAnswered (maker : MarketMaker) (rfq : Grpc.QuoteRequest) (rpc : Rpc) :
    Task (Option Grpc.SoftQuoteResponse) → Prop
  | malformed (invalid : ¬ValidSoftQuote rfq) :
      SoftAnswered maker rfq rpc ⟨.ok (some (createSoftQuoteNoOffer maker rfq)), []⟩
  | failed (valid : ValidSoftQuote rfq) {e : String} (chainId : rpc.getChainid = .error e) :
      SoftAnswered maker rfq rpc ⟨.ok none, []⟩
  | offer (valid : ValidSoftQuote rfq) (chainId : rpc.getChainid = .ok ()) {offered : Grpc.OfferItem}
      {considered : Grpc.ConsiderationItem}
      (items : softQuoteItems maker rfq 10000000 = .ok (some (offered, considered))) :
      SoftAnswered maker rfq rpc ⟨.ok (some ⟨rfq.ulid, some (.ofHash maker.address),
        some (quoteOrder maker offered considered rpc), some (.ofU256 maker.chainId),
        some (.ofHash seaportContractAddress)⟩), []⟩

theorem answerSoftQuote_answered (maker : MarketMaker) (rpc : Rpc) (rfq : Grpc.QuoteRequest) :
    SoftAnswered maker rfq rpc (answerSoftQuote maker rpc rfq) := by
  rw [answerSoftQuote]
  cases hv : validateSoftQuote rfq with
  | none =>
    refine .malformed fun hvalid => ?_
    rw [validateSoftQuote_eq_some_iff.mpr ⟨hvalid, rfl⟩] at hv
    cases hv
  | some out =>
    obtain ⟨hvalid, rfl⟩ := validateSoftQuote_eq_some_iff.mp hv
    obtain ⟨offered, considered, hitems, h⟩ := handleSoftQuoteRequest_of_valid maker seaportContractAddress hvalid rpc
    rw [if_neg (by simp), h]
    cases hc : rpc.getChainid with
    | error e => exact .failed hvalid hc
    | ok u => exact .offer hvalid hc hitems

/-- A request is looked at when it names a supported chain. -/
def supported (quote : Grpc.QuoteRequest) : Bool := quote.chainId.any fun chainId => supportedChain chainId.toU256

section
variable {ρ : Type} (answer : Grpc.QuoteRequest → Task (Option ρ)) (queue : ρ → Event) (channelOpen : Bool)

theorem serve_of_noRequest {message : Except String (Option Grpc.QuoteRequest)}
    (h : ∀ quote, message ≠ .ok (some quote)) : serve answer queue message channelOpen = ⟨.ok .returned, []⟩ := by
  cases message with
  | error e => rfl
  | ok quote? =>
    cases quote? with
    | none => rfl
    | some quote => exact absurd rfl (h quote)

theorem serve_of_unsupported {quote : Grpc.QuoteRequest} (h : supported quote = false) :
    serve answer queue (.ok (some quote)) channelOpen = ⟨.ok .next, []⟩ := by
  unfold supported at h
  unfold serve
  cases hc : quote.chainId with
  | none =>
    simp only [hc]
    rfl
  | some chainId =>
    rw [hc, Option.any_some] at h
    simp only [hc, h]
    rfl

theorem serve_of_supported {quote : Grpc.QuoteRequest} (h : supported quote = true) :
    serve answer queue (.ok (some quote)) channelOpen =
      match (answer quote).outcome with
      | .error panic => ⟨.error panic, (answer quote).events⟩
      | .ok none => ⟨.ok .returned, (answer quote).events⟩
      | .ok (some response) =>
        if channelOpen then ⟨.ok .next, (answer quote).events ++ [queue response]⟩
        else ⟨.ok .returned, (answer quote).events⟩ := by
  unfold supported at h
  unfold serve
  cases hc : quote.chainId with
  | none => simp [hc] at h
  | some chainId =>
    rw [hc, Option.any_some] at h
    simp only [hc, h, if_true]
    cases ha : (answer quote).outcome with
    | error panic => rw [Proc.bind_of_error ha]
    | ok response? =>
      rw [Proc.bind_of_ok ha]
      cases response? with
      | none => simp
      | some response => cases channelOpen <;> simp [Proc.map_emit]

/-- A supported request is either answered, or it leaves the loop. -/
theorem serve_supported_cases {quote : Grpc.QuoteRequest} (h : supported quote = true) :
    (∃ response, (answer quote).outcome = .ok (some response) ∧ channelOpen = true ∧
      serve answer queue (.ok (some quote)) channelOpen =
        ⟨.ok .next, (answer quote).events ++ [queue response]⟩) ∨
    (∃ outcome, outcome ≠ .ok .next ∧
      ((channelOpen = false ∨ ∀ response, (answer quote).outcome ≠ .ok (some response)) ∧
      serve answer queue (.ok (some quote)) channelOpen = ⟨outcome, (answer quote).events⟩)) := by
  rw [serve_of_supported answer queue channelOpen h]
  cases ha : (answer quote).outcome with
  | error panic => exact .inr ⟨.error panic, by simp, .inr (by simp), rfl⟩
  | ok response? =>
    cases response? with
    | none => exact .inr ⟨.ok .returned, by simp, .inr (by simp), rfl⟩
    | some response =>
      cases channelOpen with
      | true => exact .inl ⟨response, rfl, rfl, rfl⟩
      | false => exact .inr ⟨.ok .returned, by simp, .inl rfl, rfl⟩

/-- What a branch does: what the answer to a supported request does, and the send. -/
theorem mem_serve_iff (quote : Grpc.QuoteRequest) (e : Event) :
    e ∈ (serve answer queue (.ok (some quote)) channelOpen).events ↔ supported quote = true ∧
      (e ∈ (answer quote).events ∨ channelOpen = true ∧ ∃ response,
        (answer quote).outcome = .ok (some response) ∧ e = queue response) := by
  cases hsup : supported quote with
  | false => simp [serve_of_unsupported answer queue channelOpen hsup]
  | true =>
    rcases serve_supported_cases answer queue channelOpen hsup with
      ⟨response, hr, hopen, h⟩ | ⟨outcome, _, hclosed, h⟩
    · rw [h, hr]
      simp [hopen]
    · rw [h]
      refine ⟨fun he => ⟨rfl, .inl he⟩, fun he => he.2.resolve_right ?_⟩
      rintro ⟨hopen, response, hr, _⟩
      rcases hclosed with hclosed | hnone
      · rw [hopen] at hclosed
        cases hclosed
      · exact hnone response hr

end

/-! A concrete maker and a request it can answer. -/

/-- The event `OptionsWritten(uint256,address,uint256,uint112)`: three indexed fields
follow its topic, and the amount is the data. -/
def sampleDecodeLog (log : RawLog) : Option SettlementEngineEvents :=
  match log.topics with
  | [topic, optionId, writer, claimId] =>
    if topic = toBytes 32 0x64b996b55aa21c6915cb2fbdc6f619d5456d7ab76ac22242b0c8651a560c7abb then
      some (.optionsWrittenFilter ⟨fromBeBytes optionId, slice writer 12 20 (by decide), fromBeBytes claimId,
        BitVec.ofNat 128 (value 256 (log.data.map (·.toNat)))⟩)
    else none
  | _ => none

/-- The hash function is given by its value at the one message that is signed. -/
def sampleMaker : MarketMaker where
  address := toBytes 20 9
  signHash _ := ⟨1, 2, 27⟩
  settlementEngine := toBytes 20 11
  usdcAddress := toBytes 20 13
  chainId := 421614
  keccak256 _ := toBytes 32 0xd219f3c6e9d804138976a0a44d0f2207114f02c64eb1d5e1d6e733484bbf8d89
  decodeLog := sampleDecodeLog

def sampleReceipt : TransactionReceipt where
  logs := [⟨toBytes 20 11, [toBytes 32 0x64b996b55aa21c6915cb2fbdc6f619d5456d7ab76ac22242b0c8651a560c7abb,
    toBytes 32 42, toBytes 32 9, toBytes 32 43], (toBytes 32 5).toList⟩]

/-- All calls succeed, and the write takes effect. -/
def sampleRpc : Rpc where
  sendTransaction := .ok ()
  writeEffect := some 42
  pendingTx := .ok (some sampleReceipt)
  getCounter := .ok 0
  getOrderHash := .ok fun _ => toBytes 32 6
  information := .ok (toBytes 32 5)
  getChainid := .ok ()
  timeNow := 1700000000
  timeNowAgain := 1700000001
  entropy := 12345678901234567890

def sampleRfq (action : Grpc.Action) (amount : U256) : Grpc.QuoteRequest where
  ulid := some ⟨0, 1⟩
  takerAddress := none
  itemType := Grpc.ItemType.erc1155.toI32
  tokenAddress := some (.ofHash (toBytes 20 11))
  identifierOrCriteria := some (.ofU256 42)
  amount := some (.ofU256 amount)
  action := action.toI32
  chainId := some (.ofU256 421614)
  seaportAddress := some (.ofHash seaportContractAddress)

def sampleTurn (quote : Grpc.QuoteRequest) (rpc : Rpc) : Turn := ⟨.rfq, .ok (some quote), rpc, true⟩

end TradeInterfaces.Maker
