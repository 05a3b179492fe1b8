import TradeInterfaces.Agreement
import TradeInterfaces.Foundations.Protocols
import TradeInterfaces.RfqMaker.Skips
import TradeInterfaces.Taker.Steps

/-! What the web maker sends: every offer is for options it has just written, and the
taker reads from it the order that was signed. -/
namespace TradeInterfaces.RfqMaker
open Foundations.BigEndian Foundations.Panics Foundations.Effects Foundations.Protocols Ethers

/-- What the library writes to the wire is what the taker reads there. -/
structure Converts (maker : WebMaker) : Prop where
  toH160 : ∀ address, (maker.toH160 address).toHash = address
  toH256 : ∀ number, (maker.toH256 number).toU256 = number

section
variable {maker : WebMaker} (hconverts : Converts maker)

private theorem asU8_ofNat (n : UInt8) : Grpc.asU8 (Int32.ofNat n.toNat) = n := by
  have hlt := n.toNat_lt
  have hword : (Int32.ofNat n.toNat).toUInt32 = UInt32.ofNat n.toNat := rfl
  rw [Grpc.asU8, hword, ← UInt8.toNat_inj, UInt32.toNat_toUInt8, UInt32.toNat_ofNat']
  omega

include hconverts

private theorem offerItem_offerItemH (item : Seaport.OfferItem) :
    Taker.offerItem (offerItemH maker item) = .ok item := by
  refine Taker.offerItem_ok_iff.mpr ⟨_, _, _, rfl, rfl, rfl, ?_⟩
  simp [offerItemH, hconverts.toH160, hconverts.toH256, asU8_ofNat]

private theorem considerationItem_considerationItemH (item : Seaport.ConsiderationItem) :
    Taker.considerationItem (considerationItemH maker item) = .ok item := by
  refine Taker.considerationItem_ok_iff.mpr ⟨_, _, _, rfl, rfl, rfl, ?_⟩
  simp [considerationItemH, hconverts.toH160, hconverts.toH256, asU8_ofNat]

private theorem hashBytes_toH256 (bytes : Bytes 32) :
    Seaport.hashBytes (some (maker.toH256 (fromBeBytes bytes))) = bytes := by
  have hzero : toBeBytes (0 : U256) = Seaport.zeroBytes := by decide +kernel
  simp only [Seaport.hashBytes, hconverts.toH256, toBeBytes_fromBeBytes]
  split
  · rfl
  · rename_i hdefault
    have hread := hconverts.toH256 (fromBeBytes bytes)
    rw [not_not.mp hdefault, Grpc.H256.toU256_default] at hread
    rw [← hzero, hread, toBeBytes_fromBeBytes]

/-- Whatever the components, the taker reads the parameters that were signed. -/
theorem orderParameters_orderH (components : Seaport.OrderComponents) :
    ∃ parameters, Taker.orderParameters (orderH maker components) = .ok parameters ∧
      Seaport.Agrees parameters components := by
  have hoffer : (components.offer.map (offerItemH maker)).mapM Taker.offerItem = .ok components.offer := by
    rw [mapM_returns_iff, List.forall₂_map_left_iff, List.forall₂_same]
    exact fun item _ => offerItem_offerItemH hconverts item
  have hconsideration : (components.consideration.map (considerationItemH maker)).mapM Taker.considerationItem =
      .ok components.consideration := by
    rw [mapM_returns_iff, List.forall₂_map_left_iff, List.forall₂_same]
    exact fun item _ => considerationItem_considerationItemH hconverts item
  refine ⟨_, Taker.orderParameters_ok_iff.mpr
    ⟨_, _, _, _, _, _, hoffer, hconsideration, rfl, rfl, rfl, rfl, rfl⟩, ?_⟩
  exact ⟨hconverts.toH160 _, hconverts.toH160 _, rfl, rfl, asU8_ofNat _, hconverts.toH256 _, hconverts.toH256 _,
    hashBytes_toH256 hconverts _, hconverts.toH256 _, hashBytes_toH256 hconverts _⟩

end

/-- An order with the signature over its components. -/
def signedOrderH (maker : WebMaker) (components : Seaport.OrderComponents) : Grpc.SignedOrder where
  parameters := some (orderH maker components)
  signature := some (.ofSignature (maker.signDigest (typedDataDigest maker.keccak256 components)))

/-- What the taker submits of a signed order, and the id that it looks at. -/
structure Accepted (maker : WebMaker) (components : Seaport.OrderComponents) (order : Seaport.Order) (optionId : U256) :
    Prop where
  accepted : Taker.acceptedOrder (signedOrderH maker components) = .ok (order, optionId)
  agrees : Seaport.Agrees order.parameters components
  signature : order.signature = (maker.signDigest (typedDataDigest maker.keccak256 components)).toVec

private theorem accepted_orderComponents {maker : WebMaker} (hconverts : Converts maker)
    (optionId startAmount endAmount : U256) (now : UInt64) (salt counter : U256) :
    ∃ order, Accepted maker (orderComponents maker optionId startAmount endAmount now salt counter) order optionId := by
  have hreceived : ∃ offer, Taker.receivedOffer
      (orderH maker (orderComponents maker optionId startAmount endAmount now salt counter)) = .ok offer := ⟨_, rfl⟩
  obtain ⟨offer, hreceived⟩ := hreceived
  generalize hcomponents : orderComponents maker optionId startAmount endAmount now salt counter = components
    at hreceived
  obtain ⟨parameters, hparameters, hagrees⟩ := orderParameters_orderH hconverts components
  have hout : Taker.transformToSeaportOrder (signedOrderH maker components) (orderH maker components) =
      .ok ⟨parameters, (maker.signDigest (typedDataDigest maker.keccak256 components)).toVec⟩ := by
    refine Taker.transformToSeaportOrder_ok_iff.mpr
      ⟨_, _, _, rfl, Grpc.EthSignature.toSignature_ofSignature _, hparameters, ?_⟩
    rw [Signature.toVec, Signature.toVec, UInt8.toUInt8_toUInt64]
  have hfirst : parameters.offer = [⟨Grpc.asU8 Grpc.ItemType.erc1155.toI32, valoremClearAddress, optionId, startAmount,
      endAmount⟩] := by
    rw [hagrees.offer, ← hcomponents]
    rfl
  have hsigned : (signedOrderH maker components).parameters = some (orderH maker components) := rfl
  refine ⟨⟨parameters, _⟩, ?_, hagrees, rfl⟩
  simp only [Taker.acceptedOrder, hsigned, unwrap_some, ok_bind, hreceived, hout, hfirst]
  rfl

/-- What is done for a request before its offer is sent, and the offer: the options asked for
are written, against WETH that is allowed for them, and signed over at their price. -/
inductive Offered (maker : WebMaker) (turn : Turn) : List Event → Grpc.QuoteResponse → Prop
  | offered {optionId optionAmount total counter : U256} {amount : BitVec 112} {now : UInt64} {optionInfo : OptionInfo}
      (action : turn.quoteRequest.action = Grpc.Action.buy.toI32)
      (id : maker.fromH256 turn.quoteRequest.identifierOrCriteria = .ok optionId)
      (asked : maker.fromH256 turn.quoteRequest.amount = .ok optionAmount)
      (option : turn.rpc.option = .ok optionInfo) (weth : optionInfo.underlyingAsset = wethAddress)
      (allowed : total.toNat = optionAmount.toNat * optionInfo.underlyingAmount.toNat)
      (written : amount.toNat = optionAmount.toNat) :
      Offered maker turn
        [.approve valoremClearAddress total, .write optionId amount,
          .signDigest (typedDataDigest maker.keccak256
            (orderComponents maker optionId optionAmount optionAmount now (salt turn.rpc.randomBytes) counter))]
        ⟨turn.quoteRequest.ulid, some (maker.toH160 maker.address),
          some (signedOrderH maker
            (orderComponents maker optionId optionAmount optionAmount now (salt turn.rpc.randomBytes) counter)),
          none, none⟩

/-- What has been done by the time there is a response to send. -/
def Prepared (maker : WebMaker) (turn : Turn) (response? : Option Grpc.QuoteResponse) (log : List Event) : Prop :=
  ∀ response, response? = some response → ∃ earlier written, Offered maker turn written response ∧ log = earlier ++ written

/-- A response with an offer is sent after what was done for it. -/
def Sends (maker : WebMaker) (turns : List Turn) (before : List Event) (event : Event) : Prop :=
  ∀ response, event = .respond (some response) → ∃ turn ∈ turns, ∃ earlier written,
    Offered maker turn written response ∧ before = earlier ++ written ++ [.setApprovalForAll Seaport.seaportContractAddress]

section
variable {maker : WebMaker} {turns : List Turn} {log : List Event}

private theorem uint_ok {bits n : Nat} {v : BitVec bits} (h : uint bits n = .ok v) : v.toNat = n := by
  unfold uint at h
  split at h
  · rename_i hlt
    cases h
    exact Nat.mod_eq_of_lt hlt
  · cases h

private theorem sends_skipping (before : List Event) (text : String) :
    Sends maker turns before (.skipping text) :=
  fun _ h => by cases h

private theorem skippingWhen_obeys {missing : Bool} {reason : Reason} {Q : Unit → List Event → Prop}
    (h : ∀ log', Q () log') : Obeys (Sends maker turns) log (skippingWhen missing reason) Q := by
  rw [skippingWhen]
  split
  · exact obeys_emit (sends_skipping _ _) (h _)
  · exact obeys_pure (h _)

private theorem declined_obeys {turn : Turn} (reason : Reason) :
    Obeys (Sends maker turns) log (do skipping reason; return none : Task (Option Grpc.QuoteResponse))
      (Prepared maker turn) :=
  obeys_bind (obeys_emit (sends_skipping _ _) (obeys_pure fun _ h => by cases h))

private theorem writeAndOffer_obeys {turn : Turn} {optionId optionAmount : U256} {optionInfo : OptionInfo}
    (action : turn.quoteRequest.action = Grpc.Action.buy.toI32)
    (id : maker.fromH256 turn.quoteRequest.identifierOrCriteria = .ok optionId)
    (asked : maker.fromH256 turn.quoteRequest.amount = .ok optionAmount)
    (option : turn.rpc.option = .ok optionInfo) (weth : optionInfo.underlyingAsset = wethAddress) :
    Obeys (Sends maker turns) log
      (writeAndOffer maker turn.rpc turn.quoteRequest optionId optionAmount optionInfo) (Prepared maker turn) := by
  rw [writeAndOffer]
  refine obeys_bind (obeys_lift fun total htotal => ?_)
  refine obeys_bind (obeys_emit (fun _ h => by cases h) (obeys_bind (obeys_lift fun txReceiptApprove _ => ?_)))
  split
  · exact declined_obeys .approvalFailed
  refine obeys_bind (obeys_lift fun amount hamount => ?_)
  refine obeys_bind (obeys_emit (fun _ h => by cases h) (obeys_bind (obeys_lift fun txReceiptWrite _ => ?_)))
  split
  · exact declined_obeys .writeFailed
  rw [constructOffer]
  simp only [asked]
  refine obeys_bind (obeys_bind (obeys_lift fun startAmount hstart => ?_))
  cases hstart
  refine obeys_bind (obeys_lift fun endAmount hend => ?_)
  cases hend
  refine obeys_bind (obeys_lift fun now _ => obeys_bind (obeys_lift fun counter _ => ?_))
  refine obeys_bind (obeys_emit (fun _ h => by cases h) (obeys_pure (obeys_pure ?_)))
  intro response hresponse
  cases hresponse
  refine ⟨log, _, .offered action id asked option weth (uint_ok htotal) (uint_ok hamount), ?_⟩
  rw [List.append_assoc, List.append_assoc]
  rfl

/-- An offer is only constructed where the options have been written for it. -/
theorem constructQuoteResponse_obeys (turn : Turn) :
    Obeys (Sends maker turns) log (constructQuoteResponse maker turn.rpc turn.quoteRequest) (Prepared maker turn) := by
  rw [constructQuoteResponse]
  refine obeys_bind (skippingWhen_obeys fun log' => obeys_bind (obeys_lift fun optionId id => ?_))
  split
  · exact declined_obeys .notBuy
  rename_i action
  refine obeys_bind (skippingWhen_obeys fun log' => obeys_bind (obeys_lift fun optionAmount asked => ?_))
  refine obeys_bind (obeys_lift fun optionInfo option => ?_)
  split
  · exact declined_obeys .notWeth
  rename_i weth
  exact writeAndOffer_obeys (not_not.mp action) id asked option (not_not.mp weth)

private theorem respond_obeys {turn : Turn} (hturn : turn ∈ turns) :
    Obeys (Sends maker turns) log (respond maker turn) fun _ _ => True := by
  rw [respond]
  refine obeys_bind (obeys_emit (fun _ h => by cases h) (obeys_bind ?_))
  refine (constructQuoteResponse_obeys turn).imp fun response? log' hoffered => ?_
  refine obeys_bind (obeys_emit (fun _ h => by cases h) (obeys_bind (obeys_lift fun txReceipt _ => ?_)))
  split
  · exact obeys_bind (obeys_emit (sends_skipping _ _) (obeys_pure trivial))
  refine obeys_bind (obeys_emit (fun response h => ?_) (obeys_pure trivial))
  obtain ⟨earlier, written, hwritten, rfl⟩ := hoffered response (Event.respond.inj h)
  exact ⟨turn, hturn, earlier, written, hwritten, rfl⟩

private theorem respondToRfqs_obeys {rest : List Turn} (hrest : ∀ turn ∈ rest, turn ∈ turns) :
    Obeys (Sends maker turns) log (respondToRfqs maker rest) fun _ _ => True := by
  induction rest generalizing log with
  | nil => exact obeys_pure trivial
  | cons turn rest ih =>
    rw [respondToRfqs_cons]
    refine obeys_bind ((respond_obeys (hrest turn (by simp))).imp fun flow log' _ => ?_)
    cases flow with
    | returned => exact obeys_pure trivial
    | listening => exact ih fun later hlater => hrest later (by simp [hlater])

end

/-- Every offer the web maker sends comes right after the options were written for it and
Seaport was allowed to move them. The taker submits of it the order that was signed: the
options that were written, for the price. -/
theorem respondToRfqs_offers (maker : WebMaker) (hconverts : Converts maker) (turns : List Turn)
    {before after : List Event} {response : Grpc.QuoteResponse}
    (hlog : (respondToRfqs maker turns).events = before ++ .respond (some response) :: after) :
    ∃ turn ∈ turns, ∃ earlier written, Offered maker turn written response ∧
      before = earlier ++ written ++ [.setApprovalForAll Seaport.seaportContractAddress] ∧
      ∃ components optionId amount order n, response.order = some (signedOrderH maker components) ∧
        .signDigest (typedDataDigest maker.keccak256 components) ∈ written ∧ .write optionId amount ∈ written ∧
        Accepted maker components order optionId ∧ n.toNat = amount.toNat ∧
        order.parameters.offer = [⟨3, valoremClearAddress, optionId, n, n⟩] ∧
        order.parameters.consideration = [⟨1, usdcAddress, 0, usdcPrice, usdcPrice, maker.address⟩] := by
  have hobeys : Obeys (Sends maker turns) [] (respondToRfqs maker turns) fun _ _ => True :=
    respondToRfqs_obeys fun _ h => h
  obtain ⟨turn, hturn, earlier, written, hoffered, hbefore⟩ := hobeys.follows before _ after hlog response rfl
  refine ⟨turn, hturn, earlier, written, hoffered, hbefore, ?_⟩
  cases hoffered with
  | @offered optionId optionAmount total counter amount now optionInfo _ _ _ _ _ _ hwritten =>
    obtain ⟨order, haccepted⟩ := accepted_orderComponents hconverts optionId optionAmount optionAmount now
      (salt turn.rpc.randomBytes) counter
    exact ⟨_, optionId, amount, order, optionAmount, rfl, by simp, by simp, haccepted, hwritten.symm,
      haccepted.agrees.offer, haccepted.agrees.consideration⟩

private theorem plainMaker_converts : Converts plainMaker :=
  ⟨Grpc.H160.toHash_ofHash, Grpc.H256.toU256_ofU256⟩

/-- After a request to sell, which is answered with nothing, an offer is made. -/
theorem respondToRfqs_offers_second : ∃ before response optionId amount signedOrder order,
    (respondToRfqs plainMaker [sellTurn, plainTurn]).events = before ++ [.respond (some response)] ∧
      .write optionId amount ∈ before ∧ response.order = some signedOrder ∧
      Taker.acceptedOrder signedOrder = .ok (order, optionId) := by
  obtain ⟨before, response, hlog⟩ : ∃ before response,
      (respondToRfqs plainMaker [sellTurn, plainTurn]).events = before ++ [.respond (some response)] :=
    ⟨[_, _, _, _, _, _, _, _, _], _, rfl⟩
  obtain ⟨_, _, earlier, written, _, hbefore, components, optionId, amount, order, _, horder, _, hwrite, haccepted, _⟩ :=
    respondToRfqs_offers plainMaker plainMaker_converts [sellTurn, plainTurn] hlog
  refine ⟨before, response, optionId, amount, _, order, hlog, ?_, horder, haccepted.accepted⟩
  rw [hbefore]
  simp [hwrite]

end TradeInterfaces.RfqMaker
