import TradeInterfaces.Foundations.Keccak
import TradeInterfaces.RfqMaker.QuoteResponse

/-! The web maker's loop, and what a request it skips does to the requests after it. -/
namespace TradeInterfaces.RfqMaker
open Foundations.BigEndian Foundations.Effects Ethers

/-- A request and the outcomes of the calls made for it. -/
structure Turn where
  quoteRequest : Grpc.QuoteRequest
  rpc : Rpc

/-- Where the loop is: waiting for the next request, or left by `return`. -/
inductive Flow where
  | listening | returned
  deriving DecidableEq

section
variable (maker : WebMaker)

/-- The body of the loop. Whatever `constructQuoteResponse` gives is sent. -/
def respond (turn : Turn) : Task Flow := do
  Proc.emit (.received turn.quoteRequest)
  let quoteResponse ← constructQuoteResponse maker turn.rpc turn.quoteRequest
  Proc.emit (.setApprovalForAll Seaport.seaportContractAddress)
  let txReceipt ← Proc.lift turn.rpc.setApprovalForAll
  if txReceipt.status = some 0 then
    skipping .tokenApprovalFailed
    return .returned
  Proc.emit (.respond quoteResponse)
  return .listening

def respondToRfqs : List Turn → Task Flow
  | [] => return .listening
  | turn :: rest => do
    match ← respond maker turn with
    | .returned => return .returned
    | .listening => respondToRfqs rest

/-- A transaction that is made and reported with status 0, of the two before the offer. -/
def WriteFails (rpc : Rpc) (optionAmount : U256) (optionInfo : OptionInfo) : Prop :=
  optionAmount.toNat * optionInfo.underlyingAmount.toNat < 2^256 ∧ ∃ receipt, rpc.approve = .ok receipt ∧
    (receipt.status = some 0 ∨
      optionAmount.toNat < 2^112 ∧ ∃ receipt, rpc.write = .ok receipt ∧ receipt.status = some 0)

/-- No exception between the decision to respond and the response. -/
def WriteReturns (rpc : Rpc) (optionAmount : U256) (optionInfo : OptionInfo) : Prop :=
  optionAmount.toNat * optionInfo.underlyingAmount.toNat < 2^256 ∧ ∃ receipt, rpc.approve = .ok receipt ∧
    (receipt.status = some 0 ∨
      optionAmount.toNat < 2^112 ∧ ∃ receipt, rpc.write = .ok receipt ∧
        (receipt.status = some 0 ∨ (∃ now, rpc.getBlock = .ok now) ∧ ∃ counter, rpc.getCounter = .ok counter))

/-- A field is missing, or the request is found unacceptable, or a transaction fails. -/
def Declined (rpc : Rpc) (quoteRequest : Grpc.QuoteRequest) : Prop :=
  quoteRequest.identifierOrCriteria = none ∨
  ∃ optionId, maker.fromH256 quoteRequest.identifierOrCriteria = .ok optionId ∧
    (quoteRequest.action ≠ Grpc.Action.buy.toI32 ∨ quoteRequest.amount = none ∨
      ∃ optionAmount, maker.fromH256 quoteRequest.amount = .ok optionAmount ∧
        ∃ optionInfo, rpc.option = .ok optionInfo ∧
          (optionInfo.underlyingAsset ≠ wethAddress ∨ WriteFails rpc optionAmount optionInfo))

/-- No call before the token approval throws. -/
def Completes (rpc : Rpc) (quoteRequest : Grpc.QuoteRequest) : Prop :=
  ∃ optionId, maker.fromH256 quoteRequest.identifierOrCriteria = .ok optionId ∧
    (quoteRequest.action ≠ Grpc.Action.buy.toI32 ∨
      ∃ optionAmount, maker.fromH256 quoteRequest.amount = .ok optionAmount ∧
        ∃ optionInfo, rpc.option = .ok optionInfo ∧
          (optionInfo.underlyingAsset ≠ wethAddress ∨ WriteReturns rpc optionAmount optionInfo))

/-- A request that is skipped: declined, or held up at the token approval. -/
def Skipped (turn : Turn) : Prop :=
  Declined maker turn.rpc turn.quoteRequest ∨
  Completes maker turn.rpc turn.quoteRequest ∧
    ∃ receipt, turn.rpc.setApprovalForAll = .ok receipt ∧ receipt.status = some 0

/-- Nothing throws, and the token approval is not reported with status 0. -/
def Undisturbed (turn : Turn) : Prop :=
  Completes maker turn.rpc turn.quoteRequest ∧
    ∃ receipt, turn.rpc.setApprovalForAll = .ok receipt ∧ receipt.status ≠ some 0

/-- A skipped request gets no response, and what follows it is what would follow without it. -/
def SkipIsLocal (turns : List Turn) : Prop :=
  ∀ before turn after, turns = before ++ turn :: after →
    (respondToRfqs maker before).outcome = .ok .listening → Skipped maker turn →
    (∀ quoteResponse, .respond quoteResponse ∉ (respond maker turn).events) ∧
    ∃ later, (respondToRfqs maker (before ++ after)).events = (respondToRfqs maker before).events ++ later ∧
      (respondToRfqs maker (before ++ turn :: after)).events =
        (respondToRfqs maker before).events ++ (respond maker turn).events ++ later

/-- The first request that is skipped is disturbed before its send, and is the last one. -/
def SkippedLast (turns : List Turn) : Prop :=
  ∀ before turn after, turns = before ++ turn :: after → (∀ earlier ∈ before, Undisturbed maker earlier) →
    Skipped maker turn → ¬Undisturbed maker turn ∧ after = []

end

/-- The log of a skip. -/
def Event.IsSkip (event : Event) : Prop := ∃ text, event = .skipping text

def Event.IsResponse (event : Event) : Prop := ∃ quoteResponse, event = .respond quoteResponse

section
variable {maker : WebMaker} {rpc : Rpc} {quoteRequest : Grpc.QuoteRequest}

private theorem exists_uint {bits n : Nat} : (∃ v, uint bits n = .ok v) ↔ n < 2^bits := by
  unfold uint
  split <;> simp_all

@[simp] theorem returns_skipping (reason : Reason) (Q : Unit → Prop) : (skipping reason).Returns Q ↔ Q () := by
  simp [skipping]

@[simp] theorem emits_skipping (reason : Reason) (P : Event → Prop) :
    (skipping reason).Emits P ↔ P (.skipping reason.text) := by
  simp [skipping]

@[simp] theorem returns_skippingWhen (missing : Bool) (reason : Reason) (Q : Unit → Prop) :
    (skippingWhen missing reason).Returns Q ↔ Q () := by
  simp [skippingWhen]

@[simp] theorem emits_skippingWhen (missing : Bool) (reason : Reason) (P : Event → Prop) :
    (skippingWhen missing reason).Emits P ↔ missing = true ∧ P (.skipping reason.text) := by
  simp [skippingWhen]

/-- Making the offer only signs. -/
theorem constructOffer_emits {optionId : U256} {P : Event → Prop} (hP : ∀ hash, ¬P (.signDigest hash)) :
    ¬(constructOffer maker rpc quoteRequest optionId).Emits P := by
  simp [constructOffer, hP]

private theorem constructOffer_returns {optionId optionAmount : U256}
    (ha : maker.fromH256 quoteRequest.amount = .ok optionAmount) :
    (constructOffer maker rpc quoteRequest optionId).Returns (fun _ => True) ↔
      (∃ now, rpc.getBlock = .ok now) ∧ ∃ counter, rpc.getCounter = .ok counter := by
  simp [constructOffer, ha]

private theorem writeAndOffer_emits_skip (optionId optionAmount : U256) (optionInfo : OptionInfo) :
    (writeAndOffer maker rpc quoteRequest optionId optionAmount optionInfo).Emits Event.IsSkip ↔
      WriteFails rpc optionAmount optionInfo := by
  have hoffer : ¬(constructOffer maker rpc quoteRequest optionId).Emits Event.IsSkip :=
    constructOffer_emits (by simp [Event.IsSkip])
  simp [writeAndOffer, WriteFails, hoffer, exists_uint, or_iff_not_imp_left, Event.IsSkip]

private theorem writeAndOffer_returns {optionId optionAmount : U256} {optionInfo : OptionInfo}
    (ha : maker.fromH256 quoteRequest.amount = .ok optionAmount) :
    (writeAndOffer maker rpc quoteRequest optionId optionAmount optionInfo).Returns (fun _ => True) ↔
      WriteReturns rpc optionAmount optionInfo := by
  simp [writeAndOffer, WriteReturns, constructOffer_returns ha, exists_uint, or_iff_not_imp_left]

private theorem constructQuoteResponse_emits_skip :
    (constructQuoteResponse maker rpc quoteRequest).Emits Event.IsSkip ↔ Declined maker rpc quoteRequest := by
  simp [constructQuoteResponse, Declined, writeAndOffer_emits_skip, or_iff_not_imp_left, Event.IsSkip]

private theorem constructQuoteResponse_returns :
    (constructQuoteResponse maker rpc quoteRequest).Returns (fun _ => True) ↔ Completes maker rpc quoteRequest := by
  cases ha : maker.fromH256 quoteRequest.amount with
  | error e => simp [constructQuoteResponse, Completes, ha, or_iff_not_imp_left]
  | ok optionAmount => simp [constructQuoteResponse, Completes, ha, writeAndOffer_returns ha, or_iff_not_imp_left]

/-- A request is answered by the loop only. -/
theorem constructQuoteResponse_silent :
    ¬(constructQuoteResponse maker rpc quoteRequest).Emits Event.IsResponse := by
  have hoffer (optionId : U256) : ¬(constructOffer maker rpc quoteRequest optionId).Emits Event.IsResponse :=
    constructOffer_emits (by simp [Event.IsResponse])
  simp [constructQuoteResponse, writeAndOffer, hoffer, Event.IsResponse]

private theorem constructQuoteResponse_then (c : Prop) :
    (constructQuoteResponse maker rpc quoteRequest).Returns (fun _ => c) ↔
      Completes maker rpc quoteRequest ∧ c := by
  rw [Proc.returns_const, constructQuoteResponse_returns]

variable {turn : Turn}

/-- A skip is logged exactly when the request is skipped. -/
theorem respond_emits_skip : (respond maker turn).Emits Event.IsSkip ↔ Skipped maker turn := by
  simp [respond, Skipped, constructQuoteResponse_emits_skip, constructQuoteResponse_then, Event.IsSkip]

/-- Every turn that nothing disturbs sends, whether the request is skipped or not. -/
theorem respond_emits_response : (respond maker turn).Emits Event.IsResponse ↔ Undisturbed maker turn := by
  simp [respond, Undisturbed, constructQuoteResponse_silent, constructQuoteResponse_then, Event.IsResponse]

private theorem respond_listening : (respond maker turn).Returns (· = .listening) ↔ Undisturbed maker turn := by
  simp [respond, Undisturbed, constructQuoteResponse_then]

private theorem respond_events (maker : WebMaker) (turn : Turn) :
    ∃ rest, (respond maker turn).events = .received turn.quoteRequest :: rest :=
  ⟨_, rfl⟩

theorem respondToRfqs_cons (turn : Turn) (rest : List Turn) :
    respondToRfqs maker (turn :: rest) = respond maker turn >>= fun flow =>
      match flow with
      | .returned => pure .returned
      | .listening => respondToRfqs maker rest := rfl

/-- After a turn that nothing disturbs the loop goes on with the rest. -/
theorem respondToRfqs_undisturbed (h : Undisturbed maker turn) (rest : List Turn) :
    respondToRfqs maker (turn :: rest) =
      ⟨(respondToRfqs maker rest).outcome, (respond maker turn).events ++ (respondToRfqs maker rest).events⟩ := by
  obtain ⟨flow, hflow, rfl⟩ := respond_listening.mpr h
  rw [respondToRfqs_cons, Proc.bind_of_ok hflow]

/-- A turn that is disturbed is the last one. -/
theorem respondToRfqs_disturbed (h : ¬Undisturbed maker turn) (rest : List Turn) :
    (respondToRfqs maker (turn :: rest)).events = (respond maker turn).events ∧
      (respondToRfqs maker (turn :: rest)).outcome ≠ .ok .listening := by
  rw [respondToRfqs_cons]
  cases hout : (respond maker turn).outcome with
  | error e => simp [Proc.bind_of_error hout]
  | ok flow =>
    cases flow with
    | listening => exact absurd (respond_listening.mp ⟨.listening, hout, rfl⟩) h
    | returned => simp [Proc.bind_of_ok hout]

private theorem respondToRfqs_received (maker : WebMaker) (turn : Turn) (rest : List Turn) :
    ∃ events, (respondToRfqs maker (turn :: rest)).events = .received turn.quoteRequest :: events := by
  obtain ⟨events, hevents⟩ := respond_events maker turn
  by_cases h : Undisturbed maker turn
  · rw [respondToRfqs_undisturbed h, hevents]
    exact ⟨_, rfl⟩
  · rw [(respondToRfqs_disturbed h rest).1, hevents]
    exact ⟨_, rfl⟩

/-- The loop is still listening when nothing has disturbed it. -/
theorem respondToRfqs_listening_iff (turns : List Turn) :
    (respondToRfqs maker turns).outcome = .ok .listening ↔ ∀ turn ∈ turns, Undisturbed maker turn := by
  induction turns with
  | nil => simp [respondToRfqs]
  | cons turn rest ih =>
    by_cases h : Undisturbed maker turn
    · rw [respondToRfqs_undisturbed h]
      simp [h, ih]
    · simp [h, (respondToRfqs_disturbed h rest).2]

/-- While the loop is listening, more requests only add to its log. -/
theorem respondToRfqs_append {before : List Turn} (h : ∀ turn ∈ before, Undisturbed maker turn) (after : List Turn) :
    (respondToRfqs maker (before ++ after)).events =
      (respondToRfqs maker before).events ++ (respondToRfqs maker after).events := by
  induction before with
  | nil => rfl
  | cons turn rest ih =>
    have hturn : Undisturbed maker turn := h turn (by simp)
    have hrest := ih fun earlier hm => h earlier (by simp [hm])
    rw [List.cons_append, respondToRfqs_undisturbed hturn, respondToRfqs_undisturbed hturn]
    simp [hrest]

/-- Where skipping is local, no request follows a skipped one, and that one sends nothing. -/
theorem SkipIsLocal.last {before after : List Turn} (h : SkipIsLocal maker (before ++ turn :: after))
    (hbefore : ∀ earlier ∈ before, Undisturbed maker earlier) (hskipped : Skipped maker turn) :
    ¬Undisturbed maker turn ∧ after = [] := by
  have hlistening := (respondToRfqs_listening_iff before).mpr hbefore
  obtain ⟨hsilent, later, hwithout, hwith⟩ := h before turn after rfl hlistening hskipped
  have hdisturbed : ¬Undisturbed maker turn := by
    intro hundisturbed
    obtain ⟨_, hmem, quoteResponse, rfl⟩ := respond_emits_response.mpr hundisturbed
    exact hsilent quoteResponse hmem
  refine ⟨hdisturbed, ?_⟩
  -- with the request nothing follows its turn, so without it nothing follows either
  rw [respondToRfqs_append hbefore, (respondToRfqs_disturbed hdisturbed after).1] at hwith
  have hlater : later = [] := by simpa using hwith
  rw [respondToRfqs_append hbefore, hlater] at hwithout
  cases after with
  | nil => rfl
  | cons next rest =>
    obtain ⟨events, hevents⟩ := respondToRfqs_received maker next rest
    rw [hevents] at hwithout
    simp at hwithout

end

/-- A message is logged exactly for the requests that are skipped, and a response is sent
exactly in the turns that nothing disturbs. So skipping a request is local exactly when it
is the last one and its turn is disturbed before the send. -/
theorem skipIsLocal_iff (maker : WebMaker) :
    (∀ turn, (∃ text, .skipping text ∈ (respond maker turn).events) ↔ Skipped maker turn) ∧
    (∀ turn, (∃ quoteResponse, .respond quoteResponse ∈ (respond maker turn).events) ↔ Undisturbed maker turn) ∧
    ∀ turns, SkipIsLocal maker turns ↔ SkippedLast maker turns := by
  refine ⟨fun turn => ?_, fun turn => ?_, fun turns => ?_⟩
  · rw [← respond_emits_skip]
    exact ⟨fun ⟨text, h⟩ => ⟨_, h, text, rfl⟩, fun ⟨_, h, text, ht⟩ => ⟨text, ht ▸ h⟩⟩
  · rw [← respond_emits_response]
    exact ⟨fun ⟨quoteResponse, h⟩ => ⟨_, h, quoteResponse, rfl⟩, fun ⟨_, h, quoteResponse, hr⟩ => ⟨quoteResponse, hr ▸ h⟩⟩
  · constructor
    · rintro h before turn after rfl hbefore hskipped
      exact h.last hbefore hskipped
    · rintro h before turn after rfl hlistening hskipped
      have hbefore := (respondToRfqs_listening_iff before).mp hlistening
      obtain ⟨hdisturbed, rfl⟩ := h before turn after rfl hbefore hskipped
      constructor
      · intro quoteResponse hmem
        exact hdisturbed (respond_emits_response.mp ⟨_, hmem, quoteResponse, rfl⟩)
      · refine ⟨[], by simp, ?_⟩
        rw [respondToRfqs_append hbefore, (respondToRfqs_disturbed hdisturbed []).1, List.append_nil]

/-- A library that converts as the wire adapters do and throws on a missing field. -/
def plainMaker : WebMaker where
  address := toBytes 20 9
  signDigest _ := ⟨1, 2, 27⟩
  keccak256 := Foundations.Keccak.keccak256
  fromH256 field := match field with
    | some m => .ok m.toU256
    | none => .error .invalidArgument
  toH160 := Grpc.H160.ofHash
  toH256 := Grpc.H256.ofU256

/-- A request for five options, and calls that all succeed. -/
def plainTurn : Turn where
  quoteRequest := {
    ulid := none
    takerAddress := none
    itemType := Grpc.ItemType.erc1155.toI32
    tokenAddress := none
    identifierOrCriteria := some (Grpc.H256.ofU256 42)
    amount := some (Grpc.H256.ofU256 5)
    action := Grpc.Action.buy.toI32
    chainId := none
    seaportAddress := none }
  rpc := {
    option := .ok ⟨wethAddress, 1000⟩
    approve := .ok ⟨some 1⟩
    write := .ok ⟨some 1⟩
    getBlock := .ok 1700000000
    randomBytes := toBytes 8 7
    getCounter := .ok 0
    setApprovalForAll := .ok ⟨some 1⟩ }

def sellTurn : Turn := { plainTurn with
  quoteRequest := { plainTurn.quoteRequest with action := Grpc.Action.sell.toI32 } }

def unapprovedTurn : Turn := { plainTurn with rpc := { plainTurn.rpc with setApprovalForAll := .ok ⟨some 0⟩ } }

/-- A request to sell is answered with `undefined`, and a token approval with status 0
loses the request after it. -/
theorem skip_not_local : ¬SkipIsLocal plainMaker [sellTurn] ∧ ¬SkipIsLocal plainMaker [unapprovedTurn, plainTurn] := by
  constructor
  · intro h
    have hskipped : Skipped plainMaker sellTurn := .inl (.inr ⟨_, rfl, .inl (by decide)⟩)
    have hundisturbed : Undisturbed plainMaker sellTurn := ⟨⟨_, rfl, .inl (by decide)⟩, ⟨some 1⟩, rfl, by decide⟩
    exact (@SkipIsLocal.last plainMaker sellTurn [] [] h (by simp) hskipped).1 hundisturbed
  · intro h
    have hwrites : WriteReturns unapprovedTurn.rpc 5 ⟨wethAddress, 1000⟩ :=
      ⟨by decide, ⟨some 1⟩, rfl, .inr ⟨by decide, ⟨some 1⟩, rfl, .inr ⟨⟨_, rfl⟩, _, rfl⟩⟩⟩
    have hskipped : Skipped plainMaker unapprovedTurn :=
      .inr ⟨⟨_, rfl, .inr ⟨5, by decide +kernel, _, rfl, .inr hwrites⟩⟩, ⟨some 0⟩, rfl, rfl⟩
    exact List.cons_ne_nil _ _ (@SkipIsLocal.last plainMaker unapprovedTurn [] [plainTurn] h (by simp) hskipped).2

end TradeInterfaces.RfqMaker
