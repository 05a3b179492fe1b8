import TradeInterfaces.Foundations.Scans
import TradeInterfaces.Maker.Receipts

/-! The loop over a receipt's logs as it is written, with the calls of the decoder and
the ids it reports. It looks at every log and only the last `OptionsWritten` event counts. -/
namespace TradeInterfaces.Maker
open Foundations.BigEndian Foundations.Panics Foundations.Effects Ethers
open Foundations.Scans (Edits edits_iff forIn_yield getLast?_filterMap_eq_some_iff)

/-- What the scan does on the way: a log is decoded, the ids of an event are reported,
and so are ids that did not change from the default. -/
inductive ScanEvent where
  | decodeLog (log : RawLog)
  | written (amount : U128) (optionId claimId : U256)
  | unchanged (optionId claimId : U256)

def SettlementEngineEvents.decodeLog (maker : MarketMaker) (log : RawLog) :
    Proc Panic ScanEvent (Option SettlementEngineEvents) := do
  Proc.emit (.decodeLog log)
  return maker.decodeLog log

def scanReceipt (maker : MarketMaker) (receipt : TransactionReceipt) :
    Proc Panic ScanEvent (Option (U256 × U256)) := do
  let mut optionId := 0
  let mut claimId := 0
  for logEntry in receipt.logs do
    let topics := logEntry.topics
    let data := logEntry.data
    let some event ← SettlementEngineEvents.decodeLog maker ⟨topics, data⟩ | continue
    if let .optionsWrittenFilter event := event then
      Proc.emit (.written event.amount event.optionId event.claimId)
      optionId := event.optionId
      claimId := event.claimId
  if optionId = 0 ∨ claimId = 0 then
    Proc.emit (.unchanged optionId claimId)
    return none
  return some (optionId, claimId)

/-- The log decodes to `OptionsWritten`. -/
def writes (maker : MarketMaker) (log : Log) : Bool := (written? maker log).isSome

/-- Some log writes options, and the last one that does carries these ids, neither of them zero. -/
def LastWrites (maker : MarketMaker) (logs : List Log) (optionId claimId : U256) : Prop :=
  ∃ before log after event, logs = before ++ log :: after ∧ written? maker log = some event ∧
    (∀ later ∈ after, written? maker later = none) ∧ event.optionId = optionId ∧ event.claimId = claimId ∧
    optionId ≠ 0 ∧ claimId ≠ 0

/-- What the loop does with one log. -/
def logEvents (maker : MarketMaker) (log : Log) : List ScanEvent :=
  .decodeLog ⟨log.topics, log.data⟩ ::
    (written? maker log).toList.map fun event => .written event.amount event.optionId event.claimId

/-- The report of ids that are still zero. -/
def unchangedEvents (ids : U256 × U256) : List ScanEvent :=
  if ids.1 = 0 ∨ ids.2 = 0 then [.unchanged ids.1 ids.2] else []

def ScanEvent.decoded? : ScanEvent → Option RawLog
  | .decodeLog log => some log
  | _ => none

/-- The scan finds the last `OptionsWritten` event, reads the logs to their end and is blind
to the others: these can be put in, taken out and moved anywhere, into every list that keeps
the logs that write in their order. A write that was mined returns what the scan finds. -/
structure FindsLast (maker : MarketMaker) (receipt : TransactionReceipt) : Prop where
  found : ∀ optionId claimId, (scanReceipt maker receipt).outcome = .ok (some (optionId, claimId)) ↔
    LastWrites maker receipt.logs optionId claimId
  notFound : (scanReceipt maker receipt).outcome = .ok none ↔
    ¬∃ optionId claimId, LastWrites maker receipt.logs optionId claimId
  toTheEnd : (scanReceipt maker receipt).events.filterMap ScanEvent.decoded? =
    receipt.logs.map fun log => ⟨log.topics, log.data⟩
  blind : ∀ logs, Edits (writes maker) receipt.logs logs →
    (scanReceipt maker ⟨logs⟩).outcome = (scanReceipt maker receipt).outcome
  anywhere : ∀ logs, receipt.logs.filter (writes maker) = logs.filter (writes maker) →
    Edits (writes maker) receipt.logs logs
  returned : ∀ rfq rpc id amount n, rfq.identifierOrCriteria = some id → rfq.amount = some amount →
    asU128 amount.toU256 = .ok n → rpc.sendTransaction = .ok () → rpc.pendingTx = .ok (some receipt) →
    (writeOption maker rfq rpc).outcome = (scanReceipt maker receipt).outcome

/-- Turns that differ in the logs of the receipt at most, by edits of those that write nothing. -/
inductive Turn.Edited (maker : MarketMaker) : Turn → Turn → Prop
  | same (turn : Turn) : Edited maker turn turn
  | logs {turn : Turn} {receipt : TransactionReceipt} {logs : List Log}
      (hr : turn.rpc.pendingTx = .ok (some receipt)) (h : Edits (writes maker) receipt.logs logs) :
      Edited maker turn { turn with rpc := { turn.rpc with pendingTx := .ok (some ⟨logs⟩) } }

section
variable {maker : MarketMaker} {receipt : TransactionReceipt}

private theorem reported_lastWritten (maker : MarketMaker) (receipt : TransactionReceipt) :
    reported (lastWritten maker receipt) =
      if (scanLogs maker receipt.logs).1 = 0 ∨ (scanLogs maker receipt.logs).2 = 0 then none
      else some (scanLogs maker receipt.logs) := by
  rw [scanLogs_eq]
  cases lastWritten maker receipt <;> rfl

/-- Every turn goes on, so the scan is the fold over all logs and the check for zeros. -/
theorem scanReceipt_eq (maker : MarketMaker) (receipt : TransactionReceipt) :
    scanReceipt maker receipt = ⟨.ok (reported (lastWritten maker receipt)),
      receipt.logs.flatMap (logEvents maker) ++ unchangedEvents (scanLogs maker receipt.logs)⟩ := by
  unfold scanReceipt
  dsimp only
  rw [forIn_yield (scanLog maker) (logEvents maker)]
  · change (Proc.mk (.ok (scanLogs maker receipt.logs)) _ >>= _) = _
    rw [Proc.bind_of_ok rfl, reported_lastWritten]
    unfold unchangedEvents
    by_cases hz : (scanLogs maker receipt.logs).1 = 0 ∨ (scanLogs maker receipt.logs).2 = 0
    · rw [if_pos hz, if_pos hz, if_pos hz]
      rfl
    · rw [if_neg hz, if_neg hz, if_neg hz]
      rfl
  · intro log ids
    unfold SettlementEngineEvents.decodeLog scanLog logEvents written?
    cases maker.decodeLog ⟨log.topics, log.data⟩ with
    | none => rfl
    | some event => cases event <;> rfl

/-- Each log is decoded once, in the order of the receipt. -/
theorem scanReceipt_decoded : (scanReceipt maker receipt).events.filterMap ScanEvent.decoded? =
    receipt.logs.map fun log => ⟨log.topics, log.data⟩ := by
  have hturn (log : Log) : (logEvents maker log).filterMap ScanEvent.decoded? = [⟨log.topics, log.data⟩] := by
    unfold logEvents
    cases written? maker log <;> rfl
  have hend : (unchangedEvents (scanLogs maker receipt.logs)).filterMap ScanEvent.decoded? = [] := by
    unfold unchangedEvents
    split <;> rfl
  rw [scanReceipt_eq]
  dsimp only
  rw [List.filterMap_append, List.filterMap_flatMap, hend, List.append_nil, List.map_eq_flatMap]
  simp only [hturn]

/-- The result is the last event of the receipt, unless one of its ids is zero. -/
theorem scanReceipt_eq_some_iff {optionId claimId : U256} :
    (scanReceipt maker receipt).outcome = .ok (some (optionId, claimId)) ↔
      LastWrites maker receipt.logs optionId claimId := by
  rw [scanReceipt_eq, Except.ok.injEq, reported_eq_some_iff]
  unfold lastWritten
  constructor
  · intro ⟨event, hlast, hids⟩
    obtain ⟨before, log, after, hlogs, hw, hafter⟩ := getLast?_filterMap_eq_some_iff.mp hlast
    exact ⟨before, log, after, event, hlogs, hw, hafter, hids⟩
  · intro ⟨before, log, after, event, hlogs, hw, hafter, hids⟩
    exact ⟨event, getLast?_filterMap_eq_some_iff.mpr ⟨before, log, after, hlogs, hw, hafter⟩, hids⟩

private theorem scanReceipt_eq_none_iff : (scanReceipt maker receipt).outcome = .ok none ↔
    ¬∃ optionId claimId, LastWrites maker receipt.logs optionId claimId := by
  simp only [← scanReceipt_eq_some_iff]
  rw [scanReceipt_eq]
  dsimp only
  constructor
  · intro h ⟨optionId, claimId, h'⟩
    rw [h] at h'
    cases h'
  · intro h
    cases hids : reported (lastWritten maker receipt) with
    | none => rfl
    | some ids => exact absurd ⟨ids.1, ids.2, congrArg Except.ok hids⟩ h

private theorem lastWritten_edits {logs : List Log} (h : Edits (writes maker) receipt.logs logs) :
    lastWritten maker ⟨logs⟩ = lastWritten maker receipt := by
  unfold lastWritten
  rw [h.filterMap_eq]

/-- Edits of the logs that write nothing do not change the result. -/
theorem scanReceipt_edits {logs : List Log} (h : Edits (writes maker) receipt.logs logs) :
    (scanReceipt maker ⟨logs⟩).outcome = (scanReceipt maker receipt).outcome := by
  rw [scanReceipt_eq, scanReceipt_eq, lastWritten_edits h]

/-- A write that could be sent ends with what the scan of its receipt finds. -/
theorem writeOption_scans {rfq : Grpc.QuoteRequest} {rpc : Rpc} {id amount : Grpc.H256} {n : U128}
    (hi : rfq.identifierOrCriteria = some id) (ha : rfq.amount = some amount)
    (hn : asU128 amount.toU256 = .ok n) (hs : rpc.sendTransaction = .ok ())
    (hr : rpc.pendingTx = .ok (some receipt)) :
    (writeOption maker rfq rpc).outcome = (scanReceipt maker receipt).outcome := by
  rw [writeOption_of_fits maker rfq rpc hi ha hn, writtenIds_of_receipt hs hr, scanReceipt_eq]

private theorem writtenIds_edits {rpc : Rpc} {logs : List Log} (hr : rpc.pendingTx = .ok (some receipt))
    (h : Edits (writes maker) receipt.logs logs) :
    writtenIds maker { rpc with pendingTx := .ok (some ⟨logs⟩) } = writtenIds maker rpc := by
  cases hs : rpc.sendTransaction with
  | error e => simp only [writtenIds, hs]
  | ok u =>
    have hedited : writtenIds maker { rpc with pendingTx := .ok (some ⟨logs⟩) } =
        reported (lastWritten maker ⟨logs⟩) := writtenIds_of_receipt hs rfl
    rw [hs] at hedited
    rw [hedited, writtenIds_of_receipt hs hr, lastWritten_edits h]

private theorem step_edited {turn turn' : Turn} (h : Turn.Edited maker turn turn') (s : State) :
    step maker s turn = step maker s turn' := by
  cases h with
  | same => rfl
  | @logs receipt logs hr hedits =>
    obtain ⟨stream, message, rpc, channelOpen⟩ := turn
    cases stream with
    | softQuote => rfl
    | rfq =>
      have hids : (writtenIds maker { rpc with pendingTx := .ok (some ⟨logs⟩) }).map Prod.fst =
          (writtenIds maker rpc).map Prod.fst := by rw [writtenIds_edits hr hedits]
      have hanswer : answerRfq maker { rpc with pendingTx := .ok (some ⟨logs⟩) } = answerRfq maker rpc := by
        funext quote
        unfold answerRfq
        rw [handleRfqRequest_congr _ hids]
      unfold step selectBranch
      dsimp only
      rw [hanswer]
      rfl

/-- A whole run of the maker, with its answers and its effects, is blind to such edits of
the receipts. -/
theorem run_edited {turns turns' : List Turn} (h : List.Forall₂ (Turn.Edited maker) turns turns') :
    run maker turns = run maker turns' :=
  Foundations.Runs.run_congr (h.imp fun _ _ => step_edited) State.initial

end

theorem scan_findsLast (maker : MarketMaker) (receipt : TransactionReceipt) : FindsLast maker receipt where
  found _ _ := scanReceipt_eq_some_iff
  notFound := scanReceipt_eq_none_iff
  toTheEnd := scanReceipt_decoded
  blind _ h := scanReceipt_edits h
  anywhere _ h := edits_iff.mpr h
  returned _ _ _ _ _ hi ha hn hs hr := writeOption_scans hi ha hn hs hr

-- An event with a zero id hides the one before it, which is then not found.
example : (scanReceipt sampleMaker ⟨sampleReceipt.logs ++ [⟨toBytes 20 11,
    [toBytes 32 0x64b996b55aa21c6915cb2fbdc6f619d5456d7ab76ac22242b0c8651a560c7abb, toBytes 32 42, toBytes 32 9,
      toBytes 32 0], (toBytes 32 5).toList⟩]⟩).outcome = .ok none := by decide +kernel

end TradeInterfaces.Maker
