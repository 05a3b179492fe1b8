import TradeInterfaces.Foundations.Scans
import TradeInterfaces.Maker.Calls

/-! Writing an option: one transaction to the settlement engine, then the receipt's
logs are searched for the ids it wrote. -/
namespace TradeInterfaces.Maker
open Foundations.BigEndian Foundations.Panics Foundations.Effects Ethers
open Foundations.Scans (foldl_overwrite)

/-- One turn of the loop over the logs. Logs that do not decode are skipped. -/
def scanLog (maker : MarketMaker) (ids : U256 × U256) (log : Log) : U256 × U256 :=
  match maker.decodeLog ⟨log.topics, log.data⟩ with
  | some (.optionsWrittenFilter event) => (event.optionId, event.claimId)
  | some .other => ids
  | none => ids

/-- The option and claim id left after the loop; both start from zero. -/
def scanLogs (maker : MarketMaker) (logs : List Log) : U256 × U256 := logs.foldl (scanLog maker) (0, 0)

/-- From the sent transaction to the ids it reports: each call that fails, a missing
receipt and an id left at zero end in `none`. -/
def writtenIds (maker : MarketMaker) (rpc : Rpc) : Option (U256 × U256) :=
  match rpc.sendTransaction with
  | .error _ => none
  | .ok () =>
    match rpc.pendingTx with
    | .error _ => none
    | .ok none => none
    | .ok (some receipt) =>
      let (optionId, claimId) := scanLogs maker receipt.logs
      if optionId = 0 ∨ claimId = 0 then none else some (optionId, claimId)

/-- The write transaction and what it does on chain, which no later outcome undoes. -/
def writeEvents (maker : MarketMaker) (optionType : U256) (amount : U128) (gasPrice : U256) (rpc : Rpc) :
    List Event :=
  .sendTransaction ⟨maker.settlementEngine, optionType, amount, 500000, gasPrice⟩ ::
    match rpc.writeEffect with
    | some optionId => [.optionsWritten optionId amount]
    | none => []

def writeOption (maker : MarketMaker) (requestForQuote : Grpc.QuoteRequest) (rpc : Rpc) :
    Task (Option (U256 × U256)) := do
  let optionType ← Proc.lift (unwrap requestForQuote.identifierOrCriteria)
  let amount ← Proc.lift (unwrap requestForQuote.amount)
  let gasPrice ← Proc.lift (checkedMul 200 (exp10 8))
  let amount ← Proc.lift (asU128 amount.toU256)
  Proc.emitAll (writeEvents maker optionType.toU256 amount gasPrice rpc)
  return writtenIds maker rpc

/-- The event of a log that writes options. -/
def written? (maker : MarketMaker) (log : Log) : Option OptionsWrittenFilter :=
  match maker.decodeLog ⟨log.topics, log.data⟩ with
  | some (.optionsWrittenFilter event) => some event
  | _ => none

/-- The last such event of a receipt. -/
def lastWritten (maker : MarketMaker) (receipt : TransactionReceipt) : Option OptionsWrittenFilter :=
  (receipt.logs.filterMap (written? maker)).getLast?

/-- The loop keeps the ids of the last event, and zeros when there is none. -/
theorem scanLogs_eq (maker : MarketMaker) (receipt : TransactionReceipt) :
    scanLogs maker receipt.logs =
      (lastWritten maker receipt).elim (0, 0) fun event => (event.optionId, event.claimId) := by
  have hturn : scanLog maker = fun ids log =>
      ((written? maker log).map fun event => (event.optionId, event.claimId)).getD ids := by
    funext ids log
    unfold scanLog written?
    cases maker.decodeLog ⟨log.topics, log.data⟩ with
    | none => rfl
    | some event => cases event <;> rfl
  unfold scanLogs lastWritten
  rw [hturn, foldl_overwrite, ← List.map_filterMap, List.getLast?_map]
  cases (receipt.logs.filterMap (written? maker)).getLast? <;> rfl

/-- Ids pass the check for zeros as they are. -/
theorem ite_zero_eq_some_iff {a b optionId claimId : U256} :
    (if a = 0 ∨ b = 0 then none else some (a, b)) = some (optionId, claimId) ↔
      a = optionId ∧ b = claimId ∧ optionId ≠ 0 ∧ claimId ≠ 0 := by
  rw [Option.ite_none_left_eq_some, Option.some.injEq, Prod.mk.injEq]
  constructor
  · rintro ⟨hz, rfl, rfl⟩
    exact ⟨rfl, rfl, not_or.mp hz⟩
  · rintro ⟨rfl, rfl, hz⟩
    exact ⟨not_or.mpr hz, rfl, rfl⟩

/-- Ids are reported when both calls return and the last event names ids that are not zero. -/
theorem writtenIds_eq_some_iff (maker : MarketMaker) (rpc : Rpc) {optionId claimId : U256} :
    writtenIds maker rpc = some (optionId, claimId) ↔
      rpc.sendTransaction = .ok () ∧ ∃ receipt event, rpc.pendingTx = .ok (some receipt) ∧
        lastWritten maker receipt = some event ∧ event.optionId = optionId ∧ event.claimId = claimId ∧
        optionId ≠ 0 ∧ claimId ≠ 0 := by
  unfold writtenIds
  cases rpc.sendTransaction with
  | error e => simp
  | ok u =>
    cases rpc.pendingTx with
    | error e => simp
    | ok receipt? =>
      cases receipt? with
      | none => simp
      | some receipt =>
        dsimp only
        rw [scanLogs_eq, ite_zero_eq_some_iff]
        cases hl : lastWritten maker receipt with
        | none =>
          apply iff_of_false
          · intro h
            exact h.2.2.1 h.1.symm
          · simp [hl]
        | some event => simp [hl]

theorem optionsWritten_mem_writeEvents {maker : MarketMaker} {optionType gasPrice id : U256} {amount n : U128}
    {rpc : Rpc} : .optionsWritten id n ∈ writeEvents maker optionType amount gasPrice rpc ↔
      rpc.writeEffect = some id ∧ n = amount := by
  unfold writeEvents
  cases rpc.writeEffect <;> simp [eq_comm]

/-- The gas price of the write transaction, 200 * 10^8. -/
def writeGasPrice : U256 := 20000000000

private theorem gasPrice_ok : checkedMul (200 : U256) (exp10 8) = .ok writeGasPrice := by decide +kernel

theorem writeOption_of_fits (maker : MarketMaker) (rfq : Grpc.QuoteRequest) (rpc : Rpc)
    {id amount : Grpc.H256} {n : U128} (hi : rfq.identifierOrCriteria = some id)
    (ha : rfq.amount = some amount) (hn : asU128 amount.toU256 = .ok n) :
    writeOption maker rfq rpc =
      ⟨.ok (writtenIds maker rpc), writeEvents maker id.toU256 n writeGasPrice rpc⟩ := by
  simp only [writeOption, hi, ha, hn, gasPrice_ok, unwrap_some, Proc.lift_ok_bind, Proc.emitAll_bind,
    Proc.outcome_pure, Proc.events_pure, List.append_nil]

/-- An amount of more than 128 bits panics before anything is sent. -/
theorem writeOption_of_overflow (maker : MarketMaker) (rfq : Grpc.QuoteRequest) (rpc : Rpc)
    {id amount : Grpc.H256} {p : Panic} (hi : rfq.identifierOrCriteria = some id)
    (ha : rfq.amount = some amount) (hn : asU128 amount.toU256 = .error p) :
    writeOption maker rfq rpc = ⟨.error p, []⟩ := by
  simp only [writeOption, hi, ha, hn, gasPrice_ok, unwrap_some, Proc.lift_ok_bind, Proc.lift_error_bind,
    Proc.abort]

end TradeInterfaces.Maker
