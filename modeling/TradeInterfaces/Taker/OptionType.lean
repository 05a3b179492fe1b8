import TradeInterfaces.Foundations.Protocols
import TradeInterfaces.Maker.Calls
import TradeInterfaces.Session.Setup

/-! The option type that the taker creates before it asks for quotes: its dates are counted
from the last block, and its id is read from the logs of the transaction. -/
namespace TradeInterfaces.Taker
open Foundations.BigEndian Foundations.Panics Foundations.Effects Foundations.Protocols Ethers
open Maker (RawLog Log TransactionReceipt)
open Session (Ending asU64)

structure NewOptionTypeFilter where
  optionId : U256

/-- Decoded events of the settlement engine. Only `NewOptionType` is looked at. -/
inductive SettlementEngineEvents where
  | newOptionTypeFilter (event : NewOptionTypeFilter)
  | other

structure NewOptionTypeTx where
  contract : Address
  underlyingAsset : Address
  underlyingAmount : U128
  exerciseAsset : Address
  exerciseAmount : U128
  exerciseTimestamp : UInt64
  expiryTimestamp : UInt64
  gas : U256
  gasPrice : U256
  deriving DecidableEq

structure Block where
  timestamp : U256

/-- Outcomes of the calls that create the option type. -/
structure OptionCalls where
  getBlockNumber : Except String UInt64
  getBlock : Except String (Option Block)
  sendTransaction : Except String Unit
  pendingTx : Except String (Option TransactionReceipt)

def secondsInADay : UInt64 := 86400
def secondsInThirtyMinutes : UInt64 := 1800

/-- An addition that does not fit panics. -/
def addU64 (a b : UInt64) : Except Panic UInt64 :=
  if a.toNat + b.toNat < 2^64 then .ok (a + b) else .error .overflow

/-- The dates of an option, from the time of the last block. -/
def optionDates (blockTimestamp : UInt64) : Except Panic (UInt64 × UInt64) := do
  let exerciseTimestamp ← addU64 (← addU64 blockTimestamp secondsInADay) secondsInThirtyMinutes
  let expiryTimestamp ← addU64 exerciseTimestamp secondsInADay
  return (exerciseTimestamp, expiryTimestamp)

/-- One unit of WETH, exercised at 1550 USDC. -/
def newOptionType (settlementContract : Address) (exerciseTimestamp expiryTimestamp : UInt64) : NewOptionTypeTx where
  contract := settlementContract
  underlyingAsset := toBytes 20 0x618b9a2Db0CF23Bb20A849dAa2963c72770C1372
  underlyingAmount := 1000000000000000000
  exerciseAsset := toBytes 20 0x8AE0EeedD35DbEFe460Df12A20823eFDe9e03458
  exerciseAmount := 1550000000
  exerciseTimestamp
  expiryTimestamp
  gas := 500000
  gasPrice := 2000 * exp10 8

/-- The loop over the logs: one that does not decode panics, the first `NewOptionType` ends
it, and without one the taker exits. -/
def findOptionId (decodeLog : RawLog → Option SettlementEngineEvents) : List Log → Except Ending U256
  | [] => .error .exited
  | log :: logs =>
    match decodeLog ⟨log.topics, log.data⟩ with
    | none => .error (.panicked .unwrapOnErr)
    | some (.newOptionTypeFilter event) => .ok event.optionId
    | some .other => findOptionId decodeLog logs

def setupOption (settlementContract : Address) (decodeLog : RawLog → Option SettlementEngineEvents)
    (calls : OptionCalls) : Proc Ending NewOptionTypeTx U256 := do
  let _ ← Proc.lift ((unwrapResult calls.getBlockNumber).mapError .panicked)
  let block? ← Proc.lift ((unwrapResult calls.getBlock).mapError .panicked)
  let block ← Proc.lift ((unwrap block?).mapError .panicked)
  let blockTimestamp ← Proc.lift ((asU64 block.timestamp).mapError .panicked)
  let (exerciseTimestamp, expiryTimestamp) ← Proc.lift ((optionDates blockTimestamp).mapError .panicked)
  Proc.emit (newOptionType settlementContract exerciseTimestamp expiryTimestamp)
  let .ok () := calls.sendTransaction | Proc.abort .exited
  let .ok (some transactionReceipt) := calls.pendingTx | Proc.abort .exited
  Proc.lift (findOptionId decodeLog transactionReceipt.logs)

private theorem addU64_ok_iff {a b c : UInt64} : addU64 a b = .ok c ↔ a.toNat + b.toNat = c.toNat := by
  rw [addU64]
  split
  · rename_i h
    rw [Except.ok.injEq, ← UInt64.toNat_inj, UInt64.toNat_add, Nat.mod_eq_of_lt h]
  · rename_i h
    have hlt := c.toNat_lt
    simp only [reduceCtorEq, false_iff]
    omega

private theorem asU64_ok_iff {a : U256} {n : UInt64} : asU64 a = .ok n ↔ a.toNat = n.toNat := by
  rw [asU64]
  split
  · rename_i h
    rw [Except.ok.injEq, ← UInt64.toNat_inj, UInt64.toNat_ofNat_of_lt' h]
  · rename_i h
    have hlt := n.toNat_lt
    simp only [reduceCtorEq, false_iff]
    omega

/-- The dates are a day and a half hour, and two days and a half hour, after the block. -/
theorem optionDates_ok_iff {blockTimestamp exerciseTimestamp expiryTimestamp : UInt64} :
    optionDates blockTimestamp = .ok (exerciseTimestamp, expiryTimestamp) ↔
      exerciseTimestamp.toNat = blockTimestamp.toNat + 88200 ∧
        expiryTimestamp.toNat = blockTimestamp.toNat + 174600 := by
  have hday : secondsInADay.toNat = 86400 := rfl
  have hminutes : secondsInThirtyMinutes.toNat = 1800 := rfl
  simp only [optionDates, bind_returns_iff, addU64_ok_iff, hday, hminutes, pure, Except.pure, Except.ok.injEq,
    Prod.mk.injEq]
  constructor
  · rintro ⟨day, hd, exercise, he, expiry, hx, rfl, rfl⟩
    omega
  · rintro ⟨he, hx⟩
    have hlt := expiryTimestamp.toNat_lt
    have hsize : UInt64.size = 2^64 := rfl
    have hday : (UInt64.ofNat (blockTimestamp.toNat + 86400)).toNat = blockTimestamp.toNat + 86400 :=
      UInt64.toNat_ofNat_of_lt' (by omega)
    exact ⟨_, hday.symm, exerciseTimestamp, by omega, expiryTimestamp, by omega, rfl, rfl⟩

variable {decodeLog : RawLog → Option SettlementEngineEvents}

/-- The id is that of the first `NewOptionType`, and every log before it has to decode. -/
theorem findOptionId_ok_iff {logs : List Log} {optionId : U256} :
    findOptionId decodeLog logs = .ok optionId ↔
      ∃ before log after, logs = before ++ log :: after ∧
        (∀ l ∈ before, decodeLog ⟨l.topics, l.data⟩ = some .other) ∧
        decodeLog ⟨log.topics, log.data⟩ = some (.newOptionTypeFilter ⟨optionId⟩) := by
  induction logs with
  | nil => simp [findOptionId]
  | cons log logs ih =>
    rw [findOptionId]
    constructor
    · intro h
      cases hd : decodeLog ⟨log.topics, log.data⟩ with
      | none => simp [hd] at h
      | some event =>
        cases event with
        | newOptionTypeFilter event =>
          simp only [hd, Except.ok.injEq] at h
          exact ⟨[], log, logs, rfl, by simp, by rw [hd, ← h]⟩
        | other =>
          simp only [hd] at h
          obtain ⟨before, log', after, rfl, hbefore, hlog⟩ := ih.mp h
          refine ⟨log :: before, log', after, rfl, fun l hl => ?_, hlog⟩
          rcases List.mem_cons.mp hl with rfl | hl
          · exact hd
          · exact hbefore l hl
    · rintro ⟨before, log', after, hlogs, hbefore, hlog⟩
      cases before with
      | nil =>
        cases hlogs
        rw [hlog]
      | cons l before =>
        obtain ⟨rfl, rfl⟩ := List.cons.inj hlogs
        rw [hbefore log (by simp)]
        exact ih.mpr ⟨before, log', after, rfl, fun l hl => hbefore l (by simp [hl]), hlog⟩

/-- An option type that can be exercised a day and a half hour after the last block, and
that expires a day later. -/
structure Dated (settlementContract : Address) (calls : OptionCalls) (tx : NewOptionTypeTx) : Prop where
  dates : ∃ block, calls.getBlock = .ok (some block) ∧
    tx.exerciseTimestamp.toNat = block.timestamp.toNat + 88200 ∧
    tx.expiryTimestamp.toNat = block.timestamp.toNat + 174600
  tx : tx = newOptionType settlementContract tx.exerciseTimestamp tx.expiryTimestamp

/-- What the option is created with, and where its id comes from. -/
structure Creates (settlementContract : Address) (decodeLog : RawLog → Option SettlementEngineEvents)
    (calls : OptionCalls) (tx : NewOptionTypeTx) (optionId : U256) : Prop
    extends Dated settlementContract calls tx where
  getBlockNumber : ∃ number, calls.getBlockNumber = .ok number
  sendTransaction : calls.sendTransaction = .ok ()
  receipt : ∃ receipt before log after, calls.pendingTx = .ok (some receipt) ∧
    receipt.logs = before ++ log :: after ∧
    (∀ l ∈ before, decodeLog ⟨l.topics, l.data⟩ = some .other) ∧
    decodeLog ⟨log.topics, log.data⟩ = some (.newOptionTypeFilter ⟨optionId⟩)

variable {settlementContract : Address} {calls : OptionCalls}

private theorem dated_of_ok {block : Block} {timestamp exerciseTimestamp expiryTimestamp : UInt64}
    (hblock : calls.getBlock = .ok (some block)) (hts : asU64 block.timestamp = .ok timestamp)
    (hdates : optionDates timestamp = .ok (exerciseTimestamp, expiryTimestamp)) :
    Dated settlementContract calls (newOptionType settlementContract exerciseTimestamp expiryTimestamp) := by
  obtain ⟨hexercise, hexpiry⟩ := optionDates_ok_iff.mp hdates
  rw [← asU64_ok_iff.mp hts] at hexercise hexpiry
  exact ⟨⟨block, hblock, hexercise, hexpiry⟩, rfl⟩

/-- One transaction at most is sent, and the option type it creates is returned. -/
theorem setupOption_obeys (settlementContract : Address) (decodeLog : RawLog → Option SettlementEngineEvents)
    (calls : OptionCalls) :
    Obeys (fun before tx => before = [] ∧ Dated settlementContract calls tx) []
      (setupOption settlementContract decodeLog calls)
      fun optionId log => ∃ tx, Creates settlementContract decodeLog calls tx optionId ∧ log = [tx] := by
  rw [setupOption]
  refine obeys_bind (obeys_lift fun number hnumber => ?_)
  refine obeys_bind (obeys_lift fun block? hblock => ?_)
  refine obeys_bind (obeys_lift fun block hsome => ?_)
  refine obeys_bind (obeys_lift fun timestamp hts => ?_)
  refine obeys_bind (obeys_lift fun dates hdates => ?_)
  obtain ⟨exerciseTimestamp, expiryTimestamp⟩ := dates
  simp only [mapError_ok_iff, unwrapResult_ok_iff, unwrap_ok_iff] at hnumber hblock hsome hts hdates
  rw [hsome] at hblock
  have hdated := @dated_of_ok settlementContract calls block _ _ _ hblock hts hdates
  refine obeys_bind (obeys_emit ⟨rfl, hdated⟩ ?_)
  cases hsend : calls.sendTransaction with
  | error e => exact obeys_abort _
  | ok u =>
    cases hpending : calls.pendingTx with
    | error e => exact obeys_abort _
    | ok receipt? =>
      cases receipt? with
      | none => exact obeys_abort _
      | some receipt =>
        refine obeys_lift fun optionId hid => ?_
        obtain ⟨before, log, after, hlogs⟩ := findOptionId_ok_iff.mp hid
        exact ⟨_, ⟨hdated, ⟨number, hnumber⟩, hsend, receipt, before, log, after, hpending, hlogs⟩, rfl⟩

private theorem dates_of_creates {tx : NewOptionTypeTx} {optionId : U256}
    (h : Creates settlementContract decodeLog calls tx optionId) :
    ∃ number block timestamp, calls.getBlockNumber = .ok number ∧ calls.getBlock = .ok (some block) ∧
      asU64 block.timestamp = .ok timestamp ∧
      optionDates timestamp = .ok (tx.exerciseTimestamp, tx.expiryTimestamp) := by
  obtain ⟨number, hnumber⟩ := h.getBlockNumber
  obtain ⟨block, hblock, hexercise, hexpiry⟩ := h.dates
  have hlt := tx.expiryTimestamp.toNat_lt
  have hsize : UInt64.size = 2^64 := rfl
  have hts : (UInt64.ofNat block.timestamp.toNat).toNat = block.timestamp.toNat :=
    UInt64.toNat_ofNat_of_lt' (by omega)
  exact ⟨number, block, _, hnumber, hblock, asU64_ok_iff.mpr hts.symm,
    optionDates_ok_iff.mpr ⟨by rw [hts]; exact hexercise, by rw [hts]; exact hexpiry⟩⟩

/-- An option type is created when the block can be read and its dates fit, the transaction
goes through, and its logs decode up to the first `NewOptionType`, which names the id. -/
theorem setupOption_returns_iff {optionId : U256} :
    (setupOption settlementContract decodeLog calls).outcome = .ok optionId ↔
      ∃ tx, Creates settlementContract decodeLog calls tx optionId := by
  constructor
  · intro h
    obtain ⟨tx, hcreates, _⟩ := (setupOption_obeys settlementContract decodeLog calls).returns optionId h
    exact ⟨tx, hcreates⟩
  · intro ⟨tx, h⟩
    obtain ⟨number, block, timestamp, hnumber, hblock, hts, hdates⟩ := dates_of_creates h
    obtain ⟨receipt, before, log, after, hpending, hlogs⟩ := h.receipt
    have hid : findOptionId decodeLog receipt.logs = .ok optionId :=
      findOptionId_ok_iff.mpr ⟨before, log, after, hlogs⟩
    rw [setupOption, hnumber, hblock, h.sendTransaction, hpending]
    rw [unwrapResult, Proc.lift_mapError_ok_bind, unwrapResult, Proc.lift_mapError_ok_bind, unwrap_some,
      Proc.lift_mapError_ok_bind, hts, Proc.lift_mapError_ok_bind, hdates, Proc.lift_mapError_ok_bind]
    exact hid

end TradeInterfaces.Taker
