import TradeInterfaces.Maker.Restarts
import TradeInterfaces.Market.Ordering
import TradeInterfaces.Taker.Process

/-! Every schedule of the market is run by the two processes: the maker's over its restarts,
and the taker's from one loop to the next. -/
namespace TradeInterfaces.Market
open Foundations.BigEndian Foundations.Panics Foundations.Effects Foundations.Exchanges Ethers
open Maker (MarketMaker)
open Taker (Settings Chain softRun)

/-! The taker's process. -/

/-- The RFQ loop is entered as soon as a quote is liked. -/
def Session.phase (s : Session) : Taker.Phase :=
  match s.rfqs with
  | none =>
    match s.softQuotes.status with
    | .asking => .quoting
    | .liked => .trading
    | .panicked panic => .ended (.panicked panic)
  | some t =>
    match t.status with
    | .running => .trading
    | .exited exit => .exited exit

/-- The log of both loops. -/
def Session.events (s : Session) : List Taker.ProcessEvent :=
  s.softQuotes.requests.map .requestQuote ++ s.rfqs.elim [] fun t => t.events.map .loop

def softQuote? (turn : Taker.SoftTurn) : Option Grpc.SoftQuoteResponse :=
  match turn.message with
  | .ok (some response) => some response
  | _ => none

/-- What the two loops read. -/
def responses (softTurns : List Taker.SoftTurn) (turns : List Taker.Turn) : List Response :=
  (softTurns.filterMap softQuote?).map .softQuote ++ (turns.filterMap Taker.Turn.response?).map .rfq

section
variable (settings : Settings) (chain : Chain)

/-- A session is what the loops make of their turns. `unsent` is the Buy that the channel
did not take. -/
inductive Plays : Session → List Response → Prop
  | quoting {softTurns : List Taker.SoftTurn} (h : (softRun settings softTurns).status ≠ .liked) :
      Plays ⟨softRun settings softTurns, none⟩ (responses softTurns [])
  | unsent {softTurns : List Taker.SoftTurn} (h : (softRun settings softTurns).status = .liked) :
      Plays ⟨{ softRun settings softTurns with status := .panicked .unwrapOnErr }, none⟩ (responses softTurns [])
  | trading {softTurns : List Taker.SoftTurn} (h : (softRun settings softTurns).status = .liked)
      (turns : List Taker.Turn) :
      Plays ⟨softRun settings softTurns, some (Taker.run settings chain turns)⟩ (responses softTurns turns)

variable {settings chain} {s s' : Session} {log : List Response}

private theorem softRun_snoc (softTurns : List Taker.SoftTurn) (turn : Taker.SoftTurn) :
    softRun settings (softTurns ++ [turn]) = Taker.softStep settings (softRun settings softTurns) turn :=
  Foundations.Runs.run_snoc _ _ _ _

private theorem takerRun_snoc (turns : List Taker.Turn) (turn : Taker.Turn) :
    Taker.run settings chain (turns ++ [turn]) = Taker.step settings chain (Taker.run settings chain turns) turn :=
  Foundations.Runs.run_snoc _ _ _ _

theorem Plays.read (h : Plays settings chain s log) {calls : TakerCalls} {response : Response}
    {sent : List Request} (hr : Market.read settings chain s calls response = some (s', sent)) :
    Plays settings chain s' (log ++ [response]) := by
  rcases read_cases settings chain hr with ⟨quote, rfl, hrfqs, hasking, hq⟩ | ⟨offer, t, rfl, hrfqs, _, t', ho, rfl⟩
  · cases h with
    | trading _ _ => cases hrfqs
    | unsent _ => cases hasking
    | @quoting softTurns _ =>
      have hread : responses softTurns [] ++ [.softQuote quote] =
          responses (softTurns ++ [⟨.ok (some quote), calls.channelOpen⟩]) [] := by
        simp [responses, softQuote?]
      rw [hread]
      unfold readQuote at hq
      dsimp only at hq
      rw [← softRun_snoc] at hq
      split at hq
      · rename_i hliked
        split at hq
        · cases hq
          exact .trading hliked []
        · cases hq
          exact .unsent hliked
      · rename_i hliked
        cases hq
        exact .quoting hliked
  · cases h with
    | quoting _ => cases hrfqs
    | unsent _ => cases hrfqs
    | @trading softTurns hliked turns =>
      cases hrfqs
      have hread : responses softTurns turns ++ [.rfq offer] =
          responses softTurns (turns ++ [calls.turn (.ok (some offer))]) := by
        simp [responses, Taker.Turn.response?, TakerCalls.turn]
      rw [hread]
      cases ho
      rw [← takerRun_snoc]
      exact .trading hliked _

/-- A stream that ends is read as nothing. -/
theorem Plays.breakOff (h : Plays settings chain s log) : Plays settings chain (breakOff settings chain s) log := by
  cases h with
  | @quoting softTurns h =>
    have hread : responses softTurns [] = responses (softTurns ++ [⟨.ok none, true⟩]) [] := by
      simp [responses, softQuote?]
    have hstep : (softRun settings (softTurns ++ [⟨.ok none, true⟩])).status ≠ .liked := by
      rw [softRun_snoc, Taker.softStep]
      split
      · simp [Taker.readSoftQuote, Proc.abort]
      · exact h
    rw [hread, Market.breakOff]
    dsimp only
    rw [← softRun_snoc]
    exact .quoting hstep
  | unsent h => exact .unsent h
  | @trading softTurns h turns =>
    have hread : responses softTurns turns = responses softTurns
        (turns ++ [⟨.ok none, .ok (), .succeeded, .ok (), .ok (), true⟩]) := by
      simp [responses, Taker.Turn.response?]
    rw [hread, Market.breakOff]
    dsimp only
    rw [← takerRun_snoc]
    exact .trading h _

/-- The loops of the process end where the session does. -/
theorem Plays.trade (h : Plays settings chain s log) (course : Taker.Course) (hchain : course.chain = chain) :
    ∃ softTurns rfqChannelOpen turns, responses softTurns turns = log ∧
      Taker.trade settings { course with quoteChannelOpen := true, softTurns, rfqChannelOpen, turns } =
        ⟨s.phase, s.events⟩ := by
  subst hchain
  cases h with
  | @quoting softTurns h =>
    refine ⟨softTurns, true, [], rfl, ?_⟩
    simp only [Taker.trade, if_true, Session.phase, Session.events, Option.elim_none, List.append_nil]
    cases hs : (softRun settings softTurns).status with
    | asking => rfl
    | liked => exact absurd hs h
    | panicked panic => rfl
  | @unsent softTurns h =>
    refine ⟨softTurns, false, [], rfl, ?_⟩
    simp [Taker.trade, h, Session.phase, Session.events]
  | @trading softTurns h turns =>
    refine ⟨softTurns, true, turns, rfl, ?_⟩
    simp only [Taker.trade, if_true, h, Session.phase, Session.events, Option.elim_some]
    cases (Taker.run settings course.chain turns).status with
    | running => rfl
    | exited exit => rfl

end

/-! The maker's process. -/

/-- Connections that only differ in the turns of their loops. -/
def visit (connection : Maker.Connection) (turns : List Maker.Turn) : Maker.Connection := { connection with turns }

/-- A loop after all that was read and done before it. -/
def after (p : Maker.ProcessState) (s : Maker.State) : Maker.State where
  status := s.status
  consumed := p.consumed ++ s.consumed
  events := p.loopEvents ++ s.events

def servingPhase : Maker.Status → Maker.Phase
  | .running => .serving
  | .returned => .reconnecting
  | .panicked panic => .panicked panic

section
variable (m : Maker.Settings) (connection : Maker.Connection)

/-- The maker of the market is in the last of its loops, which it came to by restarts. -/
inductive Visits : List (List Maker.Turn) → Maker.State → Prop
  | visiting {before : List (List Maker.Turn)} (last : List Maker.Turn)
      (h : (Maker.main m (before.map (visit connection))).phase = .reconnecting) :
      Visits (before ++ [last])
        (after (Maker.main m (before.map (visit connection))) (Maker.run m.maker last))

variable {m connection} {visits : List (List Maker.Turn)} {s : Maker.State}

private theorem step_after (maker : MarketMaker) (p : Maker.ProcessState) (s : Maker.State)
    (turn : Maker.Turn) :
    Maker.step maker (after p s) turn = after p (Maker.step maker s turn) := by
  by_cases hs : s.status = .running
  · simp only [Maker.step, after, if_pos hs, List.append_assoc]
  · have ha : (after p s).status ≠ .running := hs
    rw [Maker.step, if_neg ha, Maker.step, if_neg hs]

theorem Visits.turn (h : Visits m connection visits s) (turn : Maker.Turn) :
    ∃ visits, Visits m connection visits (Maker.step m.maker s turn) := by
  cases h with
  | visiting last h =>
    rw [step_after, ← Maker.run_snoc]
    exact ⟨_, .visiting (last ++ [turn]) h⟩

section
variable (hprovider : connection.provider = .ok ())
  (hopen : (Maker.openStreams m connection).outcome = .ok (some ()))
include hprovider hopen

/-- The process is where its last loop is. -/
theorem Visits.main (h : Visits m connection visits s) :
    let p := Maker.main m (visits.map (visit connection))
    p.phase = servingPhase s.status ∧ p.consumed = s.consumed ∧ p.loopEvents = s.events := by
  intro p
  cases h with
  | @visiting before last h =>
    have hmain : p = Maker.mainStep m (Maker.main m (before.map (visit connection))) (visit connection last) := by
      simp only [p, List.map_append, List.map_singleton]
      exact Foundations.Runs.run_snoc _ _ _ _
    have hopened : (Maker.openStreams m (visit connection last)).outcome = .ok (some ()) := hopen
    have hlog := Maker.openStreams_loopEvents m (visit connection last)
    have hsleep : [Maker.ProcessEvent.sleep 10].filterMap Maker.ProcessEvent.loop? = [] := rfl
    rw [hmain, Maker.mainStep, if_pos h, Maker.serveConnection, show (visit connection last).provider = _ from hprovider]
    simp only [hopened, show (visit connection last).turns = last from rfl, after, Maker.ProcessState.loopEvents]
    have hevents := Maker.filterMap_map_loop (Maker.run m.maker last).events
    cases (Maker.run m.maker last).status with
    | running => simp only [servingPhase, List.filterMap_append, hlog, hevents, List.nil_append, and_self]
    | returned =>
      simp only [servingPhase, List.filterMap_append, hlog, hevents, hsleep, List.nil_append, List.append_nil, and_self]
    | panicked panic => simp only [servingPhase, List.filterMap_append, hlog, hevents, List.nil_append, and_self]

theorem Visits.reconnect (h : Visits m connection visits s) (hs : s.status = .returned) :
    Visits m connection (visits ++ [[]]) { s with status := .running } := by
  obtain ⟨hphase, hconsumed, hevents⟩ := h.main hprovider hopen
  rw [hs] at hphase
  have hnext := Visits.visiting [] hphase
  have hafter : after (Maker.main m (visits.map (visit connection))) (Maker.run m.maker []) =
      { s with status := .running } := by
    simp only [after, hconsumed, hevents]
    simp [Maker.run, Maker.State.initial]
  rwa [hafter] at hnext

theorem Visits.attend (h : Visits m connection visits s) (other : Elsewhere) :
    ∃ visits, Visits m connection visits (attend m.maker s other) := by
  cases other with
  | turn turn => exact h.turn turn
  | reconnect =>
    unfold Market.attend
    dsimp only
    split
    · rename_i hs
      exact ⟨_, h.reconnect hprovider hopen hs⟩
    · exact ⟨_, h⟩

end

theorem Visits.serve (h : Visits m connection visits s) {s' : Maker.State} {calls : MakerCalls} {request : Request}
    {sent : List Response} (hs : Market.serve m.maker s calls request = some (s', sent)) :
    ∃ visits, Visits m connection visits s' := by
  unfold Market.serve at hs
  split at hs
  · cases hs
    exact h.turn _
  · cases hs

end

/-! Both processes together. -/

/-- Whatever the network does, maker and taker are where their processes are after some
connections and turns: what each of them read, did and ended in is the same. -/
theorem run_processes (m : Maker.Settings) (connection : Maker.Connection) (configuration : Taker.Configuration)
    (course : Taker.Course) (optionId : U256) (schedule : Schedule) (hprovider : connection.provider = .ok ())
    (hopen : (Maker.openStreams m connection).outcome = .ok (some ())) (hnode : course.provider = .ok ())
    (hprepare : (Taker.prepare configuration course).outcome = .ok optionId) :
    let settings := configuration.settings optionId
    let n := run m.maker settings course.chain schedule
    (∃ visits : List (List Maker.Turn), let p := Maker.main m (visits.map (visit connection))
      p.phase = servingPhase n.server.status ∧ p.consumed = n.server.consumed ∧ p.loopEvents = n.server.events) ∧
    ∃ softTurns rfqChannelOpen turns,
      responses softTurns turns = (traffic (parties m.maker settings course.chain) (initial settings) schedule).read ∧
      Taker.main configuration { course with quoteChannelOpen := true, softTurns, rfqChannelOpen, turns } =
        ⟨n.client.phase, (Taker.prepare configuration course).events ++ n.client.events⟩ := by
  intro settings n
  constructor
  · have hinitial : Visits m connection [[]] Maker.State.initial := @Visits.visiting m connection [] [] rfl
    have hvisits : ∃ visits, Visits m connection visits n.server := by
      refine @run_server _ _ _ _ _ _ _ (parties m.maker settings course.chain) (initial settings) schedule
        (fun s _ _ => ∃ visits, Visits m connection visits s) ?_ ?_ ⟨_, hinitial⟩
      · exact fun ⟨_, h⟩ hs => h.serve hs
      · exact fun ⟨_, h⟩ => h.attend hprovider hopen _
    obtain ⟨visits, hvisits⟩ := hvisits
    exact ⟨visits, hvisits.main hprovider hopen⟩
  · have hplays := @run_client _ _ _ _ _ _ _ (parties m.maker settings course.chain) (initial settings) schedule
      (fun s _ log => Plays settings course.chain s log) (fun h hr => h.read hr) (fun h => h.breakOff)
      (@Plays.quoting settings course.chain [] (by simp [softRun, Taker.SoftState.initial]))
    obtain ⟨softTurns, rfqChannelOpen, turns, hread, htrade⟩ := hplays.trade course rfl
    refine ⟨softTurns, rfqChannelOpen, turns, hread, ?_⟩
    have hmain := @Taker.main_of_prepare configuration
      { course with quoteChannelOpen := true, softTurns, rfqChannelOpen, turns } optionId hnode hprepare
    rw [htrade] at hmain
    exact hmain

/-! A concrete taker. It creates the option type that the schedule is about. -/

/-- The texts are those of the one message that is signed. -/
def sampleTakerLibrary : Session.Library := { Maker.sampleLibrary with
  messageString := fun _ =>
    "localhost.com wants you to sign in with your Ethereum account:\n0x0000000000000000000000000000000000000007\n\nI accept the Valorem Terms of Service at https://app.valorem.xyz/tos and Privacy Policy at https://app.valorem.xyz/privacy\n\nURI: http://localhost/\nVersion: 1\nChain ID: 421614\nNonce: kEWepMt9knR6lWJ6A\nIssued At: 2023-11-14T22:13:20Z"
  hashMessage := fun _ => toBytes 32 0x864ce3a96a70760d4ffadc41bbb5edc705d77d59f5257fb80c8229bf1d4af713
  json := fun _ =>
    "\x7b\"message\":\"localhost.com wants you to sign in with your Ethereum account:\\n0x0000000000000000000000000000000000000007\\n\\nI accept the Valorem Terms of Service at https://app.valorem.xyz/tos and Privacy Policy at https://app.valorem.xyz/privacy\\n\\nURI: http://localhost/\\nVersion: 1\\nChain ID: 421614\\nNonce: kEWepMt9knR6lWJ6A\\nIssued At: 2023-11-14T22:13:20Z\",\"signature\":\"000000000000000000000000000000000000000000000000000000000000000100000000000000000000000000000000000000000000000000000000000000021b\"\x7d" }

def newOptionTypeTopic : H256 := toBytes 32 0x4da1232e91e9e12e1fcd6f97817ab15d2d20bdc3596fbfefc47b69ec4bcb3aeb

/-- The event `NewOptionType(uint256,address,address,uint96,uint96,uint40,uint40)`: the id
is the first word of its data. -/
def sampleDecodeOption (log : Maker.RawLog) : Option Taker.SettlementEngineEvents :=
  match log.topics with
  | [topic, _, _, _] =>
    if topic = newOptionTypeTopic then
      some (.newOptionTypeFilter ⟨BitVec.ofNat 256 (value 256 ((log.data.take 32).map (·.toNat)))⟩)
    else none
  | _ => none

def sampleConfiguration : Taker.Configuration where
  wallet := ⟨toBytes 20 7, fun _ => ⟨1, 2, 27⟩⟩
  settlementContract := toBytes 20 11
  tlsConfig := .ok ()
  approveTokens := true
  chainId := 421614
  library := sampleTakerLibrary
  decodeLog := sampleDecodeOption

def sampleOptionLog : Maker.Log where
  address := toBytes 20 11
  topics := [newOptionTypeTopic, toBytes 32 0x8AE0EeedD35DbEFe460Df12A20823eFDe9e03458,
    toBytes 32 0x618b9a2Db0CF23Bb20A849dAa2963c72770C1372, toBytes 32 1700174600]
  data := [42, 1550000000, 1000000000000000000, 1700088200].flatMap fun word : Nat => (toBytes 32 word).toList

def sampleCourse : Taker.Course where
  provider := .ok ()
  setup := Maker.sampleConnection.setup
  rfqConnect := .ok ()
  quoteConnect := .ok ()
  signer := .ok ()
  approvals _ := ⟨.ok (), .ok ()⟩
  rfqStream := .ok ()
  quoteStream := .ok ()
  option := ⟨.ok 1000, .ok (some ⟨1700000000⟩), .ok (), .ok (some ⟨[sampleOptionLog]⟩)⟩
  quoteChannelOpen := true
  softTurns := []
  rfqChannelOpen := true
  chain := Taker.sampleChain
  turns := []

/-- The schedule in which the options are sold back is one of these processes. -/
theorem run_processes_retried : ∃ (visits : List (List Maker.Turn)) (course : Taker.Course),
    (Maker.main Maker.sampleSettings (visits.map (visit Maker.sampleConnection))).phase = .serving ∧
      (Taker.main sampleConfiguration course).phase = .exited .soldBack := by
  obtain ⟨⟨visits, hmaker, _⟩, softTurns, rfqChannelOpen, turns, _, htaker⟩ := run_processes Maker.sampleSettings
    Maker.sampleConnection sampleConfiguration sampleCourse 42 sampleSchedule rfl rfl rfl rfl
  refine ⟨visits, _, hmaker.trans ?_, (congrArg Taker.ProcessState.phase htaker).trans ?_⟩
  · decide +kernel
  · decide +kernel

end TradeInterfaces.Market
