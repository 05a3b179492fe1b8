import TradeInterfaces.Taker.Conduct
import TradeInterfaces.Taker.Program

/-! The order in which the taker's process does things, from its connection to the last
order: nothing of a maker is asked for before there is a session and an option type. -/
namespace TradeInterfaces.Taker
open Foundations.BigEndian Foundations.Panics Foundations.Effects Foundations.Protocols Ethers
open Session (Opens SessionInterceptor signIn signInMessage)
open Seaport (seaportContractAddress)

/-- What is sent for the allowances, when the settings ask for it. -/
def approvalTxs (configuration : Configuration) : List Approvals.Tx :=
  if configuration.approveTokens then testApprovals configuration.settlementContract else []

/-- The allowances and the two streams, which carry the session. -/
def streamsOpened (configuration : Configuration) (request : Session.Request) : List ProcessEvent :=
  (approvalTxs configuration).map .approve ++ [.openRfq request, .openSoftQuote request]

/-- A session that is opened, with the connections of the two streams. -/
inductive Opened (configuration : Configuration) (course : Course) (request : Session.Request) :
    List ProcessEvent → Prop
  | opened {cookie nonce : String} {chainId : UInt64}
      (h : Opens configuration.library configuration.tlsConfig course.setup cookie nonce chainId request) :
      Opened configuration course request
        ((signIn configuration.library configuration.wallet
          (signInMessage configuration.wallet.address chainId nonce course.setup.now) request ++
            [Session.Event.connect, Session.Event.connect]).map .session)

/-- All that is done before the loops, with the option type that is created last. -/
inductive Ready (configuration : Configuration) (course : Course) (optionId : U256) : List ProcessEvent → Prop
  | ready {request : Session.Request} {opened : List ProcessEvent} {tx : NewOptionTypeTx}
      (h : Opened configuration course request opened)
      (created : Creates configuration.settlementContract configuration.decodeLog course.option tx optionId) :
      Ready configuration course optionId (opened ++ streamsOpened configuration request ++ [.newOptionType tx])

/-- The quotes asked for, each for the option that was created. -/
def quotes (settings : Settings) (n : Nat) : List ProcessEvent := List.replicate n (.requestQuote (buyRfq settings))

/-- A quote with an order whose price can be read. -/
def SoftTurn.Liked (turn : SoftTurn) : Prop :=
  ∃ response order offer, turn.message = .ok (some response) ∧ response.order = some order ∧
    receivedOffer order = .ok offer

/-- What the process has done before each thing it does. -/
inductive Conduct (configuration : Configuration) (course : Course) : List ProcessEvent → ProcessEvent → Prop
  | session {before : List Session.Event} {event : Session.Event} :
      Conduct configuration course (before.map .session) (.session event)
  | stream {request : Session.Request} {opened part rest : List ProcessEvent} {event : ProcessEvent}
      (h : Opened configuration course request opened)
      (hpart : streamsOpened configuration request = part ++ event :: rest) :
      Conduct configuration course (opened ++ part) event
  | create {request : Session.Request} {opened : List ProcessEvent} {tx : NewOptionTypeTx}
      (h : Opened configuration course request opened)
      (dated : Dated configuration.settlementContract course.option tx) :
      Conduct configuration course (opened ++ streamsOpened configuration request) (.newOptionType tx)
  | quote {optionId : U256} {ready : List ProcessEvent} (h : Ready configuration course optionId ready) (n : Nat) :
      Conduct configuration course (ready ++ quotes (configuration.settings optionId) n)
        (.requestQuote (buyRfq (configuration.settings optionId)))
  | trade {optionId : U256} {ready : List ProcessEvent} {turn : SoftTurn} {before : List Event} {event : Event}
      (h : Ready configuration course optionId ready) (n : Nat) (hturn : turn ∈ course.softTurns) (liked : turn.Liked)
      (trades : Trades (configuration.settings optionId) course.chain before event) :
      Conduct configuration course
        (ready ++ quotes (configuration.settings optionId) (n + 1) ++ before.map .loop) (.loop event)

section
variable {configuration : Configuration} {course : Course} {log : List ProcessEvent}

/-! The two loops. -/

/-- The quotes of the soft-quote loop, which is left with a quote that is liked. -/
theorem softRun_requests (settings : Settings) (turns : List SoftTurn) :
    ∃ n, (softRun settings turns).requests = List.replicate (n + 1) (buyRfq settings) ∧
      ((softRun settings turns).status = .liked → ∃ turn ∈ turns, turn.Liked) := by
  induction turns using List.reverseRecOn with
  | nil => exact ⟨0, rfl, fun h => by cases h⟩
  | append_singleton before turn ih =>
    obtain ⟨n, hreq, hliked⟩ := ih
    have hstep : softRun settings (before ++ [turn]) = softStep settings (softRun settings before) turn :=
      Foundations.Runs.run_snoc _ _ _ _
    have hearlier (h : (softRun settings before).status = .liked) : ∃ t ∈ before ++ [turn], t.Liked := by
      obtain ⟨t, ht, hl⟩ := hliked h
      exact ⟨t, List.mem_append_left _ ht, hl⟩
    rw [hstep]
    by_cases hs : (softRun settings before).status = .asking
    swap
    · rw [softStep, if_neg hs]
      exact ⟨n, hreq, hearlier⟩
    rw [softStep, if_pos hs]
    rcases readSoftQuote_cases settings turn with
      ⟨_, _, _, _, h⟩ | ⟨response, order, offer, hm, ho, hr, h⟩ | ⟨panic, h⟩
    · rw [h]
      refine ⟨n + 1, ?_, fun hl => (by cases hl)⟩
      rw [hreq]
      exact List.replicate_succ'.symm
    · rw [h]
      refine ⟨n, (List.append_nil _).trans hreq, fun _ => ⟨turn, by simp, response, order, offer, hm, ho, hr⟩⟩
    · rw [h]
      exact ⟨n, (List.append_nil _).trans hreq, fun hl => (by cases hl)⟩

private theorem follows_quotes {optionId : U256} {ready : List ProcessEvent}
    (h : Ready configuration course optionId ready)
    (n : Nat) : Follows (fun before e => Conduct configuration course (ready ++ before) e)
      (quotes (configuration.settings optionId) n) := by
  induction n with
  | zero => exact follows_nil
  | succ n ih =>
    rw [quotes, List.replicate_succ']
    exact ih.snoc (.quote h n)

private theorem follows_trade {optionId : U256} {ready : List ProcessEvent}
    (h : Ready configuration course optionId ready) :
    Follows (fun before e => Conduct configuration course (ready ++ before) e)
      (trade (configuration.settings optionId) course).events := by
  obtain ⟨n, hreq, hliked⟩ := softRun_requests (configuration.settings optionId) course.softTurns
  have hquotes := follows_quotes h (n + 1)
  have hmap : (softRun (configuration.settings optionId) course.softTurns).requests.map ProcessEvent.requestQuote =
      quotes (configuration.settings optionId) (n + 1) := by
    rw [hreq, List.map_replicate, quotes]
  rw [trade]
  split
  swap
  · exact follows_nil
  dsimp only
  rw [hmap]
  cases hs : (softRun (configuration.settings optionId) course.softTurns).status with
  | asking => exact hquotes
  | panicked panic => exact hquotes
  | liked =>
    obtain ⟨turn, hturn, hl⟩ := hliked hs
    have hloop : Follows (fun before e => Conduct configuration course
        (ready ++ (quotes (configuration.settings optionId) (n + 1) ++ before)) e)
        ((run (configuration.settings optionId) course.chain course.turns).events.map .loop) := by
      refine Follows.map ?_
      refine (run_logged (configuration.settings optionId) course.chain course.turns).follows.imp fun before e he => ?_
      rw [← List.append_assoc]
      exact .trade h n hturn hl he
    dsimp only
    split
    · split
      · exact hquotes.append hloop
      · exact hquotes.append hloop
    · exact hquotes

/-! The way to the loops. -/

private theorem conduct_session (events before : List Session.Event) (event : Session.Event) :
    Conduct configuration course (events.map .session ++ before.map .session) (.session event) := by
  rw [← List.map_append]
  exact .session

private theorem channel_obeys (events : List Session.Event) (connect : Except String Unit) :
    Obeys (Conduct configuration course) (events.map .session)
      ((Session.channel configuration.tlsConfig connect).relabel .session)
      fun _ log => log = (events ++ [Session.Event.connect]).map .session := by
  refine obeys_relabel ?_
  rw [Session.channel]
  refine obeys_bind (obeys_lift fun _ _ => ?_)
  refine obeys_bind (obeys_emit (conduct_session _ _ _) ?_)
  exact obeys_lift fun _ _ => List.map_append.symm

private theorem openStream_obeys {cookie : String} {request : Session.Request}
    {event : Session.Request → ProcessEvent}
    {stream : Except String Unit} (hcall : SessionInterceptor.call configuration.library ⟨cookie⟩ ⟨[]⟩ = .ok request)
    (h : Conduct configuration course log (event request)) :
    Obeys (Conduct configuration course) log (openStream configuration.library cookie event stream)
      fun _ log' => log' = log ++ [event request] := by
  rw [openStream]
  refine obeys_bind (obeys_lift fun request' hrequest => ?_)
  have hsame : request' = request := by simpa [hcall, Except.mapError] using hrequest.symm
  rw [hsame]
  exact obeys_bind (obeys_emit h (obeys_lift fun _ _ => rfl))

section
variable {request : Session.Request} {opened : List ProcessEvent} (h : Opened configuration course request opened)
include h

private theorem approve_obeys : Obeys (Conduct configuration course) opened
    (((if configuration.approveTokens then approveTestTokens configuration.settlementContract course.approvals
      else pure ()).relabel .approve).mapError .panicked : ProcessTask Unit)
    fun _ log => log = opened ++ (approvalTxs configuration).map .approve := by
  have happrovals : Follows (fun before tx =>
      Conduct configuration course (opened ++ before.map .approve) (.approve tx)) (approvalTxs configuration) := by
    intro before tx after htxs
    have hpart : streamsOpened configuration request = before.map .approve ++
        .approve tx :: (after.map .approve ++ [.openRfq request, .openSoftQuote request]) := by
      rw [streamsOpened, htxs, List.map_append, List.map_cons, List.append_assoc]
      rfl
    exact .stream h hpart
  refine obeys_mapError (obeys_relabel ?_)
  unfold approvalTxs at happrovals ⊢
  split
  · rename_i happrove
    rw [if_pos happrove] at happrovals
    refine (Approvals.sendAll_obeys happrovals _).imp fun _ part hpart => ?_
    rw [hpart]
  · exact obeys_pure rfl

end

private theorem openStreams_obeys {cookie nonce : String} {chainId : UInt64} {request : Session.Request}
    (h : Opens configuration.library configuration.tlsConfig course.setup cookie nonce chainId request) :
    Obeys (Conduct configuration course)
      ((signIn configuration.library configuration.wallet
        (signInMessage configuration.wallet.address chainId nonce course.setup.now) request).map .session)
      (openStreams configuration course cookie)
      fun _ log => ∃ opened, Opened configuration course request opened ∧
        log = opened ++ streamsOpened configuration request := by
  have hopened : Opened configuration course request _ := .opened h
  rw [openStreams]
  refine obeys_bind ((channel_obeys _ _).imp fun _ log hlog => ?_)
  rw [hlog]
  refine obeys_bind ((channel_obeys _ _).imp fun _ log hlog => ?_)
  rw [hlog, List.append_assoc]
  refine obeys_bind (obeys_lift fun _ _ => ?_)
  refine obeys_bind ((approve_obeys hopened).imp fun _ log hlog => ?_)
  rw [hlog]
  have hrfq : streamsOpened configuration request =
      (approvalTxs configuration).map .approve ++ .openRfq request :: [.openSoftQuote request] := rfl
  have hquote : streamsOpened configuration request =
      ((approvalTxs configuration).map .approve ++ [.openRfq request]) ++ .openSoftQuote request :: [] := by
    rw [hrfq, List.append_cons]
  refine obeys_bind ((openStream_obeys h.request (.stream hopened hrfq)).imp fun _ log hlog => ?_)
  rw [hlog, List.append_assoc]
  refine (openStream_obeys h.request (.stream hopened hquote)).imp fun _ log hlog => ?_
  refine ⟨_, hopened, ?_⟩
  rw [hlog, hquote, List.append_assoc]

private theorem prepare_obeys (configuration : Configuration) (course : Course) :
    Obeys (Conduct configuration course) [] (prepare configuration course) (Ready configuration course) := by
  rw [prepare]
  refine obeys_bind (obeys_relabel ⟨fun before event _ _ => .session, fun cookie hcookie => ?_⟩)
  obtain ⟨nonce, chainId, request, hopens, hevents⟩ := Session.setupValoremConnection_opened hcookie
  rw [List.nil_append, List.nil_append, hevents]
  refine obeys_bind ((openStreams_obeys hopens).imp fun _ log hlog => ?_)
  obtain ⟨opened, hopened, rfl⟩ := hlog
  refine obeys_relabel ?_
  have hcreate := setupOption_obeys configuration.settlementContract configuration.decodeLog course.option
  refine ⟨hcreate.follows.imp fun before tx hbefore => ?_, fun optionId hid => ?_⟩
  · obtain ⟨rfl, hdated⟩ := hbefore
    rw [List.nil_append, List.map_nil, List.append_nil]
    exact .create hopened hdated
  · obtain ⟨tx, hcreates, hlog⟩ := hcreate.returns optionId hid
    rw [hlog]
    exact .ready hopened hcreates

/-- Everything the taker does comes where it belongs: a maker is asked for nothing but the
option type that was created in this session, nothing is bought without a quote, and only
what was bought is offered back, right after it was bought. -/
theorem main_conduct (configuration : Configuration) (course : Course) :
    Follows (Conduct configuration course) (main configuration course).events := by
  have hprepare := prepare_obeys configuration course
  rw [main]
  split
  · exact follows_nil
  cases hp : (prepare configuration course).outcome with
  | error ending =>
    simp only [hp]
    exact hprepare.follows
  | ok optionId =>
    simp only [hp]
    have hready := hprepare.returns optionId hp
    exact hprepare.follows.append (follows_trade hready)

end

end TradeInterfaces.Taker
