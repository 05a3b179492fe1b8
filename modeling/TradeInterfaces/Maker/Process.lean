import TradeInterfaces.Foundations.Ledgers
import TradeInterfaces.Maker.Program

/-! What holds of the maker's process over all its connections. -/
namespace TradeInterfaces.Maker
open Foundations.BigEndian Foundations.Panics Foundations.Effects Foundations.Ledgers Ethers
open Session (Opens signIn signInMessage)
open Seaport (seaportContractAddress)

/-- What is sent for the allowances, when the settings ask for it. -/
def approvalTxs (settings : Settings) : List Approvals.Tx :=
  if settings.approveTokens then
    Approvals.approvals 900000 (300 * exp10 8) seaportContractAddress settings.maker.settlementEngine
      settings.maker.usdcAddress [settings.maker.usdcAddress, settings.wethAddress, settings.wbtcAddress,
        settings.gmxAddress, settings.magicAddress]
  else []

/-- The allowances and the two streams, which carry the session. -/
def streamsOpened (settings : Settings) (request : Session.Request) : List ProcessEvent :=
  (approvalTxs settings).map .approve ++ [.openSoftQuote request, .openRfq request]

/-- What stops the process before its loop. -/
inductive OpeningPanics (settings : Settings) (connection : Connection) : Prop
  | tlsConfig {e : String} (h : settings.tlsConfig = .error e)
  | chainId {id : U256} (h : connection.setup.getChainid = .ok id) (large : 2^64 ≤ id.toNat)
  | cookie {raw : Session.AsciiMetadataValue} {cookie : String} {panic : Panic}
      (h : settings.library.toStr raw = .ok cookie)
      (hcall : Session.SessionInterceptor.call settings.library ⟨cookie⟩ ⟨[]⟩ = .error panic)
  | approval {n : Nat} (hn : n < (approvalTxs settings).length)
      (fails : ¬((connection.approvals n).sendTransaction = .ok () ∧ (connection.approvals n).pendingTx = .ok ()))

/-- How far a connection gets before its loop: without a session nothing is approved and
no stream is opened. -/
inductive Opening (settings : Settings) (connection : Connection) : Proc Panic ProcessEvent (Option Unit) → Prop
  | unopened {outcome : Except Panic (Option Unit)} {events : List Session.Event} (h : outcome ≠ .ok (some ()))
      (panics : ∀ panic, outcome = .error panic → OpeningPanics settings connection) :
      Opening settings connection ⟨outcome, events.map .session⟩
  | opened {outcome : Except Panic (Option Unit)} {cookie nonce : String} {chainId : UInt64}
      {request : Session.Request} {rest : List ProcessEvent}
      (opens : Opens settings.library settings.tlsConfig connection.setup cookie nonce chainId request)
      (hrest : rest <+: streamsOpened settings request)
      (h : outcome = .ok (some ()) → rest = streamsOpened settings request)
      (panics : ∀ panic, outcome = .error panic → OpeningPanics settings connection) :
      Opening settings connection ⟨outcome,
        (signIn settings.library settings.wallet
          (signInMessage settings.wallet.address chainId nonce connection.setup.now) request).map .session ++
          .session .connect :: rest⟩

variable {settings : Settings} {connection : Connection}

private theorem approve_eq (settings : Settings) (calls : Nat → Approvals.Calls) :
    (if settings.approveTokens then approveTokens settings calls else pure ()) =
      Approvals.sendAll (approvalTxs settings) calls := by
  unfold approvalTxs approveTokens
  split <;> rfl

/-- With a session and its header, the way to the loop. -/
theorem openWith_cases {cookie : String} {request : Session.Request} (htls : settings.tlsConfig = .ok ())
    (hcall : Session.SessionInterceptor.call settings.library ⟨cookie⟩ ⟨[]⟩ = .ok request) :
    openWith settings connection cookie = ⟨.ok none, [.session .connect]⟩ ∨
    ∃ outcome rest, openWith settings connection cookie = ⟨outcome, .session .connect :: rest⟩ ∧
      rest <+: streamsOpened settings request ∧ (outcome = .ok (some ()) → rest = streamsOpened settings request) ∧
      ∀ panic, outcome = .error panic → OpeningPanics settings connection := by
  rw [openWith]
  rw [htls, approve_eq, hcall]
  cases hc : connection.connect with
  | error e => exact .inl rfl
  | ok u =>
    cases hs : connection.signer with
    | error e => exact .inl rfl
    | ok u =>
      refine .inr ?_
      rcases Approvals.sendAll_cases (approvalTxs settings) connection.approvals with h | ⟨n, hn, h, hfail⟩
      · rw [h]
        cases hsoft : connection.softStream with
        | error e =>
          refine ⟨.ok none, (approvalTxs settings).map .approve ++ [.openSoftQuote request], rfl, ?_, by simp, by simp⟩
          exact (List.prefix_append_right_inj _).mpr ⟨[.openRfq request], rfl⟩
        | ok u =>
          cases hrfq : connection.rfqStream with
          | error e => exact ⟨.ok none, streamsOpened settings request, rfl, List.prefix_refl _, by simp, by simp⟩
          | ok u => exact ⟨.ok (some ()), streamsOpened settings request, rfl, List.prefix_refl _, fun _ => rfl, by simp⟩
      · rw [h]
        refine ⟨.error .unwrapOnErr, ((approvalTxs settings).take (n + 1)).map .approve, rfl, ?_, by simp,
          fun _ _ => .approval hn hfail⟩
        exact ((List.take_prefix _ _).map _).trans (List.prefix_append _ _)

theorem openStreams_opening (settings : Settings) (connection : Connection) :
    Opening settings connection (openStreams settings connection) := by
  rw [openStreams]
  cases hs : (Session.setup settings.library settings.wallet settings.tlsConfig connection.setup).outcome with
  | error panic =>
    rw [Proc.bind_of_error ((Proc.outcome_relabel _ _).trans hs)]
    refine .unopened (by simp) fun _ _ => ?_
    cases Session.setup_panics hs with
    | tlsConfig h => exact .tlsConfig h
    | chainId h large => exact .chainId h large
    | cookie h hcall => exact .cookie h hcall
  | ok cookie? =>
    rw [Proc.bind_of_ok ((Proc.outcome_relabel _ _).trans hs)]
    cases cookie? with
    | none =>
      rw [Proc.events_pure, List.append_nil]
      exact .unopened (by simp) fun _ h => by cases h
    | some cookie =>
      obtain ⟨nonce, chainId, request, hopens, he⟩ := Session.setup_opened hs
      rw [Proc.events_relabel, he]
      rcases @openWith_cases settings connection cookie request hopens.tlsConfig hopens.request with
        h | ⟨outcome, rest, h, hrest, hall, hpanics⟩
      · dsimp only
        rw [h]
        exact .opened hopens (List.nil_prefix) (by simp) (by simp)
      · dsimp only
        rw [h]
        exact .opened hopens hrest hall hpanics

/-- What a connection adds to the process. -/
inductive Served (settings : Settings) (connection : Connection) : ProcessState → Prop
  | noProvider {e : String} (h : connection.provider = .error e) : Served settings connection ⟨.panicked .explicit, [], []⟩
  | notOpened {phase : Phase} {ends : List ProcessEvent}
      (h : (openStreams settings connection).outcome ≠ .ok (some ()))
      (panics : ∀ panic, phase = .panicked panic → (openStreams settings connection).outcome = .error panic)
      (hends : ∀ e ∈ ends, e = .sleep 10) :
      Served settings connection ⟨phase, [], (openStreams settings connection).events ++ ends⟩
  | looped {phase : Phase} {ends : List ProcessEvent}
      (h : (openStreams settings connection).outcome = .ok (some ()))
      (panics : ∀ panic, phase = .panicked panic → (run settings.maker connection.turns).status = .panicked panic)
      (hends : ∀ e ∈ ends, e = .sleep 10) :
      Served settings connection ⟨phase, (run settings.maker connection.turns).consumed,
        (openStreams settings connection).events ++ (run settings.maker connection.turns).events.map .loop ++ ends⟩

theorem serveConnection_served (settings : Settings) (connection : Connection) :
    Served settings connection (serveConnection settings connection) := by
  rw [serveConnection]
  cases hp : connection.provider with
  | error e => exact .noProvider hp
  | ok u =>
    dsimp only
    cases ho : (openStreams settings connection).outcome with
    | error panic =>
      have h := @Served.notOpened settings connection (.panicked panic) [] (by simp [ho]) (by simp [ho]) (by simp)
      rwa [List.append_nil] at h
    | ok opened? =>
      cases opened? with
      | none => exact .notOpened (by simp [ho]) (by simp) (by simp)
      | some opened =>
        cases hs : (run settings.maker connection.turns).status with
        | running =>
          have h := @Served.looped settings connection .serving [] ho (by simp) (by simp)
          rwa [List.append_nil] at h
        | returned => exact .looped ho (by simp) (by simp)
        | panicked panic =>
          have h := @Served.looped settings connection (.panicked panic) [] ho (by simp [hs]) (by simp)
          rwa [List.append_nil] at h

def Serves (settings : Settings) (connection : Connection) (entry : List ProcessEvent) : Prop :=
  entry = (serveConnection settings connection).events

/-- The log of the process has one entry for each connection that was served: all of them
as long as it goes on. -/
theorem main_records (settings : Settings) (connections : List Connection) :
    ∃ served, served <+: connections ∧
      ((main settings connections).phase = .reconnecting → served = connections) ∧
      Records (Serves settings) served (main settings connections).events ∧
      (main settings connections).consumed = served.flatMap fun c => (serveConnection settings c).consumed := by
  induction connections using List.reverseRecOn with
  | nil => exact ⟨[], List.prefix_refl _, fun _ => rfl, .nil, rfl⟩
  | append_singleton before next ih =>
    obtain ⟨served, hprefix, hall, hrecords, hconsumed⟩ := ih
    have hstep : main settings (before ++ [next]) = mainStep settings (main settings before) next :=
      Foundations.Runs.run_snoc _ _ _ _
    rw [hstep]
    by_cases hphase : (main settings before).phase = .reconnecting
    · rw [mainStep, if_pos hphase]
      refine ⟨served ++ [next], ?_, ?_, hrecords.snoc rfl, ?_⟩
      · rw [hall hphase]
      · rw [hall hphase]
        exact fun _ => rfl
      · rw [List.flatMap_append, ← hconsumed]
        simp
    · rw [mainStep, if_neg hphase]
      exact ⟨served, hprefix.trans (List.prefix_append _ _), fun h => absurd h hphase, hrecords, hconsumed⟩

/-- What is done with a session only. -/
def ProcessEvent.NeedsSession : ProcessEvent → Prop
  | .session _ | .sleep _ => False
  | .approve _ | .openSoftQuote _ | .openRfq _ | .loop _ => True

/-- Where the process is when it does something that needs a session: it has opened one for
this connection, and either opens its streams or is in its loop. -/
inductive Place (settings : Settings) (connection : Connection) (request : Session.Request) :
    List ProcessEvent → ProcessEvent → Prop
  | opening {part : List ProcessEvent} {e : ProcessEvent} (hpart : part <+: streamsOpened settings request)
      (he : e ∈ streamsOpened settings request) : Place settings connection request part e
  | looping {before after : List Event} {event : Event}
      (h : (run settings.maker connection.turns).events = before ++ event :: after) :
      Place settings connection request (streamsOpened settings request ++ before.map .loop) (.loop event)

private theorem not_needsSession {events : List Session.Event} {e : ProcessEvent} (he : e.NeedsSession) :
    e ∉ events.map .session := by
  intro h
  obtain ⟨_, _, rfl⟩ := List.mem_map.mp h
  exact he

/-- What is done before the streams are opened, with a session. -/
def sessionOpened (settings : Settings) (connection : Connection) (nonce : String) (chainId : UInt64)
    (request : Session.Request) : List ProcessEvent :=
  (signIn settings.library settings.wallet
    (signInMessage settings.wallet.address chainId nonce connection.setup.now) request).map .session ++
      [.session .connect]

private theorem not_mem_sessionOpened {nonce : String} {chainId : UInt64} {request : Session.Request}
    {e : ProcessEvent}
    (he : e.NeedsSession) : e ∉ sessionOpened settings connection nonce chainId request := by
  intro h
  rcases List.mem_append.mp h with h | h
  · exact not_needsSession he h
  · rw [List.mem_singleton.mp h] at he
    exact he

private theorem openStreams_split {inside later : List ProcessEvent}
    {e : ProcessEvent} (h : (openStreams settings connection).events = inside ++ e :: later) (he : e.NeedsSession) :
    ∃ cookie nonce chainId request part,
      Opens settings.library settings.tlsConfig connection.setup cookie nonce chainId request ∧
      inside = sessionOpened settings connection nonce chainId request ++ part ∧
      Place settings connection request part e := by
  have hopening := openStreams_opening settings connection
  generalize openStreams settings connection = opened at h hopening
  cases hopening with
  | @unopened outcome events _ _ =>
    have hmem : e ∈ events.map .session := by
      rw [show events.map .session = inside ++ e :: later from h]
      simp
    exact absurd hmem (not_needsSession he)
  | @opened outcome cookie nonce chainId request rest opens hrest _ _ =>
    have hsplit : sessionOpened settings connection nonce chainId request ++ rest = inside ++ e :: later := by
      rw [← h, sessionOpened, List.append_assoc]
      rfl
    rcases place_append hsplit with ⟨_, hsession⟩ | ⟨part, hinside, hpart⟩
    · have hmem : e ∈ sessionOpened settings connection nonce chainId request := by
        rw [hsession]
        simp
      exact absurd hmem (not_mem_sessionOpened he)
    · refine ⟨cookie, nonce, chainId, request, part, opens, hinside, .opening ?_ ?_⟩
      · exact (hpart ▸ List.prefix_append part _ : part <+: rest).trans hrest
      · exact hrest.mem (by simp [hpart])

private theorem openStreams_opened
    (h : (openStreams settings connection).outcome = .ok (some ())) :
    ∃ cookie nonce chainId request,
      Opens settings.library settings.tlsConfig connection.setup cookie nonce chainId request ∧
      (openStreams settings connection).events =
        sessionOpened settings connection nonce chainId request ++ streamsOpened settings request := by
  have hopening := openStreams_opening settings connection
  generalize openStreams settings connection = opened at h hopening
  cases hopening with
  | unopened hfail _ => exact absurd h hfail
  | @opened outcome cookie nonce chainId request rest opens _ hall _ =>
    refine ⟨cookie, nonce, chainId, request, opens, ?_⟩
    rw [hall h, sessionOpened, List.append_assoc]
    rfl

/-- What needs a session is done after the opening of one for the same connection. -/
theorem serveConnection_split {inside later : List ProcessEvent}
    {e : ProcessEvent} (h : (serveConnection settings connection).events = inside ++ e :: later)
    (he : e.NeedsSession) :
    ∃ cookie nonce chainId request part,
      Opens settings.library settings.tlsConfig connection.setup cookie nonce chainId request ∧
      inside = sessionOpened settings connection nonce chainId request ++ part ∧
      Place settings connection request part e := by
  have hsleep {ends tail : List ProcessEvent} {inside' : List ProcessEvent} (hends : ∀ x ∈ ends, x = .sleep 10)
      (htail : ends = inside' ++ e :: tail) : False := by
    rw [hends e (by simp [htail])] at he
    exact he
  have hserved := serveConnection_served settings connection
  generalize serveConnection settings connection = s at h hserved
  cases hserved with
  | noProvider _ => simp at h
  | notOpened _ _ hends =>
    rcases place_append h with ⟨_, hopened⟩ | ⟨_, _, htail⟩
    · exact openStreams_split hopened he
    · exact (hsleep hends htail).elim
  | looped hok _ hends =>
    rcases place_append h with ⟨_, hlooped⟩ | ⟨_, _, htail⟩
    swap
    · exact (hsleep hends htail).elim
    rcases place_append hlooped with ⟨_, hopened⟩ | ⟨part, hinside, hpart⟩
    · exact openStreams_split hopened he
    · obtain ⟨cookie, nonce, chainId, request, hopens, hevents⟩ := openStreams_opened hok
      obtain ⟨before, rest, hrun, rfl, hrest⟩ := List.map_eq_append_iff.mp hpart
      obtain ⟨event, after, rfl, rfl, _⟩ := List.map_eq_cons_iff.mp hrest
      refine ⟨cookie, nonce, chainId, request, _, hopens, ?_, .looping hrun⟩
      rw [hinside, hevents, List.append_assoc]

/-- The log of the concrete process. -/
theorem sample_events : (main sampleSettings [sampleConnection]).events =
    sessionOpened sampleSettings sampleConnection "kEWepMt9knR6lWJ6A" 421614 sampleRequest ++
      streamsOpened sampleSettings sampleRequest ++
        (run sampleMaker [sampleTurn (sampleRfq .buy 5) sampleRpc]).events.map .loop := by
  rfl

end TradeInterfaces.Maker
