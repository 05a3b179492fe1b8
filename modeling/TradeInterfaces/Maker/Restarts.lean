import TradeInterfaces.Maker.Coverage
import TradeInterfaces.Maker.Crashes
import TradeInterfaces.Maker.Process

/-! The maker across its restarts: no work without a session, and what it writes, signs and
offers in all its loops together. -/
namespace TradeInterfaces.Maker
open Foundations.BigEndian Foundations.Panics Foundations.Effects Foundations.Ledgers Ethers
open Session (Opens)
open Seaport (seaportContractAddress)

def ProcessEvent.loop? : ProcessEvent → Option Event
  | .loop event => some event
  | _ => none

/-- The effects of the loops, without what is done around them. -/
def ProcessState.loopEvents (s : ProcessState) : List Event := s.events.filterMap ProcessEvent.loop?

def Loops (settings : Settings) (connection : Connection) (entry : List Event) : Prop :=
  entry = (run settings.maker connection.turns).events

variable {settings : Settings} {connections : List Connection}

private theorem filterMap_loop_eq_nil {events : List ProcessEvent} (h : ∀ event, .loop event ∉ events) :
    events.filterMap ProcessEvent.loop? = [] := by
  apply List.filterMap_eq_nil_iff.mpr
  intro e he
  cases e with
  | loop event => exact absurd he (h event)
  | _ => rfl

private theorem filterMap_sleep {ends : List ProcessEvent} (h : ∀ e ∈ ends, e = .sleep 10) :
    ends.filterMap ProcessEvent.loop? = [] :=
  filterMap_loop_eq_nil fun event he => by cases h _ he

private theorem not_mem_streamsOpened {request : Session.Request} (event : Event) :
    .loop event ∉ streamsOpened settings request := by
  simp [streamsOpened]

theorem openStreams_loopEvents (settings : Settings) (connection : Connection) :
    (openStreams settings connection).events.filterMap ProcessEvent.loop? = [] := by
  apply filterMap_loop_eq_nil
  intro event he
  have hopening := openStreams_opening settings connection
  generalize openStreams settings connection = opened at he hopening
  cases hopening with
  | unopened _ _ => simp at he
  | opened _ hrest _ _ =>
    rcases List.mem_append.mp he with he | he
    · simp at he
    · rcases List.mem_cons.mp he with he | he
      · cases he
      · exact not_mem_streamsOpened event (hrest.mem he)

theorem filterMap_map_loop (events : List Event) : (events.map .loop).filterMap ProcessEvent.loop? = events := by
  rw [List.filterMap_map]
  exact List.filterMap_some

/-- A connection that is served is looped over, or nothing is read and no loop is run. -/
theorem serveConnection_loop (settings : Settings) (connection : Connection) :
    (serveConnection settings connection).consumed = [] ∧
      (serveConnection settings connection).loopEvents = [] ∨
    (serveConnection settings connection).consumed = (run settings.maker connection.turns).consumed ∧
      (serveConnection settings connection).loopEvents = (run settings.maker connection.turns).events := by
  have hserved := serveConnection_served settings connection
  have hopened := openStreams_loopEvents settings connection
  rw [ProcessState.loopEvents]
  generalize serveConnection settings connection = s at hserved
  cases hserved with
  | noProvider _ => exact .inl ⟨rfl, rfl⟩
  | notOpened _ _ hends =>
    refine .inl ⟨rfl, ?_⟩
    rw [List.filterMap_append, hopened, filterMap_sleep hends, List.nil_append]
  | looped _ _ hends =>
    refine .inr ⟨rfl, ?_⟩
    rw [List.filterMap_append, List.filterMap_append, hopened, filterMap_sleep hends, filterMap_map_loop,
      List.nil_append, List.append_nil]

/-- The loops that are run, one after the other. -/
theorem main_loops (settings : Settings) (connections : List Connection) :
    ∃ looped, looped.Sublist connections ∧
      Records (Loops settings) looped (main settings connections).loopEvents ∧
      (main settings connections).consumed = looped.flatMap fun c => (run settings.maker c.turns).consumed := by
  obtain ⟨served, hprefix, -, hrecords, hconsumed⟩ := main_records settings connections
  have hloops : ∃ looped, looped.Sublist served ∧
      Records (Loops settings) looped (main settings connections).loopEvents ∧
      (served.flatMap fun c => (serveConnection settings c).consumed) =
        looped.flatMap fun c => (run settings.maker c.turns).consumed := by
    rw [ProcessState.loopEvents]
    generalize (main settings connections).events = log at hrecords
    clear hprefix hconsumed
    induction hrecords with
    | nil => exact ⟨[], .refl _, .nil, rfl⟩
    | @snoc served log connection entry _ h ih =>
      obtain ⟨looped, hsub, hrecords, hconsumed⟩ := ih
      cases h
      rw [List.filterMap_append, List.flatMap_append, List.flatMap_singleton, hconsumed]
      rcases serveConnection_loop settings connection with ⟨hc, he⟩ | ⟨hc, he⟩
      · refine ⟨looped, hsub.trans (List.sublist_append_left _ _), ?_, by rw [hc, List.append_nil]⟩
        rwa [show (serveConnection settings connection).events.filterMap ProcessEvent.loop? = [] from he,
          List.append_nil]
      · refine ⟨looped ++ [connection], hsub.append (.refl _), hrecords.snoc he, ?_⟩
        rw [hc, List.flatMap_append, List.flatMap_singleton]
  obtain ⟨looped, hsub, hrecords, hloops⟩ := hloops
  exact ⟨looped, hsub.trans hprefix.sublist, hrecords, hconsumed.trans hloops⟩

/-- In all its loops together the maker sends one transaction for each Buy of less than
`2^128` options that it has read and considers, in their order, and no other. A restart
does not send any again. -/
theorem main_writes (settings : Settings) (connections : List Connection) :
    (main settings connections).loopEvents.filterMap Event.writeTx? =
      (main settings connections).consumed.filterMap (writeTx? settings.maker) := by
  obtain ⟨looped, _, hrecords, hconsumed⟩ := main_loops settings connections
  have hentry (connection : Connection) (entry : List Event) (h : Loops settings connection entry) :
      entry.filterMap Event.writeTx? =
        (run settings.maker connection.turns).consumed.filterMap (writeTx? settings.maker) := by
    rw [show entry = _ from h, run_writes]
  rw [hrecords.filterMap_eq hentry, hconsumed, List.filterMap_flatMap]

theorem SignedFor.mono {maker : MarketMaker} {turns more : List Turn} {x : Stream × Grpc.QuoteRequest} {hash : H256}
    (h : SignedFor maker turns x hash) (hsub : ∀ turn ∈ turns, turn ∈ more) : SignedFor maker more x hash := by
  obtain ⟨hs, turn, hturn, hrest⟩ := h
  exact ⟨hs, turn, hsub turn hturn, hrest⟩

/-- The wallet signs at most one order hash for a request it has read, in their order, and
only the digest of an order on that request's terms. -/
theorem main_signs (settings : Settings) (connections : List Connection) :
    ∃ origins, origins.Sublist (main settings connections).consumed ∧
      List.Forall₂ (SignedFor settings.maker (connections.flatMap Connection.turns)) origins
        ((main settings connections).loopEvents.filterMap Event.signedHash?) := by
  obtain ⟨looped, hsub, hrecords, hconsumed⟩ := main_loops settings connections
  rw [hconsumed]
  apply hrecords.with_mem.sublist
  rintro connection entry ⟨hmem, rfl⟩
  obtain ⟨origins, horigins, hsigned⟩ := run_signs settings.maker connection.turns
  refine ⟨origins, horigins, hsigned.imp fun _ _ h => h.mono fun turn hturn => ?_⟩
  exact List.mem_flatMap.mpr ⟨connection, hsub.mem hmem, hturn⟩

/-- Where receipts are truthful the maker never has more of an option on offer, in all the
orders it has signed and sent since its start, than it has written. -/
theorem main_covered (settings : Settings) (connections : List Connection)
    (htrue : ∀ connection ∈ connections, ∀ turn ∈ connection.turns, Truthful settings.maker turn.rpc)
    (optionId : U256) {before : List ProcessEvent} (hbefore : before <+: (main settings connections).events) :
    ((before.filterMap ProcessEvent.loop?).map (Event.offered settings.maker optionId)).sum ≤
      ((before.filterMap ProcessEvent.loop?).map (Event.written optionId)).sum := by
  obtain ⟨looped, hsub, hrecords, _⟩ := main_loops settings connections
  refine hrecords.with_mem.sum_le ?_ (hbefore.filterMap ProcessEvent.loop?)
  rintro connection entry ⟨hmem, rfl⟩ part hpart
  exact run_covered settings.maker connection.turns (htrue connection (hsub.mem hmem)) optionId hpart

/-- Two Buys, each with a write of its own. -/
theorem main_covered_twice :
    let connections := [{ sampleConnection with
      turns := [sampleTurn (sampleRfq .buy 5) sampleRpc, sampleTurn (sampleRfq .buy 7) sampleRpc] }]
    let events := (main sampleSettings connections).events.filterMap ProcessEvent.loop?
    (events.map (Event.offered sampleMaker 42)).sum ≤ (events.map (Event.written 42)).sum := by
  have htruthful : Truthful sampleMaker sampleRpc := by
    have hids : writtenIds sampleMaker sampleRpc = some (42, 43) := by decide +kernel
    intro optionId claimId h
    rw [hids] at h
    cases h
    rfl
  refine main_covered sampleSettings _ (fun connection hmem turn hturn => ?_) 42 (List.prefix_refl _)
  rw [List.mem_singleton.mp hmem] at hturn
  rcases List.mem_pair.mp hturn with rfl | rfl <;> exact htruthful

/-- Work that needs a session is done with one that was opened for the same connection. -/
theorem main_split {before after : List ProcessEvent} {e : ProcessEvent}
    (hlog : (main settings connections).events = before ++ e :: after) (he : e.NeedsSession) :
    ∃ connection ∈ connections, ∃ cookie nonce chainId request earlier part,
      Opens settings.library settings.tlsConfig connection.setup cookie nonce chainId request ∧
      before = earlier ++ sessionOpened settings connection nonce chainId request ++ part ∧
      Place settings connection request part e := by
  obtain ⟨served, hprefix, -, hrecords, -⟩ := main_records settings connections
  obtain ⟨connection, hmem, earlier, inside, later, hserves, rfl⟩ := hrecords.split hlog
  obtain ⟨cookie, nonce, chainId, request, part, hopens, rfl, hplace⟩ :=
    serveConnection_split (show (serveConnection settings connection).events = _ from hserves.symm) he
  refine ⟨connection, hprefix.mem hmem, cookie, nonce, chainId, request, earlier, part, hopens, ?_, hplace⟩
  rw [List.append_assoc]

private theorem Place.nonce_not_mem {connection : Connection} {request : Session.Request}
    {part : List ProcessEvent}
    {e : ProcessEvent} (h : Place settings connection request part e) : .session .nonce ∉ part := by
  have hopening : .session .nonce ∉ streamsOpened settings request := by simp [streamsOpened]
  cases h with
  | opening hpart _ => exact fun hmem => hopening (hpart.mem hmem)
  | looping _ =>
    intro hmem
    rcases List.mem_append.mp hmem with hmem | hmem
    · exact hopening hmem
    · simp at hmem

/-- The allowances cover whatever a quote offers. -/
theorem approvalTxs_let (happrove : settings.approveTokens = true) {rpc : Rpc} {quote : Grpc.QuoteRequest}
    {components : Seaport.OrderComponents} (h : Quoted settings.maker rpc quote components)
    {item : Seaport.OfferItem} (hitem : item ∈ components.offer) :
    ∃ tx ∈ approvalTxs settings, Approvals.Lets seaportContractAddress item.itemType item.token tx := by
  rw [approvalTxs, if_pos happrove]
  obtain ⟨_, _, _, _, ⟨_, _, _, _, ho, _⟩ | ⟨_, ho, _⟩⟩ := h.sides
  · rw [ho] at hitem
    cases List.mem_singleton.mp hitem
    exact Approvals.lets_erc1155_iff.mpr ⟨rfl, rfl⟩
  · rw [ho] at hitem
    cases List.mem_singleton.mp hitem
    exact Approvals.lets_erc20_iff.mpr (.inl ⟨rfl, rfl⟩)

/-- Where the settings ask for allowances, Seaport has been allowed what an order offers
before the order is hashed, and since the last session was begun. -/
theorem main_allows (settings : Settings) (connections : List Connection) {before after : List ProcessEvent}
    {components : Seaport.OrderComponents} (happrove : settings.approveTokens = true)
    (hlog : (main settings connections).events = before ++ .loop (.getOrderHash components) :: after)
    {item : Seaport.OfferItem} (hitem : item ∈ components.offer) :
    ∃ earlier later tx, before = earlier ++ .approve tx :: later ∧ .session .nonce ∉ later ∧
      Approvals.Lets seaportContractAddress item.itemType item.token tx := by
  obtain ⟨connection, _, _, nonce, chainId, request, earlier, part, _, rfl, hplace⟩ := main_split hlog trivial
  have hnonce := hplace.nonce_not_mem
  cases hplace with
  | opening _ hmem => exact absurd hmem (not_mem_streamsOpened _)
  | @looping first _ _ h =>
    obtain ⟨turn, _, quote, _, hquoted⟩ := @run_hashes settings.maker connection.turns components (by simp [h])
    obtain ⟨tx, htx, hlets⟩ := approvalTxs_let happrove hquoted hitem
    have hpart : .approve tx ∈ streamsOpened settings request ++ first.map .loop := by simp [streamsOpened, htx]
    obtain ⟨inside, later, hsplit⟩ := List.append_of_mem hpart
    rw [hsplit] at hnonce ⊢
    refine ⟨earlier ++ sessionOpened settings connection nonce chainId request ++ inside, later, tx, ?_, ?_, hlets⟩
    · rw [List.append_assoc, List.append_assoc, List.append_assoc]
    · exact fun hmem => hnonce (by simp [hmem])

def sampleComponents : Seaport.OrderComponents :=
  quoteComponents sampleMaker (optionOffer sampleMaker (some (.ofU256 42)) (some (.ofU256 5)))
    (priceConsideration sampleMaker 10000000) sampleRpc 0

/-- In the concrete process the options on offer were allowed. -/
theorem main_allows_options : ∃ before after earlier later tx,
    (main sampleSettings [sampleConnection]).events = before ++ .loop (.getOrderHash sampleComponents) :: after ∧
      before = earlier ++ .approve tx :: later ∧ Approvals.Lets seaportContractAddress 3 (toBytes 20 11) tx := by
  obtain ⟨first, rest, hrun⟩ : ∃ first rest,
      (run sampleMaker [sampleTurn (sampleRfq .buy 5) sampleRpc]).events =
        first ++ .getOrderHash sampleComponents :: rest := ⟨[_, _], _, rfl⟩
  have hlog : (main sampleSettings [sampleConnection]).events =
      (sessionOpened sampleSettings sampleConnection "kEWepMt9knR6lWJ6A" 421614 sampleRequest ++
        streamsOpened sampleSettings sampleRequest ++ first.map .loop) ++
          .loop (.getOrderHash sampleComponents) :: rest.map .loop := by
    rw [sample_events, hrun, List.map_append, List.map_cons, List.append_assoc, List.append_assoc,
      List.append_assoc]
  have hitem : ⟨3, toBytes 20 11, 42, 5, 5⟩ ∈ sampleComponents.offer := List.mem_singleton.mpr (by decide +kernel)
  obtain ⟨earlier, later, tx, hbefore, _, hlets⟩ := main_allows sampleSettings [sampleConnection] rfl hlog hitem
  exact ⟨_, _, earlier, later, tx, hlog, hbefore, hlets⟩

/-- A request that the loop cannot survive: a Buy on the RFQ stream that is considered, for
more options than can be written at once. -/
def TooMany (turn : Turn) : Prop :=
  ∃ quote amount, turn.stream = .rfq ∧ turn.message = .ok (some quote) ∧ supported quote = true ∧
    ValidRfq seaportContractAddress quote ∧ Grpc.Action.ofI32 quote.action = .buy ∧ quote.amount = some amount ∧
    2^128 ≤ amount.toU256.toNat

/-- What can end the process on a connection: a call before the loop, one of the approvals
to be sent, or a request that the loop reads while it runs. -/
def Fatal (settings : Settings) (connection : Connection) : Prop :=
  (∃ e, connection.provider = .error e) ∨ (∃ e, settings.tlsConfig = .error e) ∨
  (∃ id, connection.setup.getChainid = .ok id ∧ 2^64 ≤ id.toNat) ∨
  (∃ n < (approvalTxs settings).length,
    ¬((connection.approvals n).sendTransaction = .ok () ∧ (connection.approvals n).pendingTx = .ok ())) ∨
  ∃ before turn after, connection.turns = before ++ turn :: after ∧
    (run settings.maker before).status = .running ∧ TooMany turn

private theorem run_panics {maker : MarketMaker} {turns : List Turn} {panic : Panic}
    (h : (run maker turns).status = .panicked panic) :
    ∃ before turn after, turns = before ++ turn :: after ∧ (run maker before).status = .running ∧ TooMany turn := by
  by_contra hnone
  refine (run_returns_iff maker turns).mpr (Foundations.Runs.allSteps_iff.mpr ?_) panic h
  intro before turn after hturns hrunning quote amount hs hm hsup hv hb ha
  refine Nat.lt_of_not_le fun hlarge => hnone ⟨before, turn, after, hturns, hrunning, ?_⟩
  exact ⟨quote, amount, hs, hm, hsup, validateRfq_isSome_iff.mp hv, hb, ha, hlarge⟩

private theorem serveConnection_panics (hlibrary : settings.library.RoundTrips) {connection : Connection}
    {panic : Panic}
    (h : (serveConnection settings connection).phase = .panicked panic) : Fatal settings connection := by
  have hserved := serveConnection_served settings connection
  generalize serveConnection settings connection = s at h hserved
  cases hserved with
  | noProvider hp => exact .inl ⟨_, hp⟩
  | notOpened _ panics _ =>
    have hpanics := panics panic h
    have hopening := openStreams_opening settings connection
    generalize openStreams settings connection = opened at hpanics hopening
    have hcause : OpeningPanics settings connection := by
      cases hopening with
      | unopened _ hcause => exact hcause panic hpanics
      | opened _ _ _ hcause => exact hcause panic hpanics
    cases hcause with
    | tlsConfig h => exact .inr (.inl ⟨_, h⟩)
    | chainId h large => exact .inr (.inr (.inl ⟨_, h, large⟩))
    | cookie h hcall =>
      rw [Session.call_of_toStr hlibrary h] at hcall
      cases hcall
    | approval hn fails => exact .inr (.inr (.inr (.inl ⟨_, hn, fails⟩)))
  | looped _ panics _ => exact .inr (.inr (.inr (.inr (run_panics (panics panic h)))))

/-- Nothing else ends the process: as long as the provider can be reached, the settings
and the chain id are sound and the allowances go through, it takes a Buy for `2^128`
options or more. -/
theorem main_panics (settings : Settings) (hlibrary : settings.library.RoundTrips) (connections : List Connection)
    {panic : Panic} (h : (main settings connections).phase = .panicked panic) :
    ∃ connection ∈ connections, Fatal settings connection := by
  induction connections using List.reverseRecOn with
  | nil => cases h
  | append_singleton before next ih =>
    have hstep : main settings (before ++ [next]) = mainStep settings (main settings before) next :=
      Foundations.Runs.run_snoc _ _ _ _
    rw [hstep, mainStep] at h
    split at h
    · exact ⟨next, by simp, serveConnection_panics hlibrary h⟩
    · obtain ⟨connection, hmem, hfatal⟩ := ih h
      exact ⟨connection, List.mem_append_left _ hmem, hfatal⟩

/-- Without a provider the concrete process ends. -/
theorem main_panics_unreachable : ∃ connection ∈ [{ sampleConnection with provider := .error "refused" }],
    Fatal sampleSettings connection :=
  main_panics sampleSettings sampleLibrary_roundTrips [{ sampleConnection with provider := .error "refused" }]
    (show _ = Phase.panicked .explicit from rfl)

end TradeInterfaces.Maker
