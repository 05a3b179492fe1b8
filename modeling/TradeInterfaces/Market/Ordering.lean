import TradeInterfaces.Foundations.Traffic
import TradeInterfaces.Market.Safety

/-! The messages of the market keep their order, whatever the network does to them, and what
the taker reads is replied to what it asked. -/
namespace TradeInterfaces.Market
open Foundations.Exchanges
open Maker (MarketMaker)
open Taker (Settings Chain)

/-- All that the taker has sent. -/
def Session.requests (s : Session) : List Request :=
  s.softQuotes.requests.map (Prod.mk .softQuote) ++ s.rfqs.elim [] fun t => t.requests.map (Prod.mk .rfq)

section
variable {settings : Settings} {chain : Chain} {s s' : Session}

/-- The log of the session takes what is sent. -/
theorem read_requests {calls : TakerCalls} {response : Response} {sent : List Request}
    (hr : Market.read settings chain s calls response = some (s', sent)) : s'.requests = s.requests ++ sent := by
  rcases read_cases settings chain hr with ⟨quote, _, hrfqs, hasking, hq⟩ | ⟨offer, t, _, hrfqs, hs, t', ho, rfl⟩
  · rcases readQuote_cases settings hasking calls quote with ⟨status, h⟩ | h | h
    · cases hq.symm.trans h
      simp [Session.requests, hrfqs]
    · cases hq.symm.trans h
      simp [Session.requests, hrfqs]
    · cases hq.symm.trans h
      simp only [Session.requests, hrfqs, Option.elim_none, Option.elim_some, List.append_nil]
      rfl
  · rcases readOffer_cases settings chain hs calls offer with ⟨h, hreq⟩ | ⟨rfq, h, hreq⟩
    · cases ho.symm.trans h
      simp [Session.requests, hrfqs, hreq]
    · cases ho.symm.trans h
      simp [Session.requests, hrfqs, hreq]

private theorem breakOff_requests (s : Session) : (breakOff settings chain s).requests = s.requests := by
  cases hr : s.rfqs with
  | none => simp [breakOff, Session.requests, hr, Taker.softStep_ended]
  | some t => simp [breakOff, Session.requests, hr, step_ended]

end

/-- What the maker reads for a request that the taker sent. -/
def Populated (request consumed : Request) : Prop := ∃ ulid, consumed = (request.1, populate ulid request.2)

theorem serve_logs {maker : MarketMaker} {m m' : Maker.State} {calls : MakerCalls} {request : Request}
    {sent : List Response} (h : serve maker m calls request = some (m', sent)) :
    m'.consumed = m.consumed ++ [(request.1, populate calls.ulid request.2)] ∧
      m'.events = m.events ++ (Maker.selectBranch maker (calls.turn request)).events ∧
      sent = (Maker.selectBranch maker (calls.turn request)).events.filterMap response? := by
  unfold serve at h
  split at h
  · rename_i hs
    cases h
    rw [Maker.step, if_pos hs]
    exact ⟨rfl, rfl, rfl⟩
  · cases h

/-- Serving others only adds to the logs. -/
theorem attend_logs (maker : MarketMaker) (m : Maker.State) (other : Elsewhere) :
    m.consumed <+: (attend maker m other).consumed ∧ m.events <+: (attend maker m other).events := by
  cases other with
  | turn turn =>
    unfold attend
    dsimp only
    rw [Maker.step]
    split
    · exact ⟨List.prefix_append _ _, List.prefix_append _ _⟩
    · exact ⟨List.prefix_refl _, List.prefix_refl _⟩
  | reconnect =>
    unfold attend
    dsimp only
    split
    · exact ⟨List.prefix_refl _, List.prefix_refl _⟩
    · exact ⟨List.prefix_refl _, List.prefix_refl _⟩

/-- What the maker has read and sent for this taker, among all that it has. -/
structure Attended (s : Maker.State) (served : List Request) (answered : List Response) : Prop where
  served : List.SublistForall₂ Populated served s.consumed
  answered : answered.Sublist (s.events.filterMap response?)

theorem Attended.serve {maker : MarketMaker} {s s' : Maker.State} {served : List Request} {answered : List Response}
    (h : Attended s served answered) {calls : MakerCalls} {request : Request} {sent : List Response}
    (hs : Market.serve maker s calls request = some (s', sent)) :
    Attended s' (served ++ [request]) (answered ++ sent) := by
  obtain ⟨hconsumed, hevents, rfl⟩ := serve_logs hs
  refine ⟨?_, ?_⟩
  · rw [hconsumed]
    exact sublistForall₂_append h.served (.cons ⟨_, rfl⟩ .nil)
  · rw [hevents, List.filterMap_append]
    exact h.answered.append (.refl _)

theorem Attended.attend {maker : MarketMaker} {s : Maker.State} {served : List Request} {answered : List Response}
    (h : Attended s served answered) (other : Elsewhere) : Attended (attend maker s other) served answered := by
  obtain ⟨⟨consumed, hconsumed⟩, hevents⟩ := attend_logs maker s other
  refine ⟨?_, h.answered.trans (hevents.sublist.filterMap _)⟩
  rw [← hconsumed, ← List.append_nil served]
  exact sublistForall₂_append h.served .nil

section
variable (maker : MarketMaker) (settings : Settings) (chain : Chain) (schedule : Schedule)

private theorem run_exchanges : InOrder (Reply maker settings fun _ => True) (initial settings).requests
    (run maker settings chain schedule) (traffic (parties maker settings chain) (initial settings) schedule) := by
  refine run_inOrder (takesTurns settings chain maker) (fun hs hlast hcalls h => serve_replies hs hlast hcalls h)
    (fun hs hlast hreply h => read_sound hs hlast hreply.terms h) (fun hs => breakOff_sound hs) (.asked _ _ _ rfl)
    ⟨⟨0, rfl⟩, fun t ht => by cases ht⟩ (served_all schedule) rfl

private theorem run_requests :
    (run maker settings chain schedule).client.requests = (initial settings).requests ++
    (traffic (parties maker settings chain) (initial settings) schedule).asked := by
  refine @run_client _ _ _ _ _ _ _ (parties maker settings chain) (initial settings) schedule
    (fun s asked _ => s.requests = (initial settings).requests ++ asked) (fun h hr => ?_) (fun h => ?_) rfl
  · rw [read_requests hr, h, List.append_assoc]
  · exact (breakOff_requests _).trans h

/-- What the maker looks at was sent by this taker, and what this taker looks at by the
maker. -/
theorem run_passes :
    let n := run maker settings chain schedule
    let t := traffic (parties maker settings chain) (initial settings) schedule
    t.served.Sublist n.client.requests ∧ t.read.Sublist t.answered := by
  intro n t
  have hinOrder := run_exchanges maker settings chain schedule
  refine ⟨?_, (List.sublist_append_left _ _).trans hinOrder.read⟩
  rw [run_requests]
  exact (List.sublist_append_left _ _).trans hinOrder.served

theorem run_attended :
    Attended (run maker settings chain schedule).server
      (traffic (parties maker settings chain) (initial settings) schedule).served
      (traffic (parties maker settings chain) (initial settings) schedule).answered :=
  run_server (fun h hs => h.serve hs) (fun h => h.attend _) ⟨.nil, .refl _⟩

end

/-- The network reorders messages and loses some, and the maker serves others and restarts.
Still both sides read what the other sent in its order and never twice, and each response
the taker reads is the maker's answer to a request of its own, although it compares no ulids. -/
theorem run_ordered (maker : MarketMaker) (settings : Settings) (chain : Chain) (schedule : Schedule) :
    let n := run maker settings chain schedule
    let t := traffic (parties maker settings chain) (initial settings) schedule
    t.served.Sublist n.client.requests ∧ List.SublistForall₂ Populated t.served n.server.consumed ∧
      t.read.Sublist (n.server.events.filterMap response?) ∧
      List.SublistForall₂ (flip (GivenTo maker)) t.read t.served := by
  intro n t
  obtain ⟨hserved, hread⟩ := run_passes maker settings chain schedule
  have hattended := run_attended maker settings chain schedule
  have hmatched := (run_exchanges maker settings chain schedule).matched
  refine ⟨hserved, hattended.served, hread.trans hattended.answered, ?_⟩
  refine sublistForall₂_imp (sublistForall₂_of_sublist (List.sublist_append_left _ _) hmatched) ?_
  exact fun response _ request _ hreply => hreply.given

end TradeInterfaces.Market
