import Mathlib.Data.List.Basic
import TradeInterfaces.Foundations.Runs

/-! A client and a server that exchange messages. The network between them delays
messages, delivers them in any order and loses them, and makes none itself. -/
namespace TradeInterfaces.Foundations.Exchanges
open Runs (run)

/-- What the parties do with a message that reaches them, given the outcomes of the calls
they make for it: `none` where it is not looked at now. The server also attends to others,
and the client's stream can break. -/
structure Parties (σ τ α β ι κ ω : Type) where
  read : σ → ι → β → Option (σ × List α)
  serve : τ → κ → α → Option (τ × List β)
  attend : τ → ω → τ
  breakOff : σ → σ

structure Net (σ τ α β : Type) where
  client : σ
  server : τ
  requests : List α
  responses : List β

/-- What happens next. A message in flight is named by its position. -/
inductive Label (ι κ ω : Type) where
  | read (position : Nat) (calls : ι)
  | serve (position : Nat) (calls : κ)
  | loseRequest (position : Nat)
  | loseResponse (position : Nat)
  | attend (other : ω)
  | breakOff

variable {σ τ α β ι κ ω : Type} (parties : Parties σ τ α β ι κ ω)

def step (n : Net σ τ α β) : Label ι κ ω → Net σ τ α β
  | .read k calls =>
    match n.responses[k]? with
    | none => n
    | some response =>
      match parties.read n.client calls response with
      | none => n
      | some (client, sent) =>
        { n with client, requests := n.requests ++ sent, responses := n.responses.eraseIdx k }
  | .serve k calls =>
    match n.requests[k]? with
    | none => n
    | some request =>
      match parties.serve n.server calls request with
      | none => n
      | some (server, sent) =>
        { n with server, requests := n.requests.eraseIdx k, responses := n.responses ++ sent }
  | .loseRequest k => { n with requests := n.requests.eraseIdx k }
  | .loseResponse k => { n with responses := n.responses.eraseIdx k }
  | .attend other => { n with server := parties.attend n.server other }
  | .breakOff => { n with client := parties.breakOff n.client }

section
variable {parties} {s s' : σ} {t t' : τ} {request : α} {response : β}

theorem step_serve {calls : κ} {sent : List β} (h : parties.serve t calls request = some (t', sent)) :
    step parties ⟨s, t, [request], []⟩ (.serve 0 calls : Label ι κ ω) = ⟨s, t', [], sent⟩ := by
  simp [step, h]

theorem step_read {calls : ι} {sent : List α} (h : parties.read s calls response = some (s', sent)) :
    step parties ⟨s, t, [], [response]⟩ (.read 0 calls : Label ι κ ω) = ⟨s', t, sent, []⟩ := by
  simp [step, h]

/-- A position without a message delivers nothing. -/
theorem step_serve_none {n : Net σ τ α β} {k : Nat} (h : n.requests[k]? = none) (calls : κ) :
    step parties n (.serve k calls : Label ι κ ω) = n := by
  simp [step, h]

theorem step_read_none {n : Net σ τ α β} {k : Nat} (h : n.responses[k]? = none) (calls : ι) :
    step parties n (.read k calls : Label ι κ ω) = n := by
  simp [step, h]

end

/-- The client sends at most one request for a response it reads, and `last` keeps track
of the last one it sent. The server sends at most one response for a request. -/
structure TakesTurns (last : σ → Option α) : Prop where
  read : ∀ {s calls response s' sent}, parties.read s calls response = some (s', sent) →
    sent = [] ∧ last s' = last s ∨ ∃ request, sent = [request] ∧ last s' = some request
  serve : ∀ {t calls request t' sent}, parties.serve t calls request = some (t', sent) →
    sent = [] ∨ ∃ response, sent = [response]
  breakOff : ∀ s, last (parties.breakOff s) = last s

/-- Nothing is in flight, or the last request of the client is, or a response to it. -/
inductive Exchange (last : σ → Option α) (answers : α → β → Prop) : Net σ τ α β → Prop
  | quiet (s : σ) (t : τ) : Exchange last answers ⟨s, t, [], []⟩
  | asked (s : σ) (t : τ) (request : α) (hlast : last s = some request) :
      Exchange last answers ⟨s, t, [request], []⟩
  | answered (s : σ) (t : τ) (request : α) (response : β) (hlast : last s = some request)
      (h : answers request response) : Exchange last answers ⟨s, t, [], [response]⟩

section
variable {parties} {last : σ → Option α} {answers : α → β → Prop} {I : σ → Prop} {C : κ → Prop}

theorem Exchange.length_le {n : Net σ τ α β} (h : Exchange last answers n) :
    n.requests.length + n.responses.length ≤ 1 := by
  cases h <;> simp

/-- What is known of a message that is in flight when there is at most one. -/
theorem Exchange.response {n : Net σ τ α β} (h : Exchange last answers n) {k : Nat} {response : β}
    (hk : n.responses[k]? = some response) : n.requests = [] ∧ n.responses.eraseIdx k = [] ∧
      ∃ request, last n.client = some request ∧ answers request response := by
  cases h with
  | quiet s t => simp at hk
  | asked s t request hlast => simp at hk
  | answered s t request response' hlast h =>
    cases k with
    | succ k => simp at hk
    | zero =>
      cases hk
      exact ⟨rfl, rfl, request, hlast, h⟩

theorem Exchange.request {n : Net σ τ α β} (h : Exchange last answers n) {k : Nat} {request : α}
    (hk : n.requests[k]? = some request) : n.responses = [] ∧ n.requests.eraseIdx k = [] ∧
      last n.client = some request := by
  cases h with
  | quiet s t => simp at hk
  | answered s t request response hlast h => simp at hk
  | asked s t request' hlast =>
    cases k with
    | succ k => simp at hk
    | zero =>
      cases hk
      exact ⟨rfl, rfl, hlast⟩

/-- The calls made for the requests that are served meet a condition. -/
def Served (C : κ → Prop) : Label ι κ ω → Prop
  | .serve _ calls => C calls
  | _ => True

/-- The rule for a client: what it keeps when it reads a response to its last request, it
keeps whatever the network does. -/
theorem step_exchange (hturns : TakesTurns parties last)
    (hserve : ∀ {s t calls request t' response}, I s → last s = some request → C calls →
      parties.serve t calls request = some (t', [response]) → answers request response)
    (hread : ∀ {s calls request response s' sent}, I s → last s = some request → answers request response →
      parties.read s calls response = some (s', sent) → I s')
    (hbreak : ∀ {s}, I s → I (parties.breakOff s)) {n : Net σ τ α β} {label : Label ι κ ω}
    (h : Exchange last answers n ∧ I n.client) (hC : Served C label) :
    Exchange last answers (step parties n label) ∧ I (step parties n label).client := by
  obtain ⟨hn, hI⟩ := h
  cases label with
  | read k calls =>
    cases hk : n.responses[k]? with
    | none =>
      rw [step_read_none hk]
      exact ⟨hn, hI⟩
    | some response =>
      obtain ⟨hrequests, herase, request, hlast, hanswers⟩ := hn.response hk
      cases hr : parties.read n.client calls response with
      | none =>
        simp only [step, hk, hr]
        exact ⟨hn, hI⟩
      | some result =>
        obtain ⟨s', sent⟩ := result
        simp only [step, hk, hr, hrequests, herase, List.nil_append]
        refine ⟨?_, hread hI hlast hanswers hr⟩
        rcases hturns.read hr with ⟨rfl, _⟩ | ⟨request', rfl, hlast'⟩
        · exact .quiet s' n.server
        · exact .asked s' n.server request' hlast'
  | serve k calls =>
    cases hk : n.requests[k]? with
    | none =>
      rw [step_serve_none hk]
      exact ⟨hn, hI⟩
    | some request =>
      obtain ⟨hresponses, herase, hlast⟩ := hn.request hk
      cases hs : parties.serve n.server calls request with
      | none =>
        simp only [step, hk, hs]
        exact ⟨hn, hI⟩
      | some result =>
        obtain ⟨t', sent⟩ := result
        simp only [step, hk, hs, hresponses, herase, List.nil_append]
        refine ⟨?_, hI⟩
        rcases hturns.serve hs with rfl | ⟨response, rfl⟩
        · exact .quiet n.client t'
        · exact .answered n.client t' request response hlast (hserve hI hlast hC hs)
  | loseRequest k =>
    refine ⟨?_, hI⟩
    cases hn with
    | quiet s t => exact .quiet s t
    | answered s t request response hlast h => exact .answered s t request response hlast h
    | asked s t request hlast =>
      cases k with
      | zero => exact .quiet s t
      | succ k => exact .asked s t request hlast
  | loseResponse k =>
    refine ⟨?_, hI⟩
    cases hn with
    | quiet s t => exact .quiet s t
    | asked s t request hlast => exact .asked s t request hlast
    | answered s t request response hlast h =>
      cases k with
      | zero => exact .quiet s t
      | succ k => exact .answered s t request response hlast h
  | attend other =>
    refine ⟨?_, hI⟩
    cases hn with
    | quiet s t => exact .quiet s _
    | asked s t request hlast => exact .asked s _ request hlast
    | answered s t request response hlast h => exact .answered s _ request response hlast h
  | breakOff =>
    refine ⟨?_, hbreak hI⟩
    cases hn with
    | quiet s t => exact .quiet _ t
    | asked s t request hlast => exact .asked _ t request ((hturns.breakOff s).trans hlast)
    | answered s t request response hlast h =>
      exact .answered _ t request response ((hturns.breakOff s).trans hlast) h

theorem run_exchange (hturns : TakesTurns parties last)
    (hserve : ∀ {s t calls request t' response}, I s → last s = some request → C calls →
      parties.serve t calls request = some (t', [response]) → answers request response)
    (hread : ∀ {s calls request response s' sent}, I s → last s = some request → answers request response →
      parties.read s calls response = some (s', sent) → I s')
    (hbreak : ∀ {s}, I s → I (parties.breakOff s)) {n : Net σ τ α β} {labels : List (Label ι κ ω)}
    (hn : Exchange last answers n) (hI : I n.client) (hC : ∀ label ∈ labels, Served C label) :
    Exchange last answers (run (step parties) n labels) ∧ I (run (step parties) n labels).client := by
  induction labels generalizing n with
  | nil => exact ⟨hn, hI⟩
  | cons label labels ih =>
    obtain ⟨hn', hI'⟩ := step_exchange hturns hserve hread hbreak ⟨hn, hI⟩ (hC label List.mem_cons_self)
    exact ih hn' hI' fun l hl => hC l (List.mem_cons_of_mem label hl)

end
end TradeInterfaces.Foundations.Exchanges
