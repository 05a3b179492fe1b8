import TradeInterfaces.Foundations.Exchanges

/-! What passes between client and server in a run. The network reorders messages, but where
client and server take turns they are looked at in the order they were sent in. -/
namespace TradeInterfaces.Foundations.Exchanges
open Runs (run run_snoc)

/-- The requests that are sent and looked at, and the responses that are sent and looked at. -/
structure Traffic (α β : Type) where
  asked : List α
  served : List α
  answered : List β
  read : List β

variable {σ τ α β ι κ ω : Type} (parties : Parties σ τ α β ι κ ω)

def Traffic.none : Traffic α β := ⟨[], [], [], []⟩

def Traffic.add (t u : Traffic α β) : Traffic α β :=
  ⟨t.asked ++ u.asked, t.served ++ u.served, t.answered ++ u.answered, t.read ++ u.read⟩

def passed (n : Net σ τ α β) : Label ι κ ω → Traffic α β
  | .read k calls =>
    match n.responses[k]? with
    | .none => .none
    | some response =>
      match parties.read n.client calls response with
      | .none => .none
      | some (_, sent) => ⟨sent, [], [], [response]⟩
  | .serve k calls =>
    match n.requests[k]? with
    | .none => .none
    | some request =>
      match parties.serve n.server calls request with
      | .none => .none
      | some (_, sent) => ⟨[], [request], sent, []⟩
  | _ => .none

/-- All that passes in a run. -/
def traffic (n : Net σ τ α β) (labels : List (Label ι κ ω)) : Traffic α β :=
  (labels.foldl (fun x label => (step parties x.1 label, x.2.add (passed parties x.1 label))) (n, Traffic.none)).2

theorem traffic_snoc (n : Net σ τ α β) (labels : List (Label ι κ ω)) (label : Label ι κ ω) :
    traffic parties n (labels ++ [label]) =
      (traffic parties n labels).add (passed parties (run (step parties) n labels) label) := by
  have hnet : (labels.foldl (fun x label => (step parties x.1 label, x.2.add (passed parties x.1 label)))
      (n, Traffic.none)).1 = run (step parties) n labels := by
    induction labels using List.reverseRecOn with
    | nil => rfl
    | append_singleton labels label ih => rw [List.foldl_concat, run_snoc, ih]
  rw [traffic, List.foldl_concat, hnet]
  rfl

/-- What one step does to the net, and what passes in it. -/
inductive Moves (n : Net σ τ α β) : Label ι κ ω → Net σ τ α β → Traffic α β → Prop
  | read {k : Nat} {calls : ι} {response : β} {client : σ} {sent : List α} (flying : n.responses[k]? = some response)
      (reads : parties.read n.client calls response = some (client, sent)) :
      Moves n (.read k calls) ⟨client, n.server, n.requests ++ sent, n.responses.eraseIdx k⟩ ⟨sent, [], [], [response]⟩
  | serve {k : Nat} {calls : κ} {request : α} {server : τ} {sent : List β} (flying : n.requests[k]? = some request)
      (serves : parties.serve n.server calls request = some (server, sent)) :
      Moves n (.serve k calls) ⟨n.client, server, n.requests.eraseIdx k, n.responses ++ sent⟩ ⟨[], [request], sent, []⟩
  | attend (other : ω) : Moves n (.attend other) { n with server := parties.attend n.server other } .none
  | breakOff : Moves n .breakOff { n with client := parties.breakOff n.client } .none
  | quiet {label : Label ι κ ω} {requests : List α} {responses : List β} (hrequests : requests.Sublist n.requests)
      (hresponses : responses.Sublist n.responses) : Moves n label ⟨n.client, n.server, requests, responses⟩ .none

theorem step_moves (n : Net σ τ α β) (label : Label ι κ ω) :
    Moves parties n label (step parties n label) (passed parties n label) := by
  have hstay : Moves parties n label n .none := .quiet (.refl _) (.refl _)
  cases label with
  | read k calls =>
    cases hk : n.responses[k]? with
    | none => simpa [step, passed, hk] using hstay
    | some response =>
      cases hr : parties.read n.client calls response with
      | none => simpa [step, passed, hk, hr] using hstay
      | some result => simpa [step, passed, hk, hr] using Moves.read hk hr
  | serve k calls =>
    cases hk : n.requests[k]? with
    | none => simpa [step, passed, hk] using hstay
    | some request =>
      cases hs : parties.serve n.server calls request with
      | none => simpa [step, passed, hk, hs] using hstay
      | some result => simpa [step, passed, hk, hs] using Moves.serve hk hs
  | loseRequest k => exact .quiet (List.eraseIdx_sublist _ _) (.refl _)
  | loseResponse k => exact .quiet (.refl _) (List.eraseIdx_sublist _ _)
  | attend other => exact .attend other
  | breakOff => exact .breakOff

section
variable {parties} {n : Net σ τ α β} {labels : List (Label ι κ ω)}

/-- The rule for one end: what the client makes of the responses it reads does not depend
on the rest of the net. -/
theorem run_client {I : σ → List α → List β → Prop}
    (hread : ∀ {s calls response s' sent asked read}, I s asked read →
      parties.read s calls response = some (s', sent) → I s' (asked ++ sent) (read ++ [response]))
    (hbreak : ∀ {s asked read}, I s asked read → I (parties.breakOff s) asked read) (h : I n.client [] []) :
    I (run (step parties) n labels).client (traffic parties n labels).asked (traffic parties n labels).read := by
  induction labels using List.reverseRecOn with
  | nil => exact h
  | append_singleton labels label ih =>
    have hmoves := step_moves parties (run (step parties) n labels) label
    rw [traffic_snoc, run_snoc]
    generalize passed parties (run (step parties) n labels) label = t at hmoves ⊢
    generalize step parties (run (step parties) n labels) label = n' at hmoves ⊢
    cases hmoves with
    | read flying reads => exact hread ih reads
    | serve flying serves => simpa [Traffic.add] using ih
    | attend other => simpa [Traffic.add, Traffic.none] using ih
    | breakOff => simpa [Traffic.add, Traffic.none] using hbreak ih
    | quiet hrequests hresponses => simpa [Traffic.add, Traffic.none] using ih

theorem run_server {I : τ → List α → List β → Prop}
    (hserve : ∀ {t calls request t' sent served answered}, I t served answered →
      parties.serve t calls request = some (t', sent) → I t' (served ++ [request]) (answered ++ sent))
    (hattend : ∀ {t other served answered}, I t served answered → I (parties.attend t other) served answered)
    (h : I n.server [] []) :
    I (run (step parties) n labels).server (traffic parties n labels).served
      (traffic parties n labels).answered := by
  induction labels using List.reverseRecOn with
  | nil => exact h
  | append_singleton labels label ih =>
    have hmoves := step_moves parties (run (step parties) n labels) label
    rw [traffic_snoc, run_snoc]
    generalize passed parties (run (step parties) n labels) label = t at hmoves ⊢
    generalize step parties (run (step parties) n labels) label = n' at hmoves ⊢
    cases hmoves with
    | read flying reads => simpa [Traffic.add] using ih
    | serve flying serves => exact hserve ih serves
    | attend other => simpa [Traffic.add, Traffic.none] using hattend ih
    | breakOff => simpa [Traffic.add, Traffic.none] using ih
    | quiet hrequests hresponses => simpa [Traffic.add, Traffic.none] using ih

end

/-- Messages are looked at in the order they were sent in and none of them twice, and the
responses that are read answer requests that were served, one each. -/
structure InOrder (answers : α → β → Prop) (sent : List α) (n : Net σ τ α β) (t : Traffic α β) : Prop where
  served : (t.served ++ n.requests).Sublist (sent ++ t.asked)
  read : (t.read ++ n.responses).Sublist t.answered
  matched : List.SublistForall₂ (flip answers) (t.read ++ n.responses) t.served

section
variable {parties} {last : σ → Option α} {answers : α → β → Prop} {I : σ → Prop} {C : κ → Prop}

theorem sublistForall₂_of_sublist {R : β → α → Prop} {fewer responses : List β} {requests : List α}
    (hfewer : fewer.Sublist responses) (h : List.SublistForall₂ R responses requests) :
    List.SublistForall₂ R fewer requests := by
  induction h generalizing fewer with
  | nil =>
    cases hfewer
    exact .nil
  | cons hR _ ih =>
    cases hfewer with
    | cons _ hfewer => exact .cons_right (ih hfewer)
    | cons_cons _ hfewer => exact .cons hR (ih hfewer)
  | cons_right _ ih => exact .cons_right (ih hfewer)

theorem sublistForall₂_imp {R S : β → α → Prop} {responses : List β} {requests : List α}
    (h : List.SublistForall₂ R responses requests)
    (hRS : ∀ response ∈ responses, ∀ request ∈ requests, R response request → S response request) :
    List.SublistForall₂ S responses requests := by
  induction h with
  | nil => exact .nil
  | cons hR _ ih =>
    refine .cons (hRS _ List.mem_cons_self _ List.mem_cons_self hR) (ih fun response hresponse request hrequest => ?_)
    exact hRS response (List.mem_cons_of_mem _ hresponse) request (List.mem_cons_of_mem _ hrequest)
  | cons_right _ ih =>
    exact .cons_right (ih fun response hresponse request hrequest =>
      hRS response hresponse request (List.mem_cons_of_mem _ hrequest))

theorem sublistForall₂_trans {R : β → α → Prop} {responses : List β} {requests more : List α}
    (h : List.SublistForall₂ R responses requests) (hmore : requests.Sublist more) :
    List.SublistForall₂ R responses more := by
  obtain ⟨matched, hR, hsub⟩ := List.sublistForall₂_iff.mp h
  exact List.sublistForall₂_iff.mpr ⟨matched, hR, hsub.trans hmore⟩

theorem sublistForall₂_append {R : β → α → Prop} {responses more : List β} {requests further : List α}
    (h : List.SublistForall₂ R responses requests) (hmore : List.SublistForall₂ R more further) :
    List.SublistForall₂ R (responses ++ more) (requests ++ further) := by
  obtain ⟨matched, hR, hsub⟩ := List.sublistForall₂_iff.mp h
  obtain ⟨matched', hR', hsub'⟩ := List.sublistForall₂_iff.mp hmore
  exact List.sublistForall₂_iff.mpr ⟨matched ++ matched', List.rel_append hR hR', hsub.append hsub'⟩

section
variable {sent : List α} {n : Net σ τ α β} {t : Traffic α β} (h : InOrder answers sent n t)
include h

/-- Nothing depends on the states, or on what is lost. -/
theorem InOrder.lose {client : σ} {server : τ} {requests : List α} {responses : List β}
    (hrequests : requests.Sublist n.requests) (hresponses : responses.Sublist n.responses) :
    InOrder answers sent ⟨client, server, requests, responses⟩ (t.add .none) := by
  have hserved : (t.served ++ requests).Sublist (t.served ++ n.requests) := (List.append_sublist_append_left _).mpr hrequests
  have hread : (t.read ++ responses).Sublist (t.read ++ n.responses) := (List.append_sublist_append_left _).mpr hresponses
  simp only [Traffic.add, Traffic.none, List.append_nil]
  exact ⟨hserved.trans h.served, hread.trans h.read, sublistForall₂_of_sublist hread h.matched⟩

theorem InOrder.read_one {response : β} {requests : List α} {client : σ} (hrequests : n.requests = [])
    (hresponses : n.responses = [response]) :
    InOrder answers sent ⟨client, n.server, requests, []⟩ (t.add ⟨requests, [], [], [response]⟩) := by
  obtain ⟨hserved, hread, hmatched⟩ := h
  rw [hrequests, List.append_nil] at hserved
  rw [hresponses] at hread hmatched
  simp only [Traffic.add, List.append_nil]
  refine ⟨?_, by simpa using hread, by simpa using hmatched⟩
  rw [← List.append_assoc]
  exact hserved.append (.refl _)

theorem InOrder.serve_one {request : α} {responses : List β} {server : τ} (hrequests : n.requests = [request])
    (hresponses : n.responses = []) (hanswers : List.SublistForall₂ (flip answers) responses [request]) :
    InOrder answers sent ⟨n.client, server, [], responses⟩ (t.add ⟨[], [request], responses, []⟩) := by
  obtain ⟨hserved, hread, hmatched⟩ := h
  rw [hrequests] at hserved
  rw [hresponses, List.append_nil] at hread hmatched
  simp only [Traffic.add, List.append_nil]
  exact ⟨by simpa using hserved, hread.append (.refl _), sublistForall₂_append hmatched hanswers⟩

end

private theorem eq_singleton {γ : Type} {l : List γ} {k : Nat} {x : γ} (hk : l[k]? = some x)
    (hl : l.length ≤ 1) :
    l = [x] := by
  obtain ⟨hlt, hx⟩ := List.getElem?_eq_some_iff.mp hk
  obtain ⟨y, rfl⟩ := List.length_eq_one_iff.mp (by omega : l.length = 1)
  rw [← hx, List.getElem_singleton]

/-- Where client and server take turns, messages keep their order. -/
theorem run_inOrder (hturns : TakesTurns parties last)
    (hserve : ∀ {s t calls request t' response}, I s → last s = some request → C calls →
      parties.serve t calls request = some (t', [response]) → answers request response)
    (hread : ∀ {s calls request response s' sent}, I s → last s = some request → answers request response →
      parties.read s calls response = some (s', sent) → I s')
    (hbreak : ∀ {s}, I s → I (parties.breakOff s)) {n : Net σ τ α β} {labels : List (Label ι κ ω)}
    (hn : Exchange last answers n) (hI : I n.client) (hC : ∀ label ∈ labels, Served C label)
    (hquiet : n.responses = []) :
    InOrder answers n.requests (run (step parties) n labels) (traffic parties n labels) := by
  induction labels using List.reverseRecOn with
  | nil =>
    refine ⟨by simp [traffic, Traffic.none], by simp [traffic, Traffic.none, hquiet], ?_⟩
    simp [traffic, Traffic.none, hquiet, List.SublistForall₂.nil]
  | append_singleton labels label ih =>
    have hbefore : ∀ label ∈ labels, Served C label := fun l hl => hC l (List.mem_append_left _ hl)
    obtain ⟨hn', hI'⟩ := run_exchange hturns hserve hread hbreak hn hI hbefore
    have hinOrder := ih hbefore
    have hlength := hn'.length_le
    have hmoves := step_moves parties (run (step parties) n labels) label
    rw [traffic_snoc, run_snoc]
    generalize passed parties (run (step parties) n labels) label = t at hmoves ⊢
    generalize step parties (run (step parties) n labels) label = n'' at hmoves ⊢
    cases hmoves with
    | read flying reads =>
      obtain ⟨hrequests, herase, _⟩ := hn'.response flying
      rw [hrequests, herase, List.nil_append]
      exact hinOrder.read_one hrequests (eq_singleton flying (by omega))
    | serve flying serves =>
      have hcalls := hC _ (List.mem_append_right _ List.mem_cons_self)
      obtain ⟨hresponses, herase, hlast⟩ := hn'.request flying
      rw [hresponses, herase, List.nil_append]
      refine hinOrder.serve_one (eq_singleton flying (by omega)) hresponses ?_
      rcases hturns.serve serves with rfl | ⟨response, rfl⟩
      · exact .nil
      · exact .cons (hserve hI' hlast hcalls serves) .nil
    | attend other => exact hinOrder.lose (.refl _) (.refl _)
    | breakOff => exact hinOrder.lose (.refl _) (.refl _)
    | quiet hrequests hresponses => exact hinOrder.lose hrequests hresponses

end
end TradeInterfaces.Foundations.Exchanges
