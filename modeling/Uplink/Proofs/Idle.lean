import Uplink.Proofs.Affinity
import Uplink.Proofs.Probing

/-!
# Idle endpoints

Nobody contacts an endpoint only to learn whether it still serves. It counts as
up for the fail period after it was last renewed, and then the next check puts
it down, although no request to it has failed. Such an endpoint is idle. A server
that answers everything is idle when requests are further apart than the fail
period, and so is an alternate that was never needed.

This is the only way in which an endpoint that serves can be missed. A call that
the breaker lets through visits every endpoint, and every endpoint that it does
not contact is in a down period at some instant of the call. A down period
begins only when the fail period is over. So if one endpoint answers whenever it
is contacted, and the others answer or fail for want of connectivity, the call
is answered, or that endpoint is idle.
-/

namespace Uplink

/-- An outcome that is no failure is an answer. -/
theorem Outcome.exists_of_isOk {o : Outcome} (h : o.isOk = true) : ∃ a, o = .ok a := by
  cases o with
  | ok a => exact ⟨a, rfl⟩
  | error f => cases h

/-- Whether an entry is a contact without an answer. -/
def Entry.isFailure : Entry → Bool
  | contact _ _ _ _ (.error _) => true
  | _ => false

/-- **An endpoint rests in a stretch of time**: it is down, and at an instant in
between its down period is not over. -/
def Endpoint.RestsWithin (start now : Instant) (e : Endpoint) : Prop :=
  ∃ since t, e.liveness = .down since ∧ t ≤ since + 1000 * e.downPeriod ∧ start ≤ t ∧ t ≤ now

namespace Search

/-- An endpoint that is refused rests. -/
theorem refusing_restsWithin (start : Instant) : Refusing start (Endpoint.RestsWithin start) where
  refused := by
    intro e e' now r r' begins check
    cases Endpoint.checked_of_check check with
    | @resting since down lasts =>
      exact ⟨since, now, down, Nat.sub_le_iff_le_add'.1 lasts, begins, Nat.le_refl now⟩
    | lapsed => exact ⟨now, now, rfl, Nat.le_add_right now _, begins, Nat.le_refl now⟩
  later := by
    intro e now now' later
    rintro ⟨since, t, down, lasts, begins, ends⟩
    exact ⟨since, t, down, lasts, begins, Nat.le_trans ends later⟩

variable {σ : Type} {t : Transport σ} {q : Request} {s₀ : Selection} {w : World σ}
  {trail : List Contact} {r : Reply σ Selection}

/-- **A call is answered, cut off, or an endpoint that serves rests.** An
exhausted call has visited every endpoint, and a contact with one that serves
would have decided it. -/
theorem Ending.answered_or_restsWithin (h : Ending t q s₀ w trail r)
    (others : ∀ c ∈ trail, (∃ a, c.outcome = .ok a) ∨ c.outcome.isConnectivity = true)
    {i : Nat} {e : Endpoint} (found : r.state.endpoints.get? i = some e)
    (serves : ∀ c ∈ trail, c.position = i → ∃ a, c.outcome = .ok a) :
    r.Answered ∨ (r.CutOff ∧ ∃ d ∈ r.state.endpoints.toList, ¬ d.InClock)
      ∨ e.RestsWithin w.now r.world.now := by
  cases h with
  | cut _ _ _ beyond outside reply =>
    rw [reply]
    exact .inr (.inl ⟨rfl, _, EndpointSet.mem_toList_of_get? beyond, outside⟩)
  | @decided _ _ _ before v _ _ e' _ o _ _ _ _ _ _ final last reply =>
    obtain ⟨a, rfl⟩ | more := others ⟨v.position, e'.address, o⟩
      (last ▸ List.mem_append_right before List.mem_cons_self)
    · exact .inl ⟨a, congrArg Reply.result reply⟩
    · cases final.symm.trans more
  | @exhausted _ s reached reply =>
    rw [reply, endpoints_exhausted] at found
    rw [reply, now_exhausted]
    obtain ⟨v, hv, rfl⟩ := exists_visit_of_get? (EndpointSet.size_eq_of_bare reached.bare) found
    have settled :=
      reached.passes.settledBy (refusing_restsWithin w.now) (Nat.le_refl w.now) v hv
    obtain contacted | rests := settled
    · -- no contact of an exhausted call was answered
      obtain ⟨c, hc, position⟩ := List.mem_map.1 ((reached.mem_contacted _).1 contacted)
      obtain ⟨a, answered⟩ := serves c hc position
      have failed := reached.failed c hc
      rw [answered] at failed
      cases failed
    · exact .inr (.inr (rests e found))

end Search

/-- The same of a call of the selection, told from its contacts. -/
theorem Selection.answered_or_restsWithin {σ : Type} (t : Transport σ) (q : Request)
    {s : Selection} {w : World σ} (closed : s.breaker = .closed)
    (others : ∀ c ∈ (s.send t q w).contacts, (∃ a, c.2 = .ok a) ∨ c.2.isConnectivity = true)
    {e : Endpoint} (member : e ∈ (s.send t q w).state.endpoints.toList)
    (serves : ∀ o, (e.address, o) ∈ (s.send t q w).contacts → ∃ a, o = .ok a) :
    (s.send t q w).Answered
      ∨ ((s.send t q w).CutOff ∧ ∃ d ∈ (s.send t q w).state.endpoints.toList, ¬ d.InClock)
      ∨ e.RestsWithin w.now (s.send t q w).world.now := by
  have passes : s.breaker.blocks w.now = false := by
    rw [closed]
    rfl
  obtain ⟨trail, ending⟩ := ending_send t q passes
  obtain ⟨i, found⟩ := List.mem_iff_getElem?.1 member
  rw [EndpointSet.getElem?_toList] at found
  rw [ending.forall_contacts_iff (p := fun o => (∃ a, o = .ok a) ∨ o.isConnectivity = true)]
    at others
  refine ending.answered_or_restsWithin others found ?_
  rintro c hc rfl
  exact serves c.outcome (ending.mem_contacts hc found)

/-- An endpoint that agrees with a log has a fail period that ends within the
clock, unless one that starts now does not. -/
theorem Endpoint.Agrees.later_eq_error {settings : CommunicationSettings} {log : List Entry}
    {now : Instant} {e : Endpoint} (h : e.Agrees settings log now) (outside : ¬ e.InClock) :
    now.later settings.failPeriod = .error .beyondRange := by
  refine if_neg fun inside => outside fun _ => Nat.lt_of_le_of_lt ?_ inside
  rw [h.failPeriod]
  exact Nat.div_le_div_right (Nat.add_le_add_right h.past _)

namespace Scene

variable {σ : Type}

/-- **A request is answered if an endpoint serves, unless that endpoint is
idle.** After every history that leaves the breaker closed, let every contact of
a call with affinity be answered or fail for want of connectivity, and let every
contact with the endpoint `e` be answered. Then the call is answered, or the
clock cuts it off, because it cannot show the end of a fail period that starts
when the call ends, or `e` is idle: it is down since an instant that lies the
fail period or more after it was last renewed, and at some instant of the call
this down period is not over. It does not matter whether other requests to `e`
have failed. -/
theorem answered_unless_idle (v : Service σ) (ops : List Operation) (w₀ : World σ)
    (q : Request) :
    let here := history v ops w₀
    let r := here.call v .affinity q
    here.manager.breaker = .closed →
    (∀ c ∈ r.contacts, (∃ a, c.2 = .ok a) ∨ c.2.isConnectivity = true) →
    ∀ s e, r.state = .ready s → e ∈ s.endpoints.toList →
      (∀ o, (e.address, o) ∈ r.contacts → ∃ a, o = .ok a) →
      r.Answered ∨ (r.CutOff ∧ r.world.now.later v.settings.failPeriod = .error .beyondRange)
        ∨ ∃ renewed since t,
          Entry.renewedAt? e.address (log v (ops ++ [.call .affinity q]) (start w₀)) = some renewed
            ∧ e.liveness = .down since ∧ renewed + 1000 * v.settings.failPeriod ≤ since
            ∧ since ≤ t ∧ t ≤ since + 1000 * e.downPeriod
            ∧ here.world.now ≤ t ∧ t ≤ r.world.now := by
  intro here r closed others s e state member serves
  have watched := watched_history v (ops ++ [.call .affinity q]) w₀
  rw [history_concat] at watched
  have watched : r.state.Watched v.settings (log v (ops ++ [.call .affinity q]) (start w₀))
      r.world.now := watched
  rw [state] at watched
  have agrees := EndpointSet.Watched.agrees watched
  cases hm : (here.manager.resolve v here.world).1 with
  | unresolved => exact absurd hm (Manager.resolve_ne_unresolved v here.manager here.world)
  | failed f =>
    have failed : r.state = .failed f := congrArg Reply.state (Manager.sendIn_of_failed q hm)
    cases failed.symm.trans state
  | ready s₁ =>
    have tells : r.Tells (s₁.send v.transport q (here.manager.resolve v here.world).2.2) :=
      Manager.tells_sendIn q hm
    have closed₁ : s₁.breaker = .closed := by
      rw [← closed, ← Manager.breaker_resolve v here.manager here.world, hm]
      rfl
    obtain rfl := Manager.ready.inj (tells.state.symm.trans state)
    rw [tells.contacts] at others serves
    obtain answered | ⟨cut, d, hd, outside⟩ | ⟨since, t, down, lasts, begins, ends⟩ :=
      Selection.answered_or_restsWithin v.transport q closed₁ others member serves
    · exact .inl (tells.answered_iff.2 answered)
    · refine .inr (.inl ⟨?_, (agrees d hd).later_eq_error outside⟩)
      rw [Reply.CutOff, tells.result]
      exact cut
    · obtain ⟨expired, already, _⟩ := (agrees e member).down since down
      rw [Manager.now_resolve] at begins
      rw [← tells.world] at ends
      -- the later of both instants is one of the call, and in the down period
      refine .inr (.inr ⟨e.lastSuccess, since, max since t, (agrees e member).renewed, down,
        expired, Nat.le_max_left since t, ?_, ?_, ?_⟩)
      · exact Nat.max_le.2 ⟨Nat.le_add_right since _, lasts⟩
      · exact Nat.le_trans begins (Nat.le_max_right since t)
      · exact Nat.max_le.2 ⟨already, ends⟩

/-- An alternate that was never tried takes over when the preferred endpoint
refuses after a while, because nobody has waited for the whole fail period. -/
theorem answered_unless_idle_rehearsed :
    let v := Service.rehearsed
    let q := Request.rehearsed
    let here := history v [.call .affinity q, .wait 299999]
      (.rehearsed [(.v4 ⟨10, 0, 0, 1⟩, [⟨.ok, 0⟩, ⟨.refuse, 0⟩]), (.v4 ⟨10, 0, 0, 2⟩, [⟨.ok, 0⟩])])
    let r := here.call v .affinity q
    r.contacts.map Prod.fst = [.v4 ⟨10, 0, 0, 1⟩, .v4 ⟨10, 0, 0, 2⟩] ∧ r.Answered := by
  intro v q here r
  refine ⟨by decide +kernel, ?_⟩
  have others : ∀ c ∈ r.contacts, c.2.isOk = true ∨ c.2.isConnectivity = true := by decide +kernel
  have serves : ∀ c ∈ r.contacts, c.1 = .v4 ⟨10, 0, 0, 2⟩ → c.2.isOk = true := by decide +kernel
  have alternate : r.state.addresses[1]? = some (.v4 ⟨10, 0, 0, 2⟩) := by decide +kernel
  have now : r.world.now = 299999 := by decide +kernel
  have failPeriod : 1000 * v.settings.failPeriod = 300000 := by decide
  cases hs : r.state with
  | unresolved | failed =>
    rw [hs] at alternate
    cases alternate
  | ready s =>
    rw [hs] at alternate
    obtain ⟨e, found, address⟩ := Option.map_eq_some_iff.1
      ((EndpointSet.getElem?_addresses s.endpoints 1).symm.trans alternate)
    obtain answered | ⟨_, beyond⟩ | ⟨renewed, since, t, _, _, expired, before, _, _, ends⟩ :=
      answered_unless_idle v [.call .affinity q, .wait 299999] _ q (by decide +kernel)
        (fun c hc => (others c hc).imp Outcome.exists_of_isOk id) s e hs
        (EndpointSet.mem_toList_of_get? found)
        fun o contact => Outcome.exists_of_isOk (serves _ contact address)
    · exact answered
    · rw [Instant.later_of_lt (by decide +kernel)] at beyond
      cases beyond
    · rw [failPeriod] at expired
      have early : renewed + 300000 ≤ 299999 :=
        now ▸ Nat.le_trans expired (Nat.le_trans before ends)
      exact absurd (Nat.le_trans (Nat.le_add_left 300000 renewed) early) (by decide)

/-- **An endpoint that answers everything may be refused.** The only endpoint of
a server answers a request, and nobody sends another one for the fail period.
The settings are valid, the breaker is closed, no contact has ever failed, and
the same request sent exhaustively would be answered now, but with affinity it
finds the service unavailable. -/
theorem idle_endpoint_is_refused :
    let v : Service Script := { Service.rehearsed with
      settings := {}
      resolver := ⟨fun _ _ => .ok [.v4 ⟨10, 0, 0, 1⟩]⟩ }
    let q := Request.rehearsed
    let w : World Script := .rehearsed [(.v4 ⟨10, 0, 0, 1⟩, [⟨.ok, 0⟩])]
    let ops := [.call .affinity q, .wait 300000]
    let here := history v ops w
    let r := here.call v .affinity q
    v.settings.validate = .ok ()
      ∧ here.manager.breaker = .closed
      ∧ here.manager.addresses = [.v4 ⟨10, 0, 0, 1⟩]
      ∧ (∀ entry ∈ log v ops (start w), entry.isFailure = false)
      ∧ (here.call v .exhaustive q).Answered
      ∧ r.result = .ok (.error .unavailable) := by
  intro v q w ops here r
  exact ⟨rfl, by decide +kernel, by decide +kernel, by decide +kernel,
    ⟨{ status := 200, body := Utf8.encode "ok".toList }, by decide +kernel⟩, by decide +kernel⟩

end Scene

end Uplink
