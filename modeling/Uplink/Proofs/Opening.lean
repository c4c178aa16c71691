import Uplink.Proofs.History

/-!
# When the breaker opens

The breaker stands for the belief that no endpoint serves, so it should open
when that was observed and at no other time. What observes it is a call with
affinity that goes through its whole plan: its contacts failed for want of
connectivity, and whoever it did not contact was found down. With a single
endpoint there is nothing to protect from being tried in vain, and the breaker
stays closed.

The main statement says this of every call after every history. The clock is the
only thing that can keep an exhausted call from opening the breaker: a call that
needs an instant the clock cannot show ends there.
-/

namespace Uplink

namespace Breaker

/-- **The window includes its end.** -/
theorem blocks_open_iff (since now : Instant) (period : Seconds) :
    (Breaker.open since period).blocks now = true ↔ now ≤ since + 1000 * period := by
  show (!decide (1000 * period < now - since)) = true ↔ _
  rw [Bool.not_eq_true', decide_eq_false_iff_not, Nat.not_lt, Nat.sub_le_iff_le_add']

/-- **The breaker is opened** for a period: it is not as before, and it is open
since now. -/
def Opened (before after : Breaker) (now : Instant) (period : Seconds) : Prop :=
  after ≠ before ∧ after = .open now period

instance (before after : Breaker) (now : Instant) (period : Seconds) :
    Decidable (Opened before after now period) :=
  inferInstanceAs (Decidable (_ ∧ _))

end Breaker

/-! ## One call of a selection -/

namespace Search.Ending

variable {σ : Type} {t : Transport σ} {q : Request} {s₀ : Selection} {w : World σ}
  {trail : List Contact} {r : Reply σ Selection}

/-- The contacts of the reply failed as those of the trail did. -/
theorem forall_contacts_iff (h : Ending t q s₀ w trail r) {p : Outcome → Prop} :
    (∀ c ∈ r.contacts, p c.2) ↔ ∀ c ∈ trail, p c.outcome := by
  rw [h.contacts]
  exact List.forall_mem_map

/-- A contact at a position is a contact with the address of the endpoint that
is there afterwards. -/
theorem mem_contacts (h : Ending t q s₀ w trail r) {c : Contact} (hc : c ∈ trail)
    {e : Endpoint} (found : r.state.endpoints.get? c.position = some e) :
    (e.address, c.outcome) ∈ r.contacts := by
  have address : c.address = e.address := by
    refine Option.some.inj ((h.located c hc).symm.trans ?_)
    rw [← EndpointSet.addresses_eq_of_bare h.bare, EndpointSet.getElem?_addresses, found]
    rfl
  rw [h.contacts, ← address]
  exact List.mem_map_of_mem hc

/-- **When the breaker opens, every endpoint failed in the call or is down.** -/
theorem Opened.down_or_failed (opened : Opened s₀ trail r) (h : Ending t q s₀ w trail r) :
    ∀ e ∈ r.state.endpoints.toList, e.isDown = true
      ∨ ∃ o, (e.address, o) ∈ r.contacts ∧ o.isConnectivity = true := by
  intro e he
  obtain ⟨i, hi⟩ := List.mem_iff_getElem?.1 he
  rw [EndpointSet.getElem?_toList] at hi
  refine (opened.settled i e hi).symm.imp id fun contacted => ?_
  obtain ⟨c, hc, rfl⟩ := List.mem_map.1 contacted
  exact ⟨c.outcome, h.mem_contacts hc hi, opened.failed c hc⟩

end Search.Ending

namespace Selection

variable {σ : Type} (t : Transport σ) (q : Request) (s : Selection) (w : World σ)

/-- **A call opens the breaker exactly if it is let through, there are
alternates, and every contact failed**, unless the clock cuts it off. -/
theorem opened_send_iff :
    (∃ period, Breaker.Opened s.breaker (s.send t q w).state.breaker
        (s.send t q w).world.now period)
      ↔ s.breaker.blocks w.now = false ∧ s.endpoints.alternates ≠ []
        ∧ (∀ c ∈ (s.send t q w).contacts, c.2.isConnectivity = true)
        ∧ ¬ (s.send t q w).CutOff := by
  cases blocked : s.breaker.blocks w.now with
  | true =>
    rw [send_of_blocks t q blocked]
    exact ⟨fun ⟨_, changed, _⟩ => absurd rfl changed, nofun⟩
  | false =>
    obtain ⟨trail, ending⟩ := ending_send t q blocked
    have alternates : (s.admitted w.now).endpoints.alternates = []
        ↔ s.endpoints.alternates = [] :=
      EndpointSet.alternates_eq_nil_iff_of_bare (bare_admitted s w.now)
    rw [ending.forall_contacts_iff (p := fun o => o.isConnectivity = true)]
    obtain opened | ⟨same, reason⟩ := ending.opened_or
    · obtain ⟨period, hp⟩ := opened.breaker
      refine ⟨fun _ => ⟨rfl, ?_, opened.failed, opened.completes⟩,
        fun _ => ⟨period, fun unchanged => ?_, hp⟩⟩
      · exact fun none => opened.alternates (alternates.2 none)
      · -- an open breaker that blocks no longer opened before the call did
        have blocks := (Breaker.blocks_open_iff (s.send t q w).world.now w.now period).2
          (Nat.le_trans ending.now_le (Nat.le_add_right _ _))
        rw [← hp, unchanged, blocked] at blocks
        cases blocks
    · refine ⟨fun ⟨period, _, hp⟩ => ?_, fun ⟨_, several, failed, completes⟩ => ?_⟩
      · rw [same, breaker_admitted] at hp
        cases hp
      · obtain cut | none | ⟨c, hc, decided⟩ := reason
        · exact absurd cut completes
        · exact absurd (alternates.1 none) several
        · rw [failed c hc] at decided
          cases decided

/-- **When a call opens the breaker, every endpoint failed in it or is down.** -/
theorem down_or_failed_of_opened
    (h : ∃ period, Breaker.Opened s.breaker (s.send t q w).state.breaker
      (s.send t q w).world.now period) :
    ∀ e ∈ (s.send t q w).state.endpoints.toList, e.isDown = true
      ∨ ∃ o, (e.address, o) ∈ (s.send t q w).contacts ∧ o.isConnectivity = true := by
  have passes := ((opened_send_iff t q s w).1 h).1
  obtain ⟨trail, ending⟩ := ending_send t q passes
  obtain opened | ⟨same, _⟩ := ending.opened_or
  · exact opened.down_or_failed ending
  · obtain ⟨period, _, hp⟩ := h
    rw [same, breaker_admitted] at hp
    cases hp

/-- The clock cuts a call off only for an endpoint whose fail period ends beyond
it. -/
theorem not_inClock_of_cutOff (h : (s.send t q w).CutOff) :
    ¬ (s.admitted w.now).endpoints.InClock := by
  cases blocked : s.breaker.blocks w.now with
  | true =>
    rw [send_of_blocks t q blocked] at h
    cases h
  | false =>
    obtain ⟨trail, ending⟩ := ending_send t q blocked
    obtain result | ⟨_, outside⟩ := ending.result
    · rw [Reply.CutOff, result] at h
      cases h
    · exact outside

end Selection

/-! ## Every call after every history -/

namespace Manager

variable {σ τ : Type}

/-- **Only a request with affinity touches the breaker.** -/
theorem breaker_perform (u : Service τ) (m : Manager) (w : World τ) {op : Operation}
    (h : op.isSend = false) : ((Scene.mk m w).perform u op).manager.breaker = m.breaker := by
  cases op with
  | status => rfl
  | order => rfl
  | wait ms => rfl
  | call mode q =>
    cases mode with
    | affinity => cases h
    | exhaustive =>
      show (m.sendIn u .exhaustive q w).state.breaker = m.breaker
      rw [← breaker_resolve u m w]
      cases hm : (m.resolve u w).1 with
      | unresolved => exact absurd hm (resolve_ne_unresolved u m w)
      | failed f =>
        rw [sendIn_of_failed q hm]
      | ready s =>
        rw [sendIn_of_ready q hm]
        exact (Selection.kept_sendAll u.transport q s (m.resolve u w).2.2).1.breaker

/-- **The breaker opens exactly when every endpoint has failed.** After every
history, a call with affinity opens the breaker if and only if the endpoints are
known, an open breaker does not stop the call, there are alternates, every
contact of the call (and there may be none) failed for want of connectivity, and
the clock does not cut the call off. When it opens, every endpoint was contacted
in this call and failed, or it is down. Nothing else that a manager is asked for
touches the breaker, and with a single endpoint it is never open. The clock cuts
a call off only if it cannot show the end of the fail period of an endpoint. -/
theorem opens_breaker_iff (v : Service σ) (ops : List Operation) (w₀ : World σ)
    (u : Service τ) (q : Request) (w : World τ) :
    let m := (Scene.history v ops w₀).manager
    let r := m.send u q w
    ((∃ period, Breaker.Opened m.breaker r.state.breaker r.world.now period)
        ↔ ∃ s, (m.resolve u w).1 = .ready s ∧ s.breaker.blocks w.now = false
          ∧ s.endpoints.alternates ≠ [] ∧ (∀ c ∈ r.contacts, c.2.isConnectivity = true)
          ∧ ¬ r.CutOff)
      ∧ ((∃ period, Breaker.Opened m.breaker r.state.breaker r.world.now period) →
        ∃ s, r.state = .ready s ∧ ∀ e ∈ s.endpoints.toList, e.isDown = true
          ∨ ∃ o, (e.address, o) ∈ r.contacts ∧ o.isConnectivity = true)
      ∧ (∀ op : Operation, op.isSend = false →
        ((Scene.mk m w).perform u op).manager.breaker = m.breaker)
      ∧ (∀ s, m = .ready s → s.endpoints.alternates = [] → s.breaker = .closed)
      ∧ (r.CutOff → ∃ s, (m.resolve u w).1 = .ready s
          ∧ ¬ (s.admitted w.now).endpoints.InClock) := by
  intro m r
  have sound : m.Sound v.settings := Scene.sound_history v ops w₀
  have others : ∀ op : Operation, op.isSend = false →
      ((Scene.mk m w).perform u op).manager.breaker = m.breaker :=
    fun op h => breaker_perform u m w h
  have single : ∀ s, m = .ready s → s.endpoints.alternates = [] → s.breaker = .closed := by
    intro s hs none
    by_cases closed : s.breaker = .closed
    · exact closed
    · exact absurd none ((sound s hs).guarded closed)
  have before : m.breaker = (m.resolve u w).1.breaker := (breaker_resolve u m w).symm
  cases hm : (m.resolve u w).1 with
  | unresolved => exact absurd hm (resolve_ne_unresolved u m w)
  | failed f =>
    have hr : r = ⟨.ok (.error f), (m.resolve u w).2.1, failed f, (m.resolve u w).2.2⟩ :=
      sendIn_of_failed q hm
    have closed : ¬ ∃ period,
        Breaker.Opened m.breaker r.state.breaker r.world.now period := by
      rintro ⟨period, _, hp⟩
      rw [hr] at hp
      cases hp
    refine ⟨⟨fun h => absurd h closed, fun ⟨s, hs, _⟩ => ?_⟩, fun h => absurd h closed, others,
      single, fun cut => ?_⟩
    · cases hs
    · rw [Reply.CutOff, hr] at cut
      cases cut
  | ready s =>
    have tells : r.Tells (s.send u.transport q (m.resolve u w).2.2) := tells_sendIn q hm
    have cutOff : r.CutOff ↔ (s.send u.transport q (m.resolve u w).2.2).CutOff := by
      rw [Reply.CutOff, tells.result]
      rfl
    have opened : (∃ period, Breaker.Opened m.breaker r.state.breaker r.world.now period)
        ↔ ∃ period, Breaker.Opened s.breaker
          (s.send u.transport q (m.resolve u w).2.2).state.breaker
          (s.send u.transport q (m.resolve u w).2.2).world.now period := by
      rw [before, hm, tells.state, tells.world]
      rfl
    rw [opened, cutOff, tells.contacts, ← now_resolve u m w]
    refine ⟨?_, fun h => ⟨_, tells.state, ?_⟩, others, single, fun cut => ?_⟩
    · rw [Selection.opened_send_iff]
      exact ⟨fun h => ⟨s, rfl, h⟩, fun ⟨_, hs, h⟩ => ready.inj hs ▸ h⟩
    · exact Selection.down_or_failed_of_opened u.transport q s _ h
    · exact ⟨s, rfl, Selection.not_inClock_of_cutOff u.transport q s _ cut⟩

end Manager

end Uplink
