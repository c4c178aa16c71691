import Uplink.Client
import Uplink.Http.Client
import Uplink.Proofs.Sweep

/-!
# Requests that cannot be sent

A request with an illegal header is refused before anything goes out. The refusal
is about the request and not about the endpoint, and every other endpoint would get
the same one. But it is reported as a failed connection to the address that was to
be asked, and failed connections are what makes a call go on. So one such request
goes through all endpoints without a word on the wire, and with alternates it opens
the breaker, which then stops the requests that could have been sent.

A URL without a host is refused as well, and that refusal is reported as what it
is. It ends the call.

What the client does at every attempt carries over to a call by a general lemma
(`Transport.Uniform`): it needs nothing of the order in which the endpoints are
visited.
-/

namespace Uplink

/-! ## What every attempt does -/

/-- **Every attempt does the same**: it keeps something about the world, which random
words have no part in, and then its outcome has a property. -/
structure Transport.Uniform {σ : Type} (t : Transport σ) (q : Request) (P : World σ → Prop)
    (Q : IpAddr → Outcome → Prop) : Prop where
  draw : ∀ {w : World σ} (random : Random), P w → P { w with random }
  ask : ∀ {w : World σ} (a : IpAddr), P w → Q a (t.ask q a w).1 ∧ P (t.ask q a w).2

namespace Transport.Uniform

variable {σ : Type} {t : Transport σ} {q : Request} {P : World σ → Prop}
  {Q : IpAddr → Outcome → Prop} (h : t.Uniform q P Q)
include h

/-- An attempt that follows such attempts is one of them. -/
theorem attempt {i : Nat} {e : Endpoint} {random : Random} {s : Search σ} (world : P s.world)
    (told : ∀ c ∈ s.events.filterMap Event.told?, Q c.1 c.2) :
    P (s.attempt t q i e random).2.world
      ∧ ∀ c ∈ (s.attempt t q i e random).2.events.filterMap Event.told?, Q c.1 c.2 := by
  have asked := h.ask e.address (h.draw random world)
  refine ⟨?_, fun c hc => ?_⟩
  · unfold Search.attempt
    rw [Search.asked_contact]
    exact asked.2
  · unfold Search.attempt at hc
    rw [Search.told_contact] at hc
    obtain hc | hc := List.mem_append.1 hc
    · exact told c hc
    · rw [List.mem_singleton.1 hc, Search.outcome_contact]
      exact asked.1

/-- **A call does what every attempt does.** -/
theorem visits (vs : List Visit) {s : Search σ} (world : P s.world)
    (told : ∀ c ∈ s.events.filterMap Event.told?, Q c.1 c.2) :
    P (s.visits t q vs).world ∧ ∀ c ∈ (s.visits t q vs).contacts, Q c.1 c.2 := by
  induction vs generalizing s with
  | nil =>
    refine ⟨?_, fun c hc => told c ?_⟩
    · show P s.exhausted.world
      unfold Search.exhausted
      split
      · exact world
      · exact h.draw _ world
    · rw [Reply.contacts, show (s.visits t q []).events = s.events from s.events_exhausted] at hc
      exact hc
  | cons v vs ih =>
    unfold Search.visits
    cases step : s.visit t q v with
    | inl r =>
      cases Search.visited_of_visit step with
      | cut => exact ⟨world, told⟩
      | decided => exact h.attempt world told
    | inr s' =>
      cases Search.visited_of_visit step with
      | passed => exact ih world told
      | refused => exact ih (h.draw _ world) told
      | failed =>
        obtain ⟨world, told⟩ := h.attempt world told
        exact ih world told

/-- So does a call with affinity, from its start. -/
theorem send (s : Selection) {w : World σ} (world : P w) :
    P (s.send t q w).world ∧ ∀ c ∈ (s.send t q w).contacts, Q c.1 c.2 := by
  unfold Selection.send
  split
  · exact ⟨world, fun c hc => absurd hc List.not_mem_nil⟩
  · exact h.visits _ world fun c hc => absurd hc List.not_mem_nil

end Transport.Uniform

/-! ## Refusals -/

namespace Http.Client

/-- **How a request with illegal headers fails** at an address. -/
def refusal (q : Request) (address : IpAddr) : Failure :=
  match q.url.host? with
  | none => .invalidUrl q.url.toString "missing host"
  | some _ => .connection address.toString "builder error"

/-- A refusal is taken for a failure of connectivity if the URL has a host. -/
theorem isConnectivity_refusal (q : Request) (address : IpAddr) :
    (refusal q address).isConnectivity = q.url.host?.isSome := by
  unfold refusal
  cases q.url.host? <;> rfl

variable {τ : Type} (c : Client) (net : Network τ) {q : Request}

/-- **A request with illegal headers is refused at once**, and nothing goes out. -/
theorem attempt_of_illegal (illegal : legalHeaders q = false) (address : IpAddr) (now : Instant)
    (p : Pool τ) :
    (c.attempt net q address now p).1 = ⟨.error (refusal q address), 0⟩
      ∧ (c.attempt net q address now p).2.network = p.network := by
  have unsendable : unsendable? q = some "builder error" := if_pos (by rw [illegal]; rfl)
  unfold attempt refusal
  rw [unsendable]
  cases q.url.host? <;> exact ⟨rfl, rfl⟩

/-- **Every attempt with such a request is a refusal**, which takes no time and
leaves the network alone. -/
theorem uniform_of_illegal (illegal : legalHeaders q = false) (now : Instant) (network : τ) :
    (c.transport net).Uniform q (fun w => w.now = now ∧ w.wire.network = network)
      (fun a o => o = .error (refusal q a)) where
  draw := fun _ here => here
  ask := by
    rintro w a ⟨hnow, hnetwork⟩
    obtain ⟨attempt, untouched⟩ := c.attempt_of_illegal net illegal a w.now w.wire
    have outcome : ((c.transport net).run q a w).1 = .error (refusal q a) :=
      congrArg Attempt.outcome attempt
    have delay : ((c.transport net).run q a w).2.now = w.now :=
      congrArg (fun attempt : Attempt => w.now + attempt.delay) attempt
    refine ⟨?_, ?_, ?_⟩
    · unfold Transport.ask
      rw [outcome]
      rfl
    · exact delay.trans hnow
    · exact untouched.trans hnetwork

end Http.Client

/-! ## Calls with such a request -/

namespace Selection

variable {τ : Type} (c : Http.Client) (net : Http.Network τ) {q : Request}
  (illegal : Http.Client.legalHeaders q = false) (s : Selection) (w : World (Http.Pool τ))
include illegal

/-- **A call with such a request is refused at every contact**, and nothing goes
out. -/
theorem refused_send :
    ((s.send (c.transport net) q w).world.now = w.now
        ∧ (s.send (c.transport net) q w).world.wire.network = w.wire.network)
      ∧ ∀ contact ∈ (s.send (c.transport net) q w).contacts,
        contact.2 = .error (Http.Client.refusal q contact.1) :=
  (c.uniform_of_illegal net illegal w.now w.wire.network).send s ⟨rfl, rfl⟩

/-- All contacts fail for want of connectivity, if there are any and the URL has a
host. -/
theorem forall_isConnectivity_iff_of_illegal :
    (∀ contact ∈ (s.send (c.transport net) q w).contacts, contact.2.isConnectivity = true)
      ↔ (q.url.host? = none → (s.send (c.transport net) q w).contacts = []) := by
  have refused := (refused_send c net illegal s w).2
  have connectivity : ∀ contact ∈ (s.send (c.transport net) q w).contacts,
      contact.2.isConnectivity = q.url.host?.isSome := by
    intro contact made
    rw [refused contact made]
    exact Http.Client.isConnectivity_refusal q contact.1
  cases host : q.url.host? with
  | some host =>
    rw [host] at connectivity
    exact iff_of_true connectivity nofun
  | none =>
    rw [host] at connectivity
    refine ⟨fun failed _ => List.eq_nil_iff_forall_not_mem.2 fun contact made => ?_,
      fun none contact made => ?_⟩
    · exact nomatch (connectivity contact made).symm.trans (failed contact made)
    · rw [none rfl] at made
      cases made

/-- **Without a host the first refusal ends the call.** -/
theorem length_contacts_le_of_illegal (none : q.url.host? = none) :
    (s.send (c.transport net) q w).contacts.length ≤ 1 := by
  have refused := (refused_send c net illegal s w).2
  have undecided := isConnectivity_dropLast_send (c.transport net) q s w
  generalize (s.send (c.transport net) q w).contacts = contacts at refused undecided ⊢
  match contacts with
  | [] | [_] => exact Nat.le_of_ble_eq_true rfl
  | first :: second :: rest =>
    have failed := undecided first List.mem_cons_self
    rw [refused first List.mem_cons_self] at failed
    have := (Http.Client.isConnectivity_refusal q first.1).symm.trans failed
    rw [none] at this
    cases this

end Selection

namespace Manager

variable {σ τ : Type}

theorem wire_resolve (v : Service σ) (m : Manager) (w : World σ) :
    (m.resolve v w).2.2.wire = w.wire := by
  cases m <;> rfl

/-- **One request that cannot be sent goes through all endpoints and opens the
breaker.** After every history, let a call with affinity find endpoints, let the
breaker let it through, and let a header of its request be illegal. Then every
contact is refused by the client: the call takes no time and nothing goes out. If
the URL has a host, the refusal is taken for a failure of connectivity, so the call
goes on to all endpoints, the result is such a failure if anybody was contacted, and
with alternates the breaker opens unless the clock cuts the call off. If the URL has
no host, the first refusal ends the call, and the breaker opens only if there was
none. When it opens, every endpoint was refused in this call or is down. -/
theorem illegal_request_fails_everywhere (v : Service σ) (ops : List Operation) (w₀ : World σ)
    (u : Service (Http.Pool τ)) (c : Http.Client) (net : Http.Network τ) (q : Request)
    (w : World (Http.Pool τ)) (illegal : Http.Client.legalHeaders q = false) :
    let u := { u with transport := c.transport net }
    let m := (Scene.history v ops w₀).manager
    let r := m.send u q w
    ∀ s, (m.resolve u w).1 = .ready s → s.breaker.blocks w.now = false →
      (∀ contact ∈ r.contacts, contact.2 = .error (Http.Client.refusal q contact.1))
      ∧ r.world.now = w.now ∧ r.world.wire.network = w.wire.network
      ∧ (¬ r.CutOff → r.contacts ≠ [] →
        ∃ f, r.result = .ok (.error f) ∧ f.isConnectivity = q.url.host?.isSome)
      ∧ (q.url.host? = none → r.contacts.length ≤ 1)
      ∧ ((∃ period, Breaker.Opened m.breaker r.state.breaker r.world.now period)
        ↔ s.endpoints.alternates ≠ [] ∧ (q.url.host? = none → r.contacts = []) ∧ ¬ r.CutOff)
      ∧ ((∃ period, Breaker.Opened m.breaker r.state.breaker r.world.now period) →
        ∃ s', r.state = .ready s' ∧ ∀ e ∈ s'.endpoints.toList,
          e.isDown = true ∨ (e.address, .error (Http.Client.refusal q e.address)) ∈ r.contacts) := by
  intro u m r s hm passes
  have tells : r.Tells (s.send (c.transport net) q (m.resolve u w).2.2) := tells_sendIn q hm
  have before : m.breaker = s.breaker := by
    rw [← breaker_resolve u m w, hm]
    rfl
  obtain ⟨⟨now, network⟩, refused⟩ := Selection.refused_send c net illegal s (m.resolve u w).2.2
  rw [← now_resolve u m w] at passes ⊢
  rw [← wire_resolve u m w]
  rw [Reply.CutOff, tells.result, tells.contacts, tells.world, tells.state, before]
  have opened := Selection.opened_send_iff (c.transport net) q s (m.resolve u w).2.2
  rw [Selection.forall_isConnectivity_iff_of_illegal c net illegal s (m.resolve u w).2.2] at opened
  refine ⟨refused, now, network, fun completes some => ?_,
    Selection.length_contacts_le_of_illegal c net illegal s _,
    opened.trans (and_iff_right passes), fun h => ⟨_, rfl, fun e he => ?_⟩⟩
  · obtain cut | ⟨result, _⟩ := Selection.result_send (c.transport net) q s (m.resolve u w).2.2
    · exact absurd cut completes
    · obtain ⟨contact, last⟩ := Option.isSome_iff_exists.1 (List.getLast?_isSome.2 some)
      refine ⟨Http.Client.refusal q contact.1, ?_, Http.Client.isConnectivity_refusal q contact.1⟩
      rw [result contact last, refused contact (List.mem_of_getLast? last)]
  · refine (Selection.down_or_failed_of_opened (c.transport net) q s _ h e he).imp id ?_
    rintro ⟨o, made, _⟩
    exact refused (e.address, o) made ▸ made

/-- Two addresses that have not been asked for anything are both contacted. -/
theorem illegal_request_fails_everywhere_rehearsed :
    let c : Http.Client := ⟨100, 1000⟩
    let u : Service (Http.Pool Unit) :=
      { Service.rehearsed with transport := c.transport .silent }
    let q := Request.rehearsed.setHeader tokenHeader "line\nbreak"
    let r := unresolved.send u q ⟨0, .cycle [], ⟨[], ()⟩⟩
    (∃ period, Breaker.Opened .closed r.state.breaker r.world.now period)
      ∧ ∀ contact ∈ r.contacts, contact.2 = .error (Http.Client.refusal q contact.1) := by
  intro c u q r
  obtain ⟨refused, _, _, _, _, opened, _⟩ := illegal_request_fails_everywhere u []
    ⟨0, .cycle [], ⟨[], ()⟩⟩ u c .silent q ⟨0, .cycle [], ⟨[], ()⟩⟩ (by decide +kernel)
    (.ofSet ⟨.new (.v4 ⟨10, 0, 0, 1⟩) u.settings 0, [.new (.v4 ⟨10, 0, 0, 2⟩) u.settings 0]⟩)
    (by decide +kernel) (by decide +kernel)
  refine ⟨opened.2 ⟨nofun, fun none => absurd none (by decide +kernel), ?_⟩, refused⟩
  show ¬ r.result = .error .beyondRange
  decide +kernel

/-- **A request that cannot be sent shuts out those that can.** Both endpoints
serve. A request whose token has a line break in it is refused at both, nothing goes
out, and the breaker opens. The next request could be sent and would have been
answered, but the service is unavailable to it. -/
theorem illegal_request_opens_breaker :
    let net : Http.Network Nat := ⟨fun _ _ n => (.head 200 [] none [], 0, n + 1)⟩
    let c : Http.Client := ⟨100, 1000⟩
    let v : Service (Http.Pool Nat) := { Service.rehearsed with transport := c.transport net }
    let here := Scene.history v [.call .exhaustive .rehearsed] ⟨0, .cycle [], ⟨[], 0⟩⟩
    let q := Request.rehearsed.setHeader tokenHeader "line\nbreak"
    let r := here.call v .affinity q
    Http.Client.legalHeaders q = false
      ∧ here.manager.breaker = .closed
      ∧ r.contacts.map Prod.fst = [.v4 ⟨10, 0, 0, 1⟩, .v4 ⟨10, 0, 0, 2⟩]
      ∧ r.result = .ok (.error (.connection "10.0.0.2" "builder error"))
      ∧ r.world.wire.network = here.world.wire.network
      ∧ r.state.breaker = .open 0 300
      ∧ ((Scene.after r).call v .affinity .rehearsed).result = .ok (.error .unavailable)
      ∧ (here.call v .affinity .rehearsed).Answered := by
  intro net c v here q r
  exact ⟨by decide +kernel, by decide +kernel, by decide +kernel, by decide +kernel,
    by decide +kernel, by decide +kernel, by decide +kernel,
    { status := 200 }, by decide +kernel⟩

end Manager

end Uplink
