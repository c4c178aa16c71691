import Uplink.Proofs.Affinity
import Uplink.Proofs.Literal

/-!
# Looking for the endpoints once

A manager looks for its endpoints when it is called for the first time, and never
again. What it finds then is final (`Manager.found?`): a failure is the answer to
every call, in either mode, and addresses keep their order for good.

So a run of operations has two parts. Up to the first call nothing happens but the
passing of time. From the first call on the manager knows what there is to know, and
no call has a reason to look anything up (`Manager.lookups_sendIn`). A lookup is
something that happens outside, and only a resolution does it: contacts are made with
addresses. Whether the one resolution needs a lookup depends on the host alone, since
an address is read from the URL (`lookups_resolveEndpoints`).
-/

namespace Uplink

/-- **What was looked up during a call.** -/
def Reply.lookups {σ ρ : Type} (r : Reply σ ρ) : List (String × UInt16) :=
  r.events.filterMap Event.lookup?

/-! ## One resolution -/

section Resolve

variable (url : Url) (settings : CommunicationSettings) (resolver : Resolver)
  (now : Instant) (r : Random)

/-- **A resolution looks up a name that is no address, and nothing else.** -/
theorem lookups_resolveEndpoints :
    (resolveEndpoints url settings resolver now r).events.filterMap Event.lookup? = []
      ∨ ∃ name, url.host? = some (.domain name) ∧ Url.literal? name = none
        ∧ (resolveEndpoints url settings resolver now r).events.filterMap Event.lookup?
          = [(String.ofList name, url.connectPort)] := by
  obtain ⟨_, eq⟩ | ⟨host, named, ⟨_, _, eq⟩ | ⟨literal, eq⟩⟩ :=
    resolveEndpoints_cases url settings resolver now r
  · rw [eq]
    exact .inl rfl
  · rw [eq, Resolved.events_ofAnswer]
    exact .inl rfl
  · -- the text of an address is read as this address, so a lookup means a name
    cases host with
    | v4 a => cases literal.symm.trans (Url.literal?_v4 a)
    | v6 a => cases literal.symm.trans (Url.literal?_v6 a)
    | domain name =>
      rw [eq, Resolved.events_ofAnswer]
      exact .inr ⟨name, named, literal, rfl⟩

variable {url settings resolver now r}

/-- Without addresses there is nothing to shuffle. -/
theorem EndpointSet.random_of_ofAddresses?_none {addresses : List IpAddr} {r' : Random}
    (h : ofAddresses? addresses settings now r = (none, r')) : r' = r := by
  unfold ofAddresses? arrange at h
  generalize distinct addresses = ds at h
  cases ds with
  | nil => exact (Prod.mk.inj h).2.symm
  | cons first others =>
    cases multi : settings.supportsMultiEndpoint with
    | true | false =>
      rw [multi] at h
      cases (Prod.mk.inj h).1

/-- An answer that is no set of endpoints draws no random words. -/
theorem Resolved.random_ofAnswer {name : String} {answer : Except Failure (List IpAddr)}
    {events : List Event} {f : Failure}
    (h : (ofAnswer settings now r name answer events).result = .error f) :
    (ofAnswer settings now r name answer events).random = r := by
  unfold ofAnswer at h ⊢
  cases answer with
  | error g => rfl
  | ok addresses =>
    dsimp only at h ⊢
    split at h
    · cases h
    · rename_i none
      exact EndpointSet.random_of_ofAddresses?_none none

/-- **A resolution that fails draws no random words.** -/
theorem random_resolveEndpoints {f : Failure}
    (h : (resolveEndpoints url settings resolver now r).result = .error f) :
    (resolveEndpoints url settings resolver now r).random = r := by
  obtain ⟨_, eq⟩ | ⟨host, _, ⟨_, _, eq⟩ | ⟨_, eq⟩⟩ :=
    resolveEndpoints_cases url settings resolver now r
  · rw [eq]
  · rw [eq] at h ⊢
    exact Resolved.random_ofAnswer h
  · rw [eq] at h ⊢
    exact Resolved.random_ofAnswer h

end Resolve

/-! ## One call -/

namespace Search

variable {σ : Type} (t : Transport σ) (q : Request)

/-- A contact is no lookup. -/
theorem lookups_contact (i : Nat) (e : Endpoint) (s : Search σ) :
    (s.contact t q i e).2.events.filterMap Event.lookup?
      = s.events.filterMap Event.lookup? :=
  List.filterMap_append.trans (List.append_nil _)

/-- **Visits look nothing up.** -/
theorem lookups_visits (vs : List Visit) (s : Search σ) :
    (s.visits t q vs).lookups = s.events.filterMap Event.lookup? := by
  induction vs generalizing s with
  | nil => exact congrArg (List.filterMap Event.lookup?) s.events_exhausted
  | cons v vs ih =>
    unfold visits
    cases step : s.visit t q v with
    | inl r =>
      cases visited_of_visit step with
      | cut => rfl
      | decided => exact lookups_contact t q v.position _ _
    | inr s' =>
      refine (ih s').trans ?_
      cases visited_of_visit step with
      | passed => rfl
      | refused => rfl
      | failed => exact lookups_contact t q v.position _ _

/-- **Nor do the attempts of an exhaustive call.** -/
theorem lookups_attempts (positions : List Nat) (s : Search σ) :
    (s.attempts t q positions).lookups = s.events.filterMap Event.lookup? := by
  induction positions generalizing s with
  | nil => rfl
  | cons i rest ih =>
    unfold attempts
    cases s.selection.endpoints.get? i with
    | none => exact ih s
    | some e =>
      have contact := lookups_contact t q i e s
      dsimp only
      cases (s.contact t q i e).1 with
      | ok r => exact contact
      | error f =>
        by_cases more : f.isConnectivity = true
        · dsimp only
          rw [if_pos more]
          exact (ih _).trans contact
        · dsimp only
          rw [if_neg more]
          exact contact

end Search

/-- **A selection looks nothing up**, in either mode. -/
theorem Selection.lookups_sendIn {σ : Type} (mode : Mode) (t : Transport σ) (q : Request)
    (s : Selection) (w : World σ) : (s.sendIn mode t q w).lookups = [] := by
  cases mode with
  | exhaustive => exact Search.lookups_attempts t q s.ordered.order (.start s.ordered w)
  | affinity =>
    show (s.send t q w).lookups = []
    unfold send
    split
    · rfl
    · exact Search.lookups_visits t q _ (.start (s.admitted w.now) w)

namespace Manager

variable {σ : Type} {v : Service σ} {m : Manager} {w : World σ}

/-- **What a manager has found out about its endpoints**: nothing before it has
looked, and then why there are none, or their addresses in order. -/
def found? : Manager → Option (Except Failure (List IpAddr))
  | unresolved => none
  | failed f => some (.error f)
  | ready s => some (.ok s.endpoints.addresses)

/-- **Only a resolution looks something up.** -/
theorem lookups_sendIn (v : Service σ) (mode : Mode) (q : Request) (m : Manager) (w : World σ) :
    (m.sendIn v mode q w).lookups = (m.resolve v w).2.1.filterMap Event.lookup? := by
  cases hm : (m.resolve v w).1 with
  | unresolved => exact absurd hm (resolve_ne_unresolved v m w)
  | failed f =>
    rw [sendIn_of_failed q hm]
    rfl
  | ready s =>
    have silent := Selection.lookups_sendIn mode v.transport q s (m.resolve v w).2.2
    rw [sendIn_of_ready q hm]
    exact List.filterMap_append.trans ((congrArg _ silent).trans (List.append_nil _))

/-- **A call ends with what its resolution has found.** -/
theorem found?_sendIn (v : Service σ) (mode : Mode) (q : Request) (m : Manager) (w : World σ) :
    (m.sendIn v mode q w).state.found? = (m.resolve v w).1.found? := by
  cases hm : (m.resolve v w).1 with
  | unresolved => exact absurd hm (resolve_ne_unresolved v m w)
  | failed f => rw [sendIn_of_failed q hm]
  | ready s =>
    rw [sendIn_of_ready q hm]
    have same := Selection.addresses_sendIn v.transport q s (m.resolve v w).2.2 mode
    exact congrArg (fun addresses => some (Except.ok addresses)) same

/-- A first resolution finds out what there is to find. -/
theorem found?_resolve (v : Service σ) (w : World σ) :
    (unresolved.resolve v w).1.found?
      = some ((resolveEndpoints v.url v.settings v.resolver w.now w.random).result.map
        EndpointSet.addresses) := by
  unfold resolve
  dsimp only
  cases (resolveEndpoints v.url v.settings v.resolver w.now w.random).result with
  | ok set => rfl
  | error f => rfl

/-- Whoever has looked does not look again. -/
theorem resolve_of_found? {x : Except Failure (List IpAddr)} (known : m.found? = some x) :
    m.resolve v w = (m, [], w) := by
  cases m with
  | unresolved => cases known
  | failed f => rfl
  | ready s => rfl

theorem eq_failed_of_found? {f : Failure} (known : m.found? = some (.error f)) :
    m = failed f := by
  cases m with
  | unresolved => cases known
  | failed g => exact congrArg failed (Except.error.inj (Option.some.inj known))
  | ready s => cases known

theorem addresses_of_found? {addresses : List IpAddr} (known : m.found? = some (.ok addresses)) :
    m.addresses = addresses := by
  cases m with
  | unresolved => cases known
  | failed g => cases known
  | ready s => exact Except.ok.inj (Option.some.inj known)

/-- A resolution without endpoints draws no random words, the first one as little as
those that only repeat its failure. -/
theorem random_resolve_of_failed {f : Failure} (failure : (m.resolve v w).1 = .failed f) :
    (m.resolve v w).2.2.random = w.random := by
  cases m with
  | failed g => rfl
  | ready s => rfl
  | unresolved =>
    unfold resolve at failure ⊢
    dsimp only at failure ⊢
    split at failure
    · cases failure
    · rename_i error
      exact random_resolveEndpoints error

/-- **A failure to find the endpoints is the answer to a call**, in either mode. Nobody
is contacted and nothing random happens. -/
theorem refused_sendIn (mode : Mode) (q : Request) {f : Failure}
    (failure : (m.resolve v w).1.found? = some (.error f)) :
    (m.sendIn v mode q w).result = .ok (.error f) ∧ (m.sendIn v mode q w).contacts = []
      ∧ (m.sendIn v mode q w).world.random = w.random := by
  have unlucky := eq_failed_of_found? failure
  refine ⟨?_, contacts_sendIn_of_failed q unlucky, ?_⟩
  · rw [sendIn_of_failed q unlucky]
  · rw [sendIn_of_failed q unlucky]
    exact random_resolve_of_failed unlucky

end Manager

/-! ## Runs -/

/-- Whether an operation is a call, in one of the modes. -/
def Operation.isCall : Operation → Bool
  | call .. => true
  | _ => false

namespace Scene

variable {σ : Type} {v : Service σ} {s : Scene σ}

/-- The replies of an operation that is a call. -/
def callsOf (v : Service σ) (s : Scene σ) : Operation → List (Reply σ Manager)
  | .call mode q => [s.call v mode q]
  | _ => []

/-- **The replies of a run's calls**, in order, whatever their mode. -/
def calls (v : Service σ) : List Operation → Scene σ → List (Reply σ Manager)
  | [], _ => []
  | op :: ops, s => s.callsOf v op ++ calls v ops (s.perform v op)

/-- **What was looked up during a run.** -/
def lookups (v : Service σ) (ops : List Operation) (s : Scene σ) : List (String × UInt16) :=
  (calls v ops s).flatMap Reply.lookups

theorem calls_append (v : Service σ) (ops ops' : List Operation) (s : Scene σ) :
    calls v (ops ++ ops') s = calls v ops s ++ calls v ops' (run v ops s) := by
  induction ops generalizing s with
  | nil => rfl
  | cons op ops ih =>
    show s.callsOf v op ++ calls v (ops ++ ops') _ = _ ++ calls v ops _ ++ _
    rw [ih, List.append_assoc]
    rfl

/-- **As long as nobody calls, nothing happens** but the passing of time. -/
theorem run_of_idle {idle : List Operation} (quiet : ∀ op ∈ idle, op.isCall = false)
    (s : Scene σ) : (run v idle s).manager = s.manager
      ∧ (run v idle s).world.random = s.world.random ∧ calls v idle s = [] := by
  induction idle generalizing s with
  | nil => exact ⟨rfl, rfl, rfl⟩
  | cons op idle ih =>
    have rest := ih (fun op' mem => quiet op' (List.mem_cons_of_mem op mem)) (s.perform v op)
    cases op with
    | call mode q => cases quiet _ List.mem_cons_self
    | status | order | wait ms => exact rest

/-- A run has a first call, or nobody calls. -/
theorem exists_first_call (ops : List Operation) : (∀ op ∈ ops, op.isCall = false)
    ∨ ∃ idle mode q rest, ops = idle ++ .call mode q :: rest
      ∧ ∀ op ∈ idle, op.isCall = false := by
  induction ops with
  | nil => exact .inl nofun
  | cons op ops ih =>
    match op with
    | .call mode q => exact .inr ⟨[], mode, q, ops, rfl, nofun⟩
    | .status | .order | .wait ms =>
      obtain quiet | ⟨idle, mode, q, rest, rfl, quiet⟩ := ih
      · exact .inl (List.forall_mem_cons.2 ⟨rfl, quiet⟩)
      · exact .inr ⟨_ :: idle, mode, q, rest, rfl, List.forall_mem_cons.2 ⟨rfl, quiet⟩⟩

/-- **What is found out is final**, for one operation. -/
theorem found?_perform {x : Except Failure (List IpAddr)} (known : s.manager.found? = some x)
    (op : Operation) : (s.perform v op).manager.found? = some x := by
  cases op with
  | call mode q =>
    refine (Manager.found?_sendIn v mode q s.manager s.world).trans ?_
    rw [Manager.resolve_of_found? known]
    exact known
  | status | order | wait ms => exact known

/-- **And for a run.** -/
theorem found?_run {x : Except Failure (List IpAddr)} (known : s.manager.found? = some x)
    (ops : List Operation) : (run v ops s).manager.found? = some x :=
  run_keeps (I := fun s => s.manager.found? = some x) found?_perform ops known

/-- **Nothing changes the addresses** of a manager that has looked for its
endpoints. -/
theorem addresses_perform (looked : s.manager ≠ .unresolved) (op : Operation) :
    (s.perform v op).manager.addresses = s.manager.addresses := by
  cases known : s.manager.found? with
  | none =>
    cases hm : s.manager with
    | unresolved => exact absurd hm looked
    | failed f | ready t =>
      rw [hm] at known
      cases known
  | some x =>
    have same := found?_perform (v := v) known op
    cases x with
    | error f =>
      rw [Manager.eq_failed_of_found? same, Manager.eq_failed_of_found? known]
    | ok addresses =>
      rw [Manager.addresses_of_found? same, Manager.addresses_of_found? known]

/-- **Once it is found out there are no lookups.** -/
theorem lookups_of_found? {x : Except Failure (List IpAddr)} (known : s.manager.found? = some x)
    (ops : List Operation) : lookups v ops s = [] := by
  induction ops generalizing s with
  | nil => rfl
  | cons op ops ih =>
    have rest := ih (found?_perform (v := v) known op)
    cases op with
    | call mode q =>
      have silent := Manager.lookups_sendIn v mode q s.manager s.world
      rw [Manager.resolve_of_found? known] at silent
      show (s.call v mode q).lookups ++ lookups v ops _ = []
      rw [rest, List.append_nil]
      exact silent
    | status | order | wait ms => exact rest

/-- **A failure to find the endpoints is the answer to all calls.** -/
theorem refused_calls {f : Failure} (known : s.manager.found? = some (.error f))
    (ops : List Operation) :
    (∀ r ∈ calls v ops s, r.result = .ok (.error f) ∧ r.contacts = [])
      ∧ (run v ops s).world.random = s.world.random := by
  induction ops generalizing s with
  | nil => exact ⟨nofun, rfl⟩
  | cons op ops ih =>
    have rest := ih (found?_perform (v := v) known op)
    cases op with
    | call mode q =>
      have failure : (s.manager.resolve v s.world).1.found? = some (.error f) := by
        rw [Manager.resolve_of_found? known]
        exact known
      obtain ⟨result, contacts, random⟩ := Manager.refused_sendIn mode q failure
      exact ⟨List.forall_mem_cons.2 ⟨⟨result, contacts⟩, rest.1⟩, rest.2.trans random⟩
    | status | order | wait ms => exact rest

section FirstCall

variable (v s) (mode : Mode) (q : Request)

/-- What a resolution finds in a scene. -/
def finding : Resolved :=
  resolveEndpoints v.url v.settings v.resolver s.world.now s.world.random

variable {s} (unasked : s.manager = .unresolved)
include unasked

/-- **The first call finds out what there is to find.** -/
theorem found?_first_call : (s.perform v (.call mode q)).manager.found?
    = some ((finding v s).result.map EndpointSet.addresses) := by
  refine (Manager.found?_sendIn v mode q s.manager s.world).trans ?_
  rw [unasked]
  exact Manager.found?_resolve v s.world

/-- **The lookups of a run are those of its first call.** -/
theorem lookups_first_call (rest : List Operation) :
    lookups v (.call mode q :: rest) s = (finding v s).events.filterMap Event.lookup? := by
  have later := lookups_of_found? (v := v) (found?_first_call v mode q unasked) rest
  have first := Manager.lookups_sendIn v mode q s.manager s.world
  rw [unasked] at first
  show (s.call v mode q).lookups ++ lookups v rest _ = _
  rw [later, List.append_nil, call, unasked]
  exact first

/-- **If the first call finds no endpoints, no call does anything.** -/
theorem refused_first_call (rest : List Operation) {f : Failure}
    (failure : (finding v s).result = .error f) :
    (∀ r ∈ calls v (.call mode q :: rest) s, r.result = .ok (.error f) ∧ r.contacts = [])
      ∧ (run v (.call mode q :: rest) s).world.random = s.world.random := by
  have known := found?_first_call v mode q unasked
  rw [failure] at known
  -- what the call ends with is what its own resolution has found
  have finds : (s.manager.resolve v s.world).1.found? = some (.error f) :=
    (Manager.found?_sendIn v mode q s.manager s.world).symm.trans known
  obtain ⟨result, contacts, random⟩ := Manager.refused_sendIn mode q finds
  obtain ⟨later, drawn⟩ := refused_calls (v := v) known rest
  exact ⟨List.forall_mem_cons.2 ⟨⟨result, contacts⟩, later⟩, drawn.trans random⟩

end FirstCall

/-- Up to its first call a history leaves the manager as it starts, and the calls are
those from there on. -/
theorem history_of_idle (v : Service σ) (w : World σ) {idle : List Operation}
    (quiet : ∀ op ∈ idle, op.isCall = false) (others : List Operation) :
    (history v idle w).manager = .unresolved ∧ (history v idle w).world.random = w.random
      ∧ calls v (idle ++ others) (start w) = calls v others (history v idle w) := by
  obtain ⟨unasked, drawn, silent⟩ := run_of_idle (v := v) quiet (start w)
  refine ⟨unasked, drawn, ?_⟩
  rw [calls_append, silent]
  rfl

/-- **What is looked up in a history** is what its first call looks up. -/
theorem lookups_history (v : Service σ) (w : World σ) {idle : List Operation}
    (quiet : ∀ op ∈ idle, op.isCall = false) (mode : Mode) (q : Request)
    (rest : List Operation) :
    lookups v (idle ++ .call mode q :: rest) (start w)
      = (finding v (history v idle w)).events.filterMap Event.lookup? := by
  obtain ⟨unasked, _, same⟩ := history_of_idle v w quiet (.call mode q :: rest)
  rw [← lookups_first_call v mode q unasked rest]
  exact congrArg (List.flatMap Reply.lookups) same

/-- **A history looks up a name that is no address, once, or nothing.** -/
theorem lookups_history_cases (v : Service σ) (ops : List Operation) (w : World σ) :
    lookups v ops (start w) = []
      ∨ ∃ name, v.url.host? = some (.domain name) ∧ Url.literal? name = none
        ∧ lookups v ops (start w) = [(String.ofList name, v.url.connectPort)] := by
  obtain quiet | ⟨idle, mode, q, rest, rfl, quiet⟩ := exists_first_call ops
  · have silent := (run_of_idle (v := v) quiet (start w)).2.2
    exact .inl (congrArg (List.flatMap Reply.lookups) silent)
  · rw [lookups_history v w quiet]
    exact lookups_resolveEndpoints v.url v.settings v.resolver _ _

/-- **Looking for the endpoints happens at most once, and what it finds is final.** In
every run at most one host is looked up, and none at all if the URL has no host, if its
host is an IPv4 address or an IPv6 address in brackets, or if it is a name that reads as
an address. The endpoints are looked for at the first call of the run, in either mode,
and not before. From then on, after every later operation, the manager knows just what
was found: the failure, or the addresses in their order. After a failure every call of
the run ends with this failure, nobody is ever contacted, and no random word is
drawn. -/
theorem resolution_is_final (v : Service σ) (ops : List Operation) (w₀ : World σ) :
    (lookups v ops (start w₀)).length ≤ 1
      ∧ ((∀ name, v.url.host? = some (.domain name) → Url.literal? name ≠ none) →
        lookups v ops (start w₀) = [])
      ∧ ∀ idle mode q rest, ops = idle ++ .call mode q :: rest →
        (∀ op ∈ idle, op.isCall = false) →
        let found := finding v (history v idle w₀)
        lookups v ops (start w₀) = found.events.filterMap Event.lookup?
          ∧ (∀ early late, rest = early ++ late →
            (history v (idle ++ .call mode q :: early) w₀).manager.found?
              = some (found.result.map EndpointSet.addresses))
          ∧ ∀ f, found.result = .error f →
            (∀ r ∈ calls v ops (start w₀), r.result = .ok (.error f) ∧ r.contacts = [])
              ∧ (history v ops w₀).world.random = w₀.random := by
  refine ⟨?_, fun literal => ?_, ?_⟩
  · obtain none | ⟨name, _, _, one⟩ := lookups_history_cases v ops w₀
    · rw [none]
      exact Nat.zero_le 1
    · rw [one]
      exact Nat.le_refl 1
  · obtain none | ⟨name, named, unread, _⟩ := lookups_history_cases v ops w₀
    · exact none
    · exact absurd unread (literal name named)
  · rintro idle mode q rest rfl quiet found
    obtain ⟨unasked, drawn, same⟩ := history_of_idle v w₀ quiet (.call mode q :: rest)
    refine ⟨lookups_history v w₀ quiet mode q rest, ?_, fun f failure => ?_⟩
    · rintro early late rfl
      unfold history
      rw [run_append]
      exact found?_run (found?_first_call v mode q unasked) early
    · obtain ⟨refused, kept⟩ := refused_first_call v mode q unasked rest failure
      unfold history
      rw [same, run_append]
      exact ⟨refused, kept.trans drawn⟩

/-- A name that nobody knows is asked for once, and both calls end with the same
failure. -/
example :
    let v := { Service.rehearsed with resolver := .ofTable [] }
    let ops := [.call .exhaustive .rehearsed, .wait 1000, .call .affinity .rehearsed]
    let unknown : Failure := .unknownHost "server" "not in static host table"
    lookups v ops (start (.rehearsed [])) = [("server", 80)]
      ∧ (calls v ops (start (.rehearsed []))).map Reply.result
        = [.ok (.error unknown), .ok (.error unknown)] := by
  decide +kernel

end Scene

end Uplink
