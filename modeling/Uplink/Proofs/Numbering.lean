import Uplink.Agent
import Uplink.Proofs.Classification
import Uplink.Proofs.Exchanges

/-!
# Numbered heartbeats

An agent numbers its heartbeats, and whoever reads the numbers at the server takes a
gap for a heartbeat that was lost. That reading is right only if nothing else makes
gaps or hides them: the number goes up with every heartbeat, also with one that fails
or is not even sent, it does not go up with a registration, and all endpoints that one
heartbeat is offered to are offered the same request.

Numbers are words, and heartbeats are counted. Which number belongs to which heartbeat
is therefore said of counts (`Deployment.exists_counts`), and that the words go up like
the counts is true until a count is no word any more.

What a heartbeat returns is settled four layers below, by the last endpoint that was
contacted. The layers are taken one at a time. A call of the manager is answered if and
only if its last contact is (`Manager.answered_iff`), whether the call went with
affinity or exhaustively, was stopped by the breaker or had no endpoints. What the
contact reports is the network's answer as it is judged, and the client and the agent
add nothing but the question whether the status is one of success. So both commands are
acknowledged under one condition on the answers of the network (`Acknowledged`).

Only the clock can keep a heartbeat from returning at all. It does so where the end of
an endpoint's fail period is beyond it, and never to a registration.
-/

namespace Uplink

/-! ## The last contact decides -/

/-- **A call with affinity is answered if its last contact is.** -/
theorem Search.Ending.answered_iff {σ : Type} {t : Transport σ} {q : Request} {s₀ : Selection}
    {w : World σ} {trail : List Contact} {r : Reply σ Selection} (h : Ending t q s₀ w trail r)
    (a : Response) :
    r.result = .ok (.ok a) ↔ ∃ address, r.contacts.getLast? = some (address, .ok a) := by
  rw [h.contacts, List.getLast?_map]
  constructor
  · intro answered
    obtain verdict | ⟨cut, _⟩ := h.result
    · rw [verdict, Except.ok.injEq] at answered
      unfold Uplink.verdict at answered
      cases last : trail.getLast? with
      | none =>
        rw [last] at answered
        cases answered
      | some c =>
        rw [last] at answered
        exact ⟨c.address, congrArg (fun o => some (c.address, o)) answered⟩
    · exact nomatch answered.symm.trans cut
  · rintro ⟨address, last⟩
    obtain ⟨c, found, told⟩ := Option.map_eq_some_iff.1 last
    obtain ⟨_, outcome⟩ := Prod.mk.inj told
    cases h with
    | cut reached =>
      have failed := reached.failed c (List.mem_of_getLast? found)
      rw [outcome] at failed
      cases failed
    | decided _ _ _ _ _ _ _ ends reply =>
      rw [ends, List.getLast?_concat, Option.some.injEq] at found
      rw [reply, ← outcome, ← found]
      rfl
    | exhausted reached =>
      have failed := reached.failed c (List.mem_of_getLast? found)
      rw [outcome] at failed
      cases failed

/-- **A call is answered if its last contact is**, in both modes. -/
theorem Selection.answered_iff {σ : Type} (mode : Mode) (t : Transport σ) (q : Request)
    (s : Selection) (w : World σ) (a : Response) :
    (s.sendIn mode t q w).result = .ok (.ok a)
      ↔ ∃ address, (s.sendIn mode t q w).contacts.getLast? = some (address, .ok a) := by
  cases mode with
  | affinity =>
    show (s.send t q w).result = _ ↔ ∃ address, (s.send t q w).contacts.getLast? = _
    cases blocked : s.breaker.blocks w.now with
    | true =>
      rw [send_of_blocks t q blocked]
      exact iff_of_false nofun nofun
    | false =>
      obtain ⟨trail, ending⟩ := ending_send t q blocked
      exact ending.answered_iff a
  | exhaustive =>
    show (s.sendAll t q w).result = _ ↔ ∃ address, (s.sendAll t q w).contacts.getLast? = _
    rw [contacts_sendAll, (s.account_sendAll t q w).result, Except.ok.injEq]
    unfold lastOutcome
    show (((t.sweep q s.exhaustiveOrder w).1.getLast?.map Prod.snd).getD _ = _) ↔ _
    cases (t.sweep q s.exhaustiveOrder w).1.getLast? with
    | none => exact iff_of_false nofun nofun
    | some c => exact ⟨fun answer => ⟨c.1, congrArg (fun o => some (c.1, o)) answer⟩,
        fun ⟨_, last⟩ => congrArg Prod.snd (Option.some.inj last)⟩

namespace Manager

variable {σ : Type} {v : Service σ} {q : Request} {m : Manager} {w : World σ} {mode : Mode}

/-- So is a call of a manager. -/
theorem answered_iff (a : Response) :
    (m.sendIn v mode q w).result = .ok (.ok a)
      ↔ ∃ address, (m.sendIn v mode q w).contacts.getLast? = some (address, .ok a) := by
  cases hm : (m.resolve v w).1 with
  | unresolved => exact absurd hm (resolve_ne_unresolved v m w)
  | failed f =>
    rw [contacts_sendIn_of_failed q hm, sendIn_of_failed q hm]
    exact iff_of_false nofun nofun
  | ready s =>
    have tells : (m.sendIn v mode q w).Tells _ := tells_sendIn q hm
    rw [tells.result, tells.contacts]
    exact s.answered_iff mode v.transport q _ a

/-- **The clock cuts a call off only with affinity**, and only where it cannot show the
end of a fail period. -/
theorem affinity_of_cutOff (cut : (m.sendIn v mode q w).CutOff) :
    mode = .affinity
      ∧ ∃ s, (m.resolve v w).1 = .ready s ∧ ¬ (s.admitted w.now).endpoints.InClock := by
  cases hm : (m.resolve v w).1 with
  | unresolved => exact absurd hm (resolve_ne_unresolved v m w)
  | failed f =>
    rw [Reply.CutOff, sendIn_of_failed q hm] at cut
    cases cut
  | ready s =>
    rw [Reply.CutOff, (tells_sendIn q hm).result] at cut
    cases mode with
    | affinity =>
      refine ⟨rfl, s, rfl, ?_⟩
      rw [← now_resolve v m w]
      exact Selection.not_inClock_of_cutOff v.transport q s _ cut
    | exhaustive => cases (s.account_sendAll v.transport q _).result.symm.trans cut

end Manager

/-! ## Acknowledgements -/

/-- **The last answer acknowledges**: it is there, its status is one of success, and it
does not deny the agent. -/
def Acknowledged (answers : List (IpAddr × Outcome)) : Prop :=
  ∃ a r, answers.getLast? = some (a, .ok r) ∧ (200 ≤ r.status ∧ r.status < 300) ∧ ¬ r.Denies

/-- What is judged to be an answer is one. -/
theorem Response.eq_of_judge {r r' : Response} {a : IpAddr} (h : r.judge a = .ok r') :
    r' = r ∧ ¬ r.Denies := by
  have judged := r.judged_judge a
  rw [h] at judged
  cases judged with
  | served _ admitted => exact ⟨rfl, admitted⟩

/-- A success that does not deny the agent is judged to be an answer. -/
theorem Response.judge_of_isSuccess {r : Response} (success : 200 ≤ r.status ∧ r.status < 300)
    (admitted : ¬ r.Denies) (a : IpAddr) : r.judge a = .ok r := by
  have judged := r.judged_judge a
  generalize r.judge a = o at judged ⊢
  cases judged with
  | unreachable h =>
    have small := success.2
    obtain status | status := h <;> rw [status] at small <;> exact absurd small (by decide)
  | denied h => exact absurd h admitted
  | served => rfl

theorem Response.isSuccess_iff (r : Response) :
    r.isSuccess = true ↔ 200 ≤ r.status ∧ r.status < 300 := by
  rw [isSuccess, Bool.and_eq_true, decide_eq_true_eq, decide_eq_true_eq]

/-- **A call that succeeds is one whose last answer acknowledges.** -/
theorem Manager.succeeded_iff {σ : Type} (v : Service σ) (mode : Mode) (q : Request)
    (m : Manager) (w : World σ) :
    (∃ r, (m.sendIn v mode q w).result = .ok (.ok r) ∧ r.isSuccess = true)
      ↔ Acknowledged (v.transport.askAll q (contacted (m.sendIn v mode q w).events) w).1 := by
  have told : (m.sendIn v mode q w).contacts = _ := (carries_sendIn v q m w mode).answers
  generalize v.transport.askAll q _ w = asked at told ⊢
  simp only [answered_iff, told, List.getLast?_map]
  constructor
  · rintro ⟨r, ⟨a, last⟩, success⟩
    obtain ⟨⟨b, o⟩, found, same⟩ := Option.map_eq_some_iff.1 last
    obtain ⟨rfl, judged⟩ := Prod.mk.inj same
    cases o with
    | error f => cases judged
    | ok answer =>
      obtain ⟨rfl, admitted⟩ := Response.eq_of_judge judged
      exact ⟨b, r, found, r.isSuccess_iff.1 success, admitted⟩
  · rintro ⟨a, r, last, success, admitted⟩
    refine ⟨r, ⟨a, ?_⟩, r.isSuccess_iff.2 success⟩
    rw [last]
    exact congrArg (fun o => some (a, o)) (Response.judge_of_isSuccess success admitted a)

/-! ## Commands -/

/-- **A command does what a call does**, outside and to the manager. -/
structure Command.Does {σ ρ : Type} (c : Command σ ρ) (r : Reply σ Manager) : Prop where
  events : c.events = r.events
  manager : c.manager = r.state
  world : c.world = r.world

/-- **What a command comes to.** Without a request nothing happens. Otherwise the
command does what a call of the manager does with its request, it carries this request
and no other, and it returns its value if and only if the last answer acknowledges. If
it does not return its value it is an error, unless the clock cuts the command off. -/
structure Command.Settled {σ ρ : Type} (v : Service σ) (mode : Mode)
    (request : Except Failure Request) (m : Manager) (w : World σ) (value : ρ)
    (c : Command σ ρ) : Prop where
  silent : ∀ f, request = .error f → c.Does ⟨.ok (.error f), [], m, w⟩
  calls : ∀ q, request = .ok q → c.Does (m.sendIn v mode q w)
  carries : ∀ q, request = .ok q → Carries v.transport q w c.events c.world
  returns : c.result = .ok (.ok value) ↔ ∃ q, request = .ok q
    ∧ Acknowledged (v.transport.askAll q (contacted c.events) w).1
  otherwise : c.result = .ok (.ok value) ∨ (∃ e, c.result = .ok (.error e))
    ∨ c.result = .error .beyondRange ∧ ∃ s, (m.resolve v w).1 = .ready s
      ∧ ¬ (s.admitted w.now).endpoints.InClock

/-- **A command asks for success alone**: an answer with a status of success gives its
value, and whatever else comes of its call is an error. -/
structure Command.Concludes {ρ : Type} (finish : Outcome → Except CommandError ρ)
    (value : ρ) : Prop where
  failed : ∀ f, ∃ e, finish (.error f) = .error e
  refused : ∀ r, r.isSuccess = false → ∃ e, finish (.ok r) = .error e
  accepted : ∀ r, r.isSuccess = true → finish (.ok r) = .ok value

section Concludes

variable {ρ : Type} {finish : Outcome → Except CommandError ρ} {value : ρ}
  (h : Command.Concludes finish value) (o : Except ClockOverflow Outcome)
include h

/-- Its value comes from a success. -/
theorem Command.Concludes.ok_iff :
    o.map finish = .ok (.ok value) ↔ ∃ r, o = .ok (.ok r) ∧ r.isSuccess = true := by
  constructor
  · intro finished
    cases o with
    | error overflow => cases finished
    | ok o =>
      have finished : finish o = .ok value := Except.ok.inj finished
      cases o with
      | error f =>
        obtain ⟨e, failed⟩ := h.failed f
        cases failed.symm.trans finished
      | ok r =>
        refine ⟨r, rfl, (Bool.eq_false_or_eq_true _).resolve_right fun refusal => ?_⟩
        obtain ⟨e, refused⟩ := h.refused r refusal
        cases refused.symm.trans finished
  · rintro ⟨r, rfl, success⟩
    exact congrArg Except.ok (h.accepted r success)

/-- Without its value it is an error, or its call was cut off. -/
theorem Command.Concludes.cases : o.map finish = .ok (.ok value)
    ∨ (∃ e, o.map finish = .ok (.error e)) ∨ o = .error .beyondRange := by
  cases o with
  | error overflow => exact .inr (.inr rfl)
  | ok o =>
    cases o with
    | error f =>
      obtain ⟨e, failed⟩ := h.failed f
      exact .inr (.inl ⟨e, congrArg Except.ok failed⟩)
    | ok r =>
      obtain success | refusal := Bool.eq_false_or_eq_true r.isSuccess
      · exact .inl (congrArg Except.ok (h.accepted r success))
      · obtain ⟨e, refused⟩ := h.refused r refusal
        exact .inr (.inl ⟨e, congrArg Except.ok refused⟩)

end Concludes

/-- **Such a command is settled by its call.** -/
theorem Command.settled_of_call {σ ρ : Type} {v : Service σ} {mode : Mode}
    {request : Except Failure Request} {m : Manager} {w : World σ} {value : ρ}
    {c : Command σ ρ} {finish : Outcome → Except CommandError ρ}
    (h : Command.Concludes finish value)
    (result : c.result = (Client.call v mode request m w).result.map finish)
    (does : c.Does (Client.call v mode request m w)) :
    c.Settled v mode request m w value := by
  cases request with
  | error f =>
    obtain ⟨e, failed⟩ := h.failed f
    have result : c.result = .ok (.error e) := result.trans (congrArg Except.ok failed)
    refine ⟨fun _ same => Except.error.inj same ▸ does, nofun, nofun, ?_, .inr (.inl ⟨e, result⟩)⟩
    rw [result]
    exact iff_of_false nofun nofun
  | ok q =>
    have result : c.result = (m.sendIn v mode q w).result.map finish := result
    have does : c.Does (m.sendIn v mode q w) := does
    refine ⟨nofun, fun _ same => Except.ok.inj same ▸ does, fun _ same => ?_, ?_, ?_⟩
    · obtain rfl := Except.ok.inj same
      rw [does.events, does.world]
      exact Manager.carries_sendIn v q m w mode
    · rw [result, h.ok_iff, Manager.succeeded_iff, does.events]
      exact ⟨fun acknowledged => ⟨q, rfl, acknowledged⟩,
        fun ⟨_, same, acknowledged⟩ => Except.ok.inj same ▸ acknowledged⟩
    · obtain returned | failed | cut := h.cases (m.sendIn v mode q w).result
      · exact .inl (result.trans returned)
      · exact .inr (.inl (failed.imp fun _ => result.trans))
      · refine .inr (.inr ⟨?_, (Manager.affinity_of_cutOff cut).2⟩)
        rw [result, cut]
        rfl

/-- A request to post has the parameters that it is made with. -/
theorem Client.params_of_postRequest {c : Client} {path : String}
    {params : List (String × String)} {q : Request} (made : c.postRequest path params = .ok q) :
    q.params = Fields.empty.setAll params := by
  unfold postRequest request at made
  cases url : c.urlFor path with
  | error f =>
    rw [url] at made
    cases made
  | ok u =>
    rw [url] at made
    obtain rfl := Except.ok.inj made
    rfl

/-- **A heartbeat is settled** as the number it takes. -/
theorem Agent.settled_ping {σ : Type} (v : Service σ) (time : String) (a : Agent) (m : Manager)
    (w : World σ) :
    (a.ping v time m w).Settled v .affinity
      (a.client.postRequest pingPath
        [("agentToken", a.token), ("sequence", toString (a.sequence + 1)), ("sentAt", time)])
      m w (a.sequence + 1) := by
  refine Command.settled_of_call (Command.Concludes.mk ?_ ?_ ?_) rfl ⟨rfl, rfl, rfl⟩
  · exact fun f => ⟨.failed "Heartbeat" f, rfl⟩
  · exact fun r refusal => ⟨.unacknowledged (a.sequence + 1) r.status,
      if_neg (Bool.eq_false_iff.1 refusal)⟩
  · exact fun r success => if_pos success

/-- **A registration is settled** in the same way. -/
theorem Agent.settled_register {σ : Type} (v : Service σ) (time : String) (a : Agent)
    (m : Manager) (w : World σ) :
    (a.register v time m w).Settled v .exhaustive
      (a.client.postRequest registerPath
        [("agentName", a.name), ("agentToken", a.token), ("registeredAt", time)])
      m w () := by
  refine Command.settled_of_call (Command.Concludes.mk ?_ ?_ ?_) rfl ⟨rfl, rfl, rfl⟩
  · exact fun f => ⟨.failed "Registration" f, rfl⟩
  · exact fun r refusal => ⟨.rejected r.status r.text, if_neg (Bool.eq_false_iff.1 refusal)⟩
  · exact fun r success => if_pos success

/-- **A registration always returns**: the clock does not cut an exhaustive call off. -/
theorem Agent.register_returns {σ : Type} (v : Service σ) (time : String) (a : Agent)
    (m : Manager) (w : World σ) :
    (a.register v time m w).result ≠ .error .beyondRange := by
  unfold register Client.call
  intro cut
  cases request : a.client.postRequest registerPath
      [("agentName", a.name), ("agentToken", a.token), ("registeredAt", time)] with
  | error f =>
    simp only [request] at cut
    cases cut
  | ok q =>
    simp only [request] at cut
    cases result : (m.sendIn v .exhaustive q w).result with
    | error o =>
      have cut : (m.sendIn v .exhaustive q w).CutOff := result
      exact nomatch (Manager.affinity_of_cutOff cut).1
    | ok o =>
      rw [result] at cut
      cases cut

/-! ## Runs -/

/-- **What can happen around an agent**: its own commands, and whatever else happens to
the manager that it shares with other clients. -/
inductive Action where
  | ping (time : String)
  | register (time : String)
  | other (op : Operation)

/-- Whether an action is a heartbeat. -/
def Action.isPing : Action → Bool
  | ping _ => true
  | _ => false

/-- **An agent in its scene.** -/
structure Deployment (σ : Type) where
  agent : Agent
  scene : Scene σ

namespace Deployment

variable {σ : Type}

/-- A heartbeat of the agent. -/
def ping (v : Service σ) (time : String) (d : Deployment σ) : Command σ UInt64 :=
  d.agent.ping v time d.scene.manager d.scene.world

/-- A registration of the agent. -/
def register (v : Service σ) (time : String) (d : Deployment σ) : Command σ Unit :=
  d.agent.register v time d.scene.manager d.scene.world

/-- What a command leaves. -/
def after {ρ : Type} (c : Command σ ρ) : Deployment σ :=
  ⟨c.agent, ⟨c.manager, c.world⟩⟩

/-- **One action.** -/
def perform (v : Service σ) (d : Deployment σ) : Action → Deployment σ
  | .ping time => after (d.ping v time)
  | .register time => after (d.register v time)
  | .other op => { d with scene := d.scene.perform v op }

/-- **A run of actions.** -/
def run (v : Service σ) (actions : List Action) (d : Deployment σ) : Deployment σ :=
  actions.foldl (perform v) d

/-- The number that an action returns, if it is a heartbeat that returns one. -/
def returned? (v : Service σ) (d : Deployment σ) : Action → Option UInt64
  | .ping time =>
    match (d.ping v time).result with
    | .ok (.ok n) => some n
    | _ => none
  | _ => none

/-- **The numbers that a run returns**, in their order. -/
def returned (v : Service σ) : List Action → Deployment σ → List UInt64
  | [], _ => []
  | a :: rest, d => (d.returned? v a).toList ++ returned v rest (d.perform v a)

/-- An action changes nothing about the agent but its number, which goes up with a
heartbeat, whatever comes of it. -/
theorem agent_perform (v : Service σ) (d : Deployment σ) (a : Action) :
    (d.perform v a).agent
      = { d.agent with sequence := d.agent.sequence + if a.isPing then 1 else 0 } := by
  have kept : d.agent = { d.agent with sequence := d.agent.sequence + 0 } := by
    rw [UInt64.add_zero]
  cases a with
  | ping => rfl
  | register => exact kept
  | other => exact kept

/-- **A run counts its heartbeats**, in words. -/
theorem agent_run (v : Service σ) (actions : List Action) (d : Deployment σ) :
    (d.run v actions).agent
      = { d.agent with
          sequence := d.agent.sequence + .ofNat (actions.countP Action.isPing) } := by
  induction actions generalizing d with
  | nil =>
    show d.agent = { d.agent with sequence := d.agent.sequence + 0 }
    rw [UInt64.add_zero]
  | cons a rest ih =>
    show ((d.perform v a).run v rest).agent = _
    rw [ih, agent_perform, List.countP_cons]
    cases a.isPing <;> simp [UInt64.ofNat_add, UInt64.add_assoc, UInt64.add_comm]

/-- A heartbeat returns the number it takes, or none. -/
theorem eq_of_ping_returns {v : Service σ} {time : String} {d : Deployment σ} {n : UInt64}
    (h : (d.ping v time).result = .ok (.ok n)) : n = d.agent.sequence + 1 := by
  have returned : (d.ping v time).result = .ok (.ok (d.agent.sequence + 1)) := by
    obtain returned | ⟨e, failed⟩ | ⟨cut, _⟩ :=
      (Agent.settled_ping v time d.agent d.scene.manager d.scene.world).otherwise
    · exact returned
    · exact nomatch failed.symm.trans h
    · exact nomatch cut.symm.trans h
  exact Except.ok.inj (Except.ok.inj (h.symm.trans returned))

/-- **Only a heartbeat returns a number**, and it is the next one. -/
theorem eq_of_returned? {v : Service σ} {d : Deployment σ} {a : Action} {n : UInt64}
    (h : d.returned? v a = some n) : a.isPing = true ∧ n = d.agent.sequence + 1 := by
  cases a with
  | register => cases h
  | other => cases h
  | ping time =>
    unfold returned? at h
    dsimp only at h
    split at h
    · rename_i n' result
      obtain rfl := Option.some.inj h
      exact ⟨rfl, eq_of_ping_returns result⟩
    · cases h

/-- **What a run returns are counts of heartbeats, in order**: with `n` heartbeats before
it, those that it returns stand for counts above `n`, up to that of its last one. -/
theorem exists_counts (v : Service σ) (actions : List Action) (d : Deployment σ) (n : Nat)
    (count : d.agent.sequence = .ofNat n) :
    ∃ counts : List Nat, counts.Pairwise (· < ·)
      ∧ (∀ k ∈ counts, n < k ∧ k ≤ n + actions.countP Action.isPing)
      ∧ d.returned v actions = counts.map .ofNat := by
  induction actions generalizing d n with
  | nil => exact ⟨[], .nil, nofun, rfl⟩
  | cons a rest ih =>
    have next : (d.perform v a).agent.sequence = .ofNat (n + if a.isPing then 1 else 0) := by
      rw [agent_perform, UInt64.ofNat_add, ← count]
      cases a.isPing <;> rfl
    obtain ⟨counts, ordered, within, numbers⟩ := ih (d.perform v a) _ next
    rw [List.countP_cons]
    unfold returned
    cases h : d.returned? v a with
    | none =>
      refine ⟨counts, ordered, fun k hk => ?_, numbers⟩
      have := within k hk
      omega
    | some m =>
      obtain ⟨ping, own⟩ := eq_of_returned? h
      simp only [ping, if_true] at within ⊢
      refine ⟨(n + 1) :: counts, List.pairwise_cons.2 ⟨fun k hk => (within k hk).1, ordered⟩,
        ?_, ?_⟩
      · rintro k (_ | ⟨_, hk⟩)
        · omega
        · have := within k hk
          omega
      · rw [numbers, own, count, List.map_cons, UInt64.ofNat_add]
        rfl

/-- **Words go up like the counts they stand for**, as long as every count is a word. -/
theorem pairwise_ofNat {counts : List Nat} (ordered : counts.Pairwise (· < ·))
    (words : ∀ k ∈ counts, k < UInt64.size) : (counts.map UInt64.ofNat).Pairwise (· < ·) := by
  refine List.pairwise_map.2 (ordered.imp_of_mem fun {k l} hk hl below => ?_)
  rw [UInt64.lt_iff_toNat_lt, UInt64.toNat_ofNat_of_lt' (words k hk),
    UInt64.toNat_ofNat_of_lt' (words l hl)]
  exact below

/-- **Heartbeats are numbered.** After any run of an agent that is new, the next
heartbeat takes the next number, counted over all heartbeats of the run, whatever comes
of it. It is a call with affinity: all that it sends is one request with this number and
the agent's token, and it returns this number if and only if the last answer
acknowledges. A registration is an exhaustive call that returns under the same condition
and leaves the agent as it is. The number is the count itself as long as this is a word,
and starts again at zero after that. The numbers that a run returns stand for counts
that go up, and with fewer heartbeats than there are words they go up themselves. -/
theorem heartbeats_are_numbered (v : Service σ) (client : Client) (name token : String)
    (scene : Scene σ) (actions : List Action) :
    let start : Deployment σ := ⟨.ofClient client name token, scene⟩
    let d := start.run v actions
    let pings := actions.countP Action.isPing
    let number := UInt64.ofNat (pings + 1)
    d.agent = ⟨client, name, token, .ofNat pings⟩
      ∧ (∀ time,
        let request := client.postRequest Agent.pingPath
          [("agentToken", token), ("sequence", toString number), ("sentAt", time)]
        (d.ping v time).agent = { d.agent with sequence := number }
          ∧ (∀ q, request = .ok q → q.params.get? "sequence" = some (toString number)
            ∧ q.params.get? "agentToken" = some token)
          ∧ (d.ping v time).Settled v .affinity request d.scene.manager d.scene.world number
          ∧ ∀ n, (d.ping v time).result = .ok (.ok n) → n = number)
      ∧ (∀ time,
        let request := client.postRequest Agent.registerPath
          [("agentName", name), ("agentToken", token), ("registeredAt", time)]
        (d.register v time).agent = d.agent
          ∧ (d.register v time).Settled v .exhaustive request d.scene.manager d.scene.world ()
          ∧ (d.register v time).result ≠ .error .beyondRange)
      ∧ (pings + 1 < UInt64.size →
        number.toNat = pings + 1 ∧ toString number = toString (pings + 1))
      ∧ (∃ counts : List Nat, counts.Pairwise (· < ·) ∧ (∀ k ∈ counts, 1 ≤ k ∧ k ≤ pings)
        ∧ start.returned v actions = counts.map .ofNat)
      ∧ (pings < UInt64.size → (start.returned v actions).Pairwise (· < ·)) := by
  intro start d pings number
  have agent : d.agent = ⟨client, name, token, .ofNat pings⟩ := by
    rw [agent_run]
    exact congrArg (Agent.mk client name token) (UInt64.zero_add _)
  have next : d.agent.sequence + 1 = number := by
    rw [agent]
    exact (UInt64.ofNat_add pings 1).symm
  obtain ⟨counts, ordered, within, numbers⟩ := exists_counts v actions start 0 rfl
  rw [Nat.zero_add] at within
  refine ⟨agent, fun time => ⟨?_, fun q made => ?_, ?_, fun n returned => ?_⟩,
    fun time => ⟨rfl, ?_, ?_⟩, fun word => ?_, ⟨counts, ordered, within, numbers⟩,
    fun words => ?_⟩
  · exact congrArg (fun n => { d.agent with sequence := n }) next
  · rw [Client.params_of_postRequest made]
    simp [Fields.setAll]
  · have settled : (d.ping v time).Settled v .affinity _ _ _ _ :=
      Agent.settled_ping v time d.agent d.scene.manager d.scene.world
    rw [next, agent] at settled
    exact settled
  · rw [eq_of_ping_returns returned, next]
  · have settled : (d.register v time).Settled v .exhaustive _ _ _ _ :=
      Agent.settled_register v time d.agent d.scene.manager d.scene.world
    rw [agent] at settled
    exact settled
  · exact Agent.register_returns v time d.agent d.scene.manager d.scene.world
  · have same : number.toNat = pings + 1 := UInt64.toNat_ofNat_of_lt' word
    exact ⟨same, congrArg toString same⟩
  · rw [numbers]
    exact pairwise_ofNat ordered fun k hk => Nat.lt_of_le_of_lt (within k hk).2 words

/-- The third heartbeat of an agent whose second one met an open breaker, and which has
registered since: it is refused by the first address and acknowledged by the second, and
both are sent the number three. With one heartbeat more the run returns three and
four. -/
theorem heartbeats_are_numbered_rehearsed :
    let v := Service.rehearsed
    let near : IpAddr := .v4 ⟨10, 0, 0, 1⟩
    let far : IpAddr := .v4 ⟨10, 0, 0, 2⟩
    let world : World Script := .rehearsed [(far, [⟨.refuse, 0⟩, ⟨.ok, 0⟩])]
    let start : Deployment Script :=
      ⟨.ofClient (.ofUrl v.url (some "secret")) "agent" "secret", .start world⟩
    let actions := [.ping "one", .ping "two", .other (.wait 300001), .register "now"]
    let more := actions ++ [.ping "three", .ping "four"]
    let c := (start.run v actions).ping v "three"
    actions.countP Action.isPing + 1 < UInt64.size
      ∧ c.events.filterMap Event.told?
        = [(near, Reaction.refuse.outcome near), (far, Reaction.ok.outcome far)]
      ∧ (∀ sent ∈ c.events.filterMap Event.contact?, sent.2.params.get? "sequence" = some "3"
        ∧ sent.2.params.get? "agentToken" = some "secret")
      ∧ c.result = .ok (.ok 3)
      ∧ c.agent.sequence = 3
      ∧ (start.run v more).agent.sequence = 4
      ∧ start.returned v more = [3, 4]
      ∧ (start.returned v more).Pairwise (· < ·) := by
  intro v near far world start actions more c
  have few : actions.countP Action.isPing + 1 < UInt64.size := by decide
  obtain ⟨_, pinged, _, word, _⟩ := heartbeats_are_numbered v
    (.ofUrl v.url (some "secret")) "agent" "secret" (.start world) actions
  obtain ⟨agent, named, settled, _⟩ := pinged "three"
  obtain ⟨further, _, _, _, _, ordered⟩ := heartbeats_are_numbered v
    (.ofUrl v.url (some "secret")) "agent" "secret" (.start world) more
  let q : Request :=
    { method := .post
      url := { v.url with path := .rooted ["ping".toList] }
      headers := Fields.empty.set tokenHeader "secret"
      params := Fields.empty.setAll
        [("agentToken", "secret"), ("sequence", "3"), ("sentAt", "three")] }
  have made : (Client.ofUrl v.url (some "secret")).postRequest Agent.pingPath
      [("agentToken", "secret"),
        ("sequence", toString (UInt64.ofNat (actions.countP Action.isPing + 1))),
        ("sentAt", "three")] = .ok q := by
    decide +kernel
  refine ⟨few, by decide +kernel, fun sent mem => ?_, ?_, ?_, ?_, by decide +kernel,
    ordered (by decide)⟩
  · rw [(settled.carries q made).requests] at mem
    obtain ⟨_, _, rfl⟩ := List.mem_map.1 mem
    obtain ⟨number, own⟩ := named q made
    rw [(word few).2] at number
    exact ⟨number.trans (by decide), own⟩
  · exact settled.returns.2 ⟨q, made, far, ⟨200, [], Utf8.encode "ok".toList⟩,
      by decide +kernel, by decide, mt (Response.isDenial_iff _).2 (by decide)⟩
  · rw [agent]
    rfl
  · rw [further]
    rfl

end Deployment

end Uplink
