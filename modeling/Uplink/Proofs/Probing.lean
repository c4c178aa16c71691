import Uplink.Proofs.Log

/-!
# How often a dead endpoint is probed

An endpoint that does not answer costs every request that contacts it the time
of an attempt. So once its fail period is over it is left alone for a down
period, and then one request with affinity may probe it. The elapsed down period
does not renew the endpoint. If the probe fails, the next check finds the fail
period over, as it was before, and puts the endpoint down again. Thus every down
period pays for one probe.

This is proved against the log of a history. An endpoint agrees with the log
(`Endpoint.Agrees`): its last success is when the log has it last renewed, and
if it is down, it went down after its fail period and after every probe in the
log. Checks, contacts in either mode and fresh fail periods keep this up, and a
check lets a request through only if a probe is due (`Entry.InTime`). A failed
exhaustive attempt leaves the endpoint as it is, so it brings no probe forward
and puts none off.
-/

namespace Uplink

/-! ## Probes in time -/

namespace Entry

/-- **A probe of an address at an instant comes in time** after a log. The
address has been renewed, and if its fail period is over, then the least down
period has passed on top of that, and also since every earlier probe. -/
def InTime (settings : CommunicationSettings) (log : List Entry) (a : IpAddr) (t : Instant) :
    Prop :=
  ∃ s, renewedAt? a log = some s ∧ (s + 1000 * settings.failPeriod ≤ t →
    s + 1000 * settings.failPeriod + 60000 * settings.minDownPeriodMinutes.toNat < t
      ∧ ∀ t' ∈ probes a log, t' + 60000 * settings.minDownPeriodMinutes.toNat < t)

/-- **Every probe of a log comes in time.** -/
def Spaced (settings : CommunicationSettings) (log : List Entry) : Prop :=
  ∀ before a t finished o later, log = before ++ .contact .affinity a t finished o :: later →
    InTime settings before a t

theorem spaced_nil (settings : CommunicationSettings) : Spaced settings [] := by
  intro before a t finished o later split
  cases before <;> cases split

/-- One more entry is in time, or it is no probe. -/
theorem Spaced.concat {settings : CommunicationSettings} {log : List Entry} {entry : Entry}
    (h : Spaced settings log)
    (last : ∀ a t finished o, entry = .contact .affinity a t finished o →
      InTime settings log a t) : Spaced settings (log ++ [entry]) := by
  intro before a t finished o later split
  obtain rfl | ⟨later, entry', rfl⟩ := List.eq_nil_or_concat later
  · obtain ⟨rfl, same⟩ := List.append_inj' split rfl
    exact last a t finished o (List.cons.inj same).1
  · rw [List.concat_eq_append, ← List.cons_append, ← List.append_assoc] at split
    obtain ⟨same, _⟩ := List.append_inj' split rfl
    exact h before a t finished o later same

/-- **A probe is a contact with affinity**, at its start. -/
theorem eq_contact_of_probes? {a : IpAddr} {entry : Entry} {t : Instant}
    (h : entry.probes? a = some t) :
    ∃ finished o, entry = .contact .affinity a t finished o := by
  match entry with
  | .contact .affinity b started finished o =>
    have h : (if b = a then some started else none) = some t := h
    split at h
    · obtain rfl := Option.some.inj h
      exact ⟨finished, o, ‹b = a› ▸ rfl⟩
    · cases h

/-- A contact renews nobody but the endpoint it is made with. -/
theorem renews?_contact_of_ne {a b : IpAddr} (h : a ≠ b) (mode : Mode) (started finished : Instant)
    (o : Outcome) : (contact mode b started finished o).renews? a = none := by
  cases o with
  | error f => rfl
  | ok r => exact if_neg h.symm

end Entry

/-! ## One endpoint -/

namespace Endpoint

/-- **No down period is shorter than the least one.** -/
theorem le_sampleDownPeriod (e : Endpoint) (r : Random) :
    60 * e.minDownMinutes ≤ (e.sampleDownPeriod r).1 := by
  unfold sampleDownPeriod
  split
  · exact Nat.le_of_eq (Nat.mul_comm 60 e.minDownMinutes)
  · show 60 * e.minDownMinutes ≤ (e.minDownMinutes + _) * 60
    rw [Nat.mul_comm]
    exact Nat.mul_le_mul_right 60 (Nat.le_add_right _ _)

/-- An endpoint that may be tried is up. -/
theorem liveness_of_check {e e' : Endpoint} {now : Instant} {r r' : Random}
    (h : e.check now r = .ok (true, e', r')) : e'.liveness = .up := by
  cases checked_of_check h with
  | rested => rfl
  | healthy up => exact up

/-- **An endpoint agrees with a log** at an instant: it has the configured
periods, its last success is when it was last renewed, and that and every probe
lie in the past. If it is down, it has gone down after its fail period, for the
least down period or longer, and nobody has probed it since. -/
structure Agrees (settings : CommunicationSettings) (log : List Entry) (now : Instant)
    (e : Endpoint) : Prop where
  failPeriod : e.failPeriod = settings.failPeriod
  minDown : e.minDownMinutes = settings.minDownPeriodMinutes.toNat
  renewed : Entry.renewedAt? e.address log = some e.lastSuccess
  past : e.lastSuccess ≤ now
  probed : ∀ t ∈ Entry.probes e.address log, t ≤ now
  down : ∀ since, e.liveness = .down since →
    e.lastSuccess + 1000 * settings.failPeriod ≤ since ∧ since ≤ now
      ∧ 60 * settings.minDownPeriodMinutes.toNat ≤ e.downPeriod
      ∧ ∀ t ∈ Entry.probes e.address log, t ≤ since

variable {settings : CommunicationSettings} {log : List Entry} {now now' : Instant}
  {e e' : Endpoint} {r r' : Random} {yes : Bool}

/-- An endpoint that was just found agrees with a log that says so. -/
theorem agrees_new (a : IpAddr) (settings : CommunicationSettings) (now : Instant) :
    (Endpoint.new a settings now).Agrees settings [.found now] now :=
  ⟨rfl, rfl, rfl, Nat.le_refl now, nofun, nofun⟩

theorem Agrees.wait (h : e.Agrees settings log now) (later : now ≤ now') :
    e.Agrees settings log now' where
  failPeriod := h.failPeriod
  minDown := h.minDown
  renewed := h.renewed
  past := Nat.le_trans h.past later
  probed := fun t ht => Nat.le_trans (h.probed t ht) later
  down := by
    intro since down
    obtain ⟨gone, before, rest⟩ := h.down since down
    exact ⟨gone, Nat.le_trans before later, rest⟩

/-- **A check keeps an endpoint in agreement.** If the endpoint goes down, it
does so now, after every probe. -/
theorem Agrees.check (h : e.Agrees settings log now) (check : e.check now r = .ok (yes, e', r')) :
    e'.Agrees settings log now := by
  cases checked_of_check check with
  | rested => exact { h with down := nofun }
  | resting => exact h
  | healthy => exact h
  | lapsed up elapsed drawn =>
    refine { h with down := fun since down => ?_ }
    obtain rfl := Liveness.down.inj down
    have least := e.le_sampleDownPeriod r
    rw [drawn, h.minDown] at least
    exact ⟨h.failPeriod ▸ elapsed, Nat.le_refl _, least, h.probed⟩

/-- **A check lets a request through in time.** -/
theorem Agrees.inTime (h : e.Agrees settings log now)
    (check : e.check now r = .ok (true, e', r')) : Entry.InTime settings log e.address now := by
  refine ⟨e.lastSuccess, h.renewed, fun expired => ?_⟩
  cases checked_of_check check with
  | healthy up lasts =>
    -- within the fail period nothing is claimed
    rw [h.failPeriod] at lasts
    exact absurd expired (Nat.not_le_of_lt lasts)
  | @rested since down elapsed =>
    -- the down period started after the fail period and after every probe, and
    -- all of it has passed
    obtain ⟨gone, _, least, probed⟩ := h.down since down
    have rested : since + 60000 * settings.minDownPeriodMinutes.toNat < now := by
      refine Nat.lt_of_le_of_lt ?_ (Nat.add_lt_of_lt_sub' elapsed)
      rw [show 60000 = 1000 * 60 from rfl, Nat.mul_assoc]
      exact Nat.add_le_add_left (Nat.mul_le_mul_left 1000 least) since
    exact ⟨Nat.lt_of_le_of_lt (Nat.add_le_add_right gone _) rested,
      fun t ht => Nat.lt_of_le_of_lt (Nat.add_le_add_right (probed t ht) _) rested⟩

/-- The entry of a contact with an endpoint. -/
def sent {σ : Type} (mode : Mode) (t : Transport σ) (q : Request) (e : Endpoint) (w : World σ) :
    Entry :=
  .contact mode e.address w.now (e.send t q w).2.2.now (e.send t q w).1

/-- **A contact keeps an endpoint in agreement**, if a request with affinity
contacts it only while it is up. -/
theorem Agrees.send {σ : Type} {mode : Mode} (t : Transport σ) (q : Request) {w : World σ}
    (h : e.Agrees settings log w.now) (up : mode = .affinity → e.liveness = .up) :
    (e.send t q w).2.1.Agrees settings (log ++ [e.sent mode t q w]) (e.send t q w).2.2.now := by
  have later := now_le_send t q e w
  have probed : ∀ t' ∈ Entry.probes e.address (log ++ [e.sent mode t q w]),
      t' ≤ (e.send t q w).2.2.now := by
    intro t' ht'
    obtain ht' | ht' := Entry.mem_probes_concat ht'
    · exact Nat.le_trans (h.probed t' ht') later
    · obtain ⟨_, _, same⟩ := Entry.eq_contact_of_probes? ht'
      exact (Entry.contact.inj same).2.2.1 ▸ later
  obtain ⟨f, failed, same⟩ | ⟨a, answered, same⟩ := send_cases t q e w
  · rw [same]
    refine { h.wait later with renewed := ?_, probed, down := fun since down => ?_ }
    · rw [Entry.renewedAt?_concat_of_none]
      · exact h.renewed
      · unfold sent
        rw [failed]
        rfl
    · obtain ⟨gone, already, least, before⟩ := (h.wait later).down since down
      refine ⟨gone, already, least, fun t' ht' => ?_⟩
      obtain ht' | ht' := Entry.mem_probes_concat ht'
      · exact before t' ht'
      · -- a probe contacts no endpoint that is down
        obtain ⟨_, _, same⟩ := Entry.eq_contact_of_probes? ht'
        rw [up (Entry.contact.inj same).1] at down
        cases down
  · rw [same]
    refine ⟨h.failPeriod, h.minDown, ?_, Nat.le_refl _, probed, nofun⟩
    refine Entry.renewedAt?_concat_of_some log ?_
    unfold sent
    rw [answered]
    exact if_pos rfl

/-- **Nothing that happens to others concerns an endpoint.** -/
theorem Agrees.concat {entry : Entry} (h : e.Agrees settings log now) (later : now ≤ now')
    (renews : entry.renews? e.address = none) (probes : entry.probes? e.address = none) :
    e.Agrees settings (log ++ [entry]) now' := by
  have same := Entry.probes_concat_of_none log probes
  refine { h.wait later with renewed := ?_, probed := ?_, down := ?_ }
  · rw [Entry.renewedAt?_concat_of_none log renews]
    exact h.renewed
  · rw [same]
    exact (h.wait later).probed
  · rw [same]
    exact (h.wait later).down

/-- **A fresh fail period renews an endpoint.** -/
theorem Agrees.rearm (h : e.Agrees settings log now) :
    (e.rearm now).Agrees settings (log ++ [.rearmed now]) now := by
  refine ⟨h.failPeriod, h.minDown, Entry.renewedAt?_concat_of_some log rfl, Nat.le_refl now,
    fun t ht => ?_, nofun⟩
  obtain ht | ht := Entry.mem_probes_concat ht
  · exact h.probed t ht
  · cases ht

end Endpoint

/-! ## The endpoints of a server -/

namespace EndpointSet

variable {settings : CommunicationSettings} {log : List Entry} {now now' : Instant}
  {s : EndpointSet} {i j : Nat} {d e e' : Endpoint} {r r' : Random} {yes : Bool}

/-- Endpoints at different positions have different addresses. -/
theorem address_ne (distinct : s.addresses.Nodup) (left : s.get? i = some e)
    (right : s.get? j = some d) (differ : j ≠ i) : d.address ≠ e.address := by
  intro same
  have atLeft : s.addresses[i]? = some e.address := by
    rw [getElem?_addresses, left]
    rfl
  have atRight : s.addresses[j]? = some e.address := by
    rw [getElem?_addresses, right]
    exact congrArg some same
  exact differ (position_unique distinct atRight atLeft)

/-- **The endpoints are watched by a log**: all of them agree with it, and every
probe in it came in time. -/
structure Watched (settings : CommunicationSettings) (log : List Entry) (now : Instant)
    (s : EndpointSet) : Prop where
  distinct : s.addresses.Nodup
  agrees : ∀ e ∈ s.toList, e.Agrees settings log now
  spaced : Entry.Spaced settings log

/-- Endpoints are watched from the moment they are found. -/
theorem watched_new (distinct : s.addresses.Nodup)
    (fresh : ∀ e ∈ s.toList, ∃ a, e = .new a settings now) :
    s.Watched settings [.found now] now where
  distinct := distinct
  agrees := by
    intro e he
    obtain ⟨a, rfl⟩ := fresh e he
    exact Endpoint.agrees_new a settings now
  spaced := (Entry.spaced_nil settings).concat nofun

theorem Watched.wait (h : s.Watched settings log now) (later : now ≤ now') :
    s.Watched settings log now' :=
  { h with agrees := fun e he => (h.agrees e he).wait later }

/-- **A check keeps the endpoints watched.** -/
theorem Watched.check (h : s.Watched settings log now) (found : s.get? i = some e)
    (check : e.check now r = .ok (yes, e', r')) : (s.set i e').Watched settings log now where
  distinct := by
    rw [addresses_eq_of_bare (bare_set found (Endpoint.bare_check check))]
    exact h.distinct
  agrees := by
    intro d hd
    obtain hd | rfl := mem_toList_set hd
    · exact h.agrees d hd
    · exact (h.agrees e (mem_toList_of_get? found)).check check
  spaced := h.spaced

/-- **A contact keeps the endpoints watched**, if one with affinity comes in time
and to an endpoint that is up. -/
theorem Watched.send {σ : Type} {mode : Mode} (t : Transport σ) (q : Request) {w : World σ}
    (h : s.Watched settings log w.now) (found : s.get? i = some e)
    (probe : mode = .affinity →
      e.liveness = .up ∧ Entry.InTime settings log e.address w.now) :
    (s.set i (e.send t q w).2.1).Watched settings (log ++ [e.sent mode t q w])
      (e.send t q w).2.2.now where
  distinct := by
    rw [addresses_eq_of_bare (bare_set found (Endpoint.bare_send t q e w))]
    exact h.distinct
  agrees := by
    intro d hd
    obtain ⟨j, hj⟩ := List.mem_iff_getElem?.1 hd
    rw [getElem?_toList, get?_set, found] at hj
    -- the entry is about one address, and that is the address of one position
    by_cases same : j = i
    · rw [if_pos same] at hj
      obtain rfl := Option.some.inj hj
      exact (h.agrees e (mem_toList_of_get? found)).send t q fun affine => (probe affine).1
    · rw [if_neg same] at hj
      have differ := address_ne h.distinct found hj same
      refine (h.agrees d (mem_toList_of_get? hj)).concat (Endpoint.now_le_send t q e w)
        (Entry.renews?_contact_of_ne differ ..) ?_
      cases mode with
      | exhaustive => rfl
      | affinity => exact if_neg differ.symm
  spaced := by
    refine h.spaced.concat fun a started finished o same => ?_
    obtain ⟨affine, rfl, rfl, _, _⟩ := Entry.contact.inj same
    exact (probe affine).2

/-- **Fresh fail periods keep the endpoints watched.** -/
theorem Watched.rearm (h : s.Watched settings log now) :
    (s.rearm now).Watched settings (log ++ [.rearmed now]) now where
  distinct := by
    rw [addresses_eq_of_bare (bare_rearm s now)]
    exact h.distinct
  agrees := by
    intro e he
    obtain ⟨d, hd, rfl⟩ := exists_of_mem_rearm he
    exact (h.agrees d hd).rearm
  spaced := h.spaced.concat nofun

end EndpointSet

/-! ## One call of a selection -/

/-- The endpoints that a reply leaves are watched by a log and what the reply
adds to it. -/
def Reply.Watched {σ : Type} (settings : CommunicationSettings) (mode : Mode) (log : List Entry)
    (r : Reply σ Selection) : Prop :=
  r.state.endpoints.Watched settings (log ++ r.events.filterMap (Event.entry? mode)) r.world.now

namespace Search

variable {σ : Type} {settings : CommunicationSettings} {mode : Mode} {log : List Entry}
  {t : Transport σ} {q : Request} {s s' : Search σ} {i : Nat} {e e' : Endpoint} {random : Random}
  {yes : Bool}

/-- The endpoints are watched in the middle of a call. -/
def Watched (settings : CommunicationSettings) (mode : Mode) (log : List Entry) (s : Search σ) :
    Prop :=
  s.selection.endpoints.Watched settings (log ++ s.events.filterMap (Event.entry? mode))
    s.world.now

theorem watched_start {s₀ : Selection} {w : World σ}
    (h : s₀.endpoints.Watched settings log w.now) : (start s₀ w).Watched settings mode log := by
  show s₀.endpoints.Watched settings (log ++ []) w.now
  rw [List.append_nil]
  exact h

theorem Watched.checked (h : s.Watched settings mode log)
    (found : s.selection.endpoints.get? i = some e)
    (check : e.check s.world.now s.world.random = .ok (yes, e', random)) :
    (s.checked i e' random).Watched settings mode log :=
  EndpointSet.Watched.check h found check

theorem Watched.contact (h : s.Watched settings mode log)
    (found : s.selection.endpoints.get? i = some e)
    (probe : mode = .affinity → e.liveness = .up ∧ Entry.InTime settings
      (log ++ s.events.filterMap (Event.entry? mode)) e.address s.world.now) :
    (s.contact t q i e).2.Watched settings mode log := by
  have entries : (s.contact t q i e).2.events.filterMap (Event.entry? mode)
      = s.events.filterMap (Event.entry? mode) ++ [e.sent mode t q s.world] :=
    List.filterMap_append ..
  unfold Watched
  rw [entries, ← List.append_assoc]
  exact EndpointSet.Watched.send t q h found probe

/-- **An attempt keeps the endpoints watched**: its check has let it through in
time. -/
theorem Watched.attempt (h : s.Watched settings .affinity log)
    (found : s.selection.endpoints.get? i = some e)
    (check : e.check s.world.now s.world.random = .ok (true, e', random)) :
    (s.attempt t q i e' random).2.Watched settings .affinity log := by
  refine (h.checked found check).contact ((get?_checked s random found i).trans (if_pos rfl))
    fun _ => ⟨Endpoint.liveness_of_check check, ?_⟩
  have agrees := EndpointSet.Watched.agrees h e (EndpointSet.mem_toList_of_get? found)
  have same : e'.address = e.address :=
    show e'.bare.address = e.bare.address from
      congrArg Endpoint.address (Endpoint.bare_check check)
  exact same ▸ agrees.inTime check

/-- **So does a visit that lets the call go on.** -/
theorem Watched.step {v : Visit} (h : s.Watched settings .affinity log)
    (hv : s.visit t q v = .inr s') : s'.Watched settings .affinity log := by
  cases visited_of_visit hv with
  | passed => exact h
  | refused new found check => exact h.checked found check
  | failed new found check => exact h.attempt found check

/-- **A call with affinity keeps the endpoints watched**, however it ends. -/
theorem Ending.watched {s₀ : Selection} {w : World σ} {trail : List Contact}
    {r : Reply σ Selection} (h : Ending t q s₀ w trail r)
    (first : s₀.endpoints.Watched settings log w.now) : r.Watched settings .affinity log := by
  have started : (start s₀ w).Watched settings .affinity log := watched_start first
  have along {vs : List Visit} {s : Search σ} (passes : Passes t q vs (start s₀ w) s) :
      s.Watched settings .affinity log :=
    passes.keeps (fun _ _ _ hv h => h.step hv) started
  cases h with
  | cut reached _ _ _ _ reply =>
    rw [reply]
    exact along reached.passes
  | decided reached _ _ found check _ _ _ reply =>
    rw [reply]
    exact (along reached.passes).attempt found check
  | exhausted reached reply =>
    unfold Reply.Watched
    rw [reply, endpoints_exhausted, events_exhausted, now_exhausted]
    exact along reached.passes

/-- **An exhaustive call keeps the endpoints watched.** It probes nobody. -/
theorem Watched.attempts (positions : List Nat) (h : s.Watched settings .exhaustive log) :
    (s.attempts t q positions).Watched settings .exhaustive log := by
  induction positions generalizing s with
  | nil => exact h
  | cons i rest ih =>
    unfold Search.attempts
    cases found : s.selection.endpoints.get? i with
    | none => exact ih h
    | some e =>
      have after : (s.contact t q i e).2.Watched settings .exhaustive log := by
        refine h.contact found fun affine => ?_
        cases affine
      dsimp only
      cases (s.contact t q i e).1 with
      | ok r => exact after
      | error f =>
        dsimp only
        by_cases more : f.isConnectivity = true
        · rw [if_pos more]
          exact ih after
        · rw [if_neg more]
          exact after

end Search

namespace Selection

variable {σ : Type} {settings : CommunicationSettings} {log : List Entry} {s : Selection}
  {w : World σ}

/-- **Being let through keeps the endpoints watched.** -/
theorem watched_admitted (h : s.endpoints.Watched settings log w.now)
    (passes : s.breaker.blocks w.now = false) :
    (s.admitted w.now).endpoints.Watched settings (log ++ s.rearmings .affinity w.now) w.now := by
  unfold admitted rearmings
  cases hb : s.breaker with
  | closed => exact (List.append_nil log).symm ▸ h
  | «open» since period =>
    rw [hb] at passes
    have ended : w.now.exceeds since period = true := (Bool.not_eq_false' _).mp passes
    rw [if_pos ⟨rfl, ended⟩]
    exact h.rearm

/-- **A call keeps the endpoints watched.** -/
theorem watched_sendIn (h : s.endpoints.Watched settings log w.now) (mode : Mode)
    (t : Transport σ) (q : Request) :
    (s.sendIn mode t q w).Watched settings mode (log ++ s.rearmings mode w.now) := by
  cases mode with
  | exhaustive =>
    have none : s.rearmings .exhaustive w.now = [] := if_neg nofun
    have same : s.ordered.endpoints = s.endpoints := by
      unfold ordered
      split <;> rfl
    rw [none, List.append_nil]
    exact Search.Watched.attempts s.ordered.order (Search.watched_start (same ▸ h))
  | affinity =>
    show (s.send t q w).Watched settings .affinity _
    cases blocked : s.breaker.blocks w.now with
    | true =>
      have none : s.rearmings .affinity w.now = [] := by
        refine if_neg fun ended => ?_
        rw [Breaker.isOver_of_blocks blocked] at ended
        cases ended.2
      rw [send_of_blocks t q blocked, none]
      unfold Reply.Watched
      rw [List.filterMap_nil, List.append_nil, List.append_nil]
      exact h
    | false =>
      obtain ⟨trail, ending⟩ := ending_send t q blocked
      exact ending.watched (watched_admitted h blocked)

end Selection

/-! ## Histories -/

/-- **The endpoints of a manager are watched by a log**, which says nothing as
long as there are none. -/
def Manager.Watched (settings : CommunicationSettings) (log : List Entry) (now : Instant) :
    Manager → Prop
  | .ready s => s.endpoints.Watched settings log now
  | _ => log = []

theorem Manager.Watched.spaced {settings : CommunicationSettings} {log : List Entry}
    {now : Instant} {m : Manager} (h : m.Watched settings log now) :
    Entry.Spaced settings log := by
  cases m with
  | ready s => exact EndpointSet.Watched.spaced h
  | unresolved | failed =>
    obtain rfl : log = [] := h
    exact Entry.spaced_nil settings

namespace Scene

variable {σ : Type} {v : Service σ} {earlier : List Entry}

/-- The first call finds the endpoints, or there will never be any. -/
theorem watched_first (v : Service σ) (mode : Mode) (q : Request) (w : World σ) :
    ((start w).call v mode q).state.Watched v.settings ((start w).entries v (.call mode q))
      ((start w).call v mode q).world.now := by
  have lookups := filterMap_entry?_of_told mode (Manager.told_resolve v .unresolved w)
  show (Manager.sendIn v mode q .unresolved w).state.Watched v.settings
    ((Manager.unresolved.resolve v w).1.discovery w.now
      ++ (Manager.sendIn v mode q .unresolved w).events.filterMap _)
    (Manager.sendIn v mode q .unresolved w).world.now
  cases hm : (Manager.unresolved.resolve v w).1 with
  | unresolved => exact absurd hm (Manager.resolve_ne_unresolved v .unresolved w)
  | failed f =>
    rw [Manager.sendIn_of_failed q hm]
    exact lookups
  | ready s =>
    rw [Manager.sendIn_of_ready q hm, List.filterMap_append, lookups, List.nil_append]
    obtain ⟨set, rfl, distinct, fresh⟩ := Manager.exists_ofSet_of_resolve hm
    have first : set.Watched v.settings [.found w.now] (Manager.unresolved.resolve v w).2.2.now :=
      Manager.now_resolve v .unresolved w ▸ EndpointSet.watched_new distinct fresh
    -- the breaker over endpoints that were just found is closed
    have none : (Selection.ofSet set).rearmings mode (Manager.unresolved.resolve v w).2.2.now
        = [] := if_neg fun ⟨_, ended⟩ => nomatch ended
    have kept := Selection.watched_sendIn (s := .ofSet set) first mode v.transport q
    rw [none, List.append_nil] at kept
    exact kept

/-- **An operation keeps the endpoints watched.** -/
theorem watched_perform {s : Scene σ} (h : s.manager.Watched v.settings earlier s.world.now)
    (op : Operation) : (s.perform v op).manager.Watched v.settings (earlier ++ s.entries v op)
      (s.perform v op).world.now := by
  obtain ⟨m, w⟩ := s
  cases op with
  | call mode q =>
    cases m with
    | unresolved =>
      obtain rfl : earlier = [] := h
      exact watched_first v mode q w
    | failed f =>
      -- nothing was found and nothing will be, so the log stays empty
      obtain rfl : earlier = [] := h
      rfl
    | ready s =>
      have kept := Selection.watched_sendIn h mode v.transport q
      unfold Reply.Watched at kept
      rw [List.append_assoc] at kept
      exact kept
  | status | order =>
    show m.Watched v.settings (earlier ++ []) w.now
    rw [List.append_nil]
    exact h
  | wait ms =>
    show m.Watched v.settings (earlier ++ []) (w.wait ms).now
    rw [List.append_nil]
    cases m with
    | ready s => exact EndpointSet.Watched.wait h (Nat.le_add_right w.now ms)
    | unresolved | failed => exact h

/-- **A run keeps the endpoints watched.** -/
theorem watched_run (ops : List Operation) {s : Scene σ}
    (h : s.manager.Watched v.settings earlier s.world.now) :
    (run v ops s).manager.Watched v.settings (earlier ++ log v ops s)
      (run v ops s).world.now := by
  induction ops generalizing s earlier with
  | nil => exact (List.append_nil earlier).symm ▸ h
  | cons op ops ih =>
    have rest := ih (watched_perform h op)
    rw [List.append_assoc] at rest
    exact rest

/-- **After every history the endpoints are watched by its log.** -/
theorem watched_history (v : Service σ) (ops : List Operation) (w₀ : World σ) :
    (history v ops w₀).manager.Watched v.settings (log v ops (start w₀))
      (history v ops w₀).world.now :=
  watched_run ops (s := start w₀) rfl

end Scene

end Uplink
