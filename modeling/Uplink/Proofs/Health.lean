import Uplink.EndpointSet

/-!
# The health of an endpoint

A check answers whether an endpoint may be tried, and changes the endpoint by
answering. This module says everything that a check can do, once
(`Endpoint.Checked`), and reads the rest off it. The verdict is a pure function
of the endpoint and the instant (`Endpoint.availableAt`). An endpoint that was
refused is down afterwards, and it would be refused again at the same instant,
so a second question about it changes no answer.

Health is all that a call changes about an endpoint. What stays is its bare
form (`Endpoint.bare`), and a set keeps the bare form of every one of its
endpoints: the addresses, their order, and the periods they are configured
with.
-/

namespace Uplink

namespace Endpoint

/-- **What never changes about an endpoint**: the endpoint without its
history. -/
def bare (e : Endpoint) : Endpoint :=
  { e with lastSuccess := 0, liveness := .up, downPeriod := 0 }

/-- **Whether an endpoint may be tried at an instant**, read off its health
without changing it. -/
def availableAt (e : Endpoint) (now : Instant) : Bool :=
  match e.liveness with
  | .down since => decide (1000 * e.downPeriod < now - since)
  | .up => decide (now < e.lastSuccess + 1000 * e.failPeriod)

/-- **The clock can show the end of the fail period.** Only an endpoint that is
up is ever asked for it. -/
def InClock (e : Endpoint) : Prop :=
  e.liveness = .up → (e.lastSuccess + 1000 * e.failPeriod) / 1000 < Instant.limit

instance (e : Endpoint) : Decidable e.InClock :=
  inferInstanceAs (Decidable (_ → _))

@[simp] theorem failPeriod_bare (e : Endpoint) : e.bare.failPeriod = e.failPeriod := rfl

/-! ## What a check does -/

/-- **What a check can come to.** -/
inductive Checked (e : Endpoint) (now : Instant) (r : Random) :
    Except ClockOverflow (Bool × Endpoint × Random) → Prop
  /-- The down period is over, and the endpoint is up again. -/
  | rested {since : Instant} (down : e.liveness = .down since)
      (elapsed : 1000 * e.downPeriod < now - since) :
      Checked e now r (.ok (true, { e with liveness := .up }, r))
  /-- The down period still lasts. -/
  | resting {since : Instant} (down : e.liveness = .down since)
      (lasts : now - since ≤ 1000 * e.downPeriod) :
      Checked e now r (.ok (false, e, r))
  /-- The fail period ends beyond the clock. -/
  | beyond (outside : ¬ e.InClock) : Checked e now r (.error .beyondRange)
  /-- The fail period is over, and the endpoint goes down. -/
  | lapsed {period : Seconds} {r' : Random} (up : e.liveness = .up)
      (elapsed : e.lastSuccess + 1000 * e.failPeriod ≤ now)
      (drawn : e.sampleDownPeriod r = (period, r')) :
      Checked e now r
        (.ok (false, { e with liveness := .down now, downPeriod := period }, r'))
  /-- The endpoint is up, and the fail period still lasts. -/
  | healthy (up : e.liveness = .up) (lasts : now < e.lastSuccess + 1000 * e.failPeriod) :
      Checked e now r (.ok (true, e, r))

/-- **A check does one of these things.** -/
theorem checked_check (e : Endpoint) (now : Instant) (r : Random) :
    Checked e now r (e.check now r) := by
  unfold check
  cases hl : e.liveness with
  | down since =>
    show Checked e now r (if now.exceeds since e.downPeriod = true then _ else _)
    by_cases hp : 1000 * e.downPeriod < now - since
    · rw [if_pos (show now.exceeds since e.downPeriod = true from decide_eq_true hp)]
      exact .rested hl hp
    · rw [if_neg (show ¬ now.exceeds since e.downPeriod = true from
        fun h => hp (of_decide_eq_true h))]
      exact .resting hl (Nat.le_of_not_lt hp)
  | up =>
    by_cases hc : (e.lastSuccess + 1000 * e.failPeriod) / 1000 < Instant.limit
    · show Checked e now r (e.lastSuccess.later e.failPeriod >>= _)
      rw [Instant.later_of_lt hc]
      show Checked e now r (if e.lastSuccess + 1000 * e.failPeriod ≤ now then _ else _)
      by_cases hp : e.lastSuccess + 1000 * e.failPeriod ≤ now
      · rw [if_pos hp]
        exact .lapsed hl hp rfl
      · rw [if_neg hp]
        exact .healthy hl (Nat.lt_of_not_le hp)
    · show Checked e now r (e.lastSuccess.later e.failPeriod >>= _)
      rw [show e.lastSuccess.later e.failPeriod = .error .beyondRange from if_neg hc]
      exact .beyond fun h => hc (h hl)

section Check

variable {e e' : Endpoint} {now : Instant} {r r' : Random} {yes : Bool} {o : ClockOverflow}

theorem checked_of_check {c : Except ClockOverflow (Bool × Endpoint × Random)}
    (h : e.check now r = c) : Checked e now r c :=
  h ▸ checked_check e now r

/-- A check changes nothing but the health. -/
theorem bare_check (h : e.check now r = .ok (yes, e', r')) : e'.bare = e.bare := by
  cases checked_of_check h <;> rfl

/-- **The verdict of a check is a function of the health it finds.** -/
theorem availableAt_of_check (h : e.check now r = .ok (yes, e', r')) :
    e.availableAt now = yes := by
  unfold availableAt
  cases checked_of_check h with
  | rested down elapsed => rw [down]; exact decide_eq_true elapsed
  | resting down lasts => rw [down]; exact decide_eq_false (Nat.not_lt_of_le lasts)
  | lapsed up elapsed => rw [up]; exact decide_eq_false (Nat.not_lt_of_le elapsed)
  | healthy up lasts => rw [up]; exact decide_eq_true lasts

/-- **An endpoint that was refused is down.** -/
theorem isDown_of_check (h : e.check now r = .ok (false, e', r')) : e'.isDown = true := by
  unfold isDown
  cases checked_of_check h with
  | resting down => rw [down]
  | lapsed => rfl

/-- **Asking twice at one instant changes no answer**: an endpoint that was
refused would be refused again. -/
theorem availableAt_again (h : e.check now r = .ok (false, e', r')) :
    e'.availableAt now = false := by
  cases checked_of_check h with
  | resting => exact availableAt_of_check h
  | lapsed =>
    show decide (_ < now - now) = false
    rw [Nat.sub_self]
    exact decide_eq_false (Nat.not_lt_zero _)

/-- A check fails only for an endpoint whose fail period ends beyond the
clock. -/
theorem not_inClock_of_check (h : e.check now r = .error o) : ¬ e.InClock := by
  cases checked_of_check h with
  | beyond outside => exact outside

end Check

/-- **What sending does to an endpoint**: nothing if it fails, and a success is
recorded at the instant at which the answer is there. -/
theorem send_cases {σ : Type} (t : Transport σ) (q : Request) (e : Endpoint) (w : World σ) :
    (∃ f, (e.send t q w).1 = .error f ∧ (e.send t q w).2.1 = e)
      ∨ ∃ r, (e.send t q w).1 = .ok r
          ∧ (e.send t q w).2.1 = e.succeeded (e.send t q w).2.2.now := by
  cases h : (e.send t q w).1 with
  | error f => exact .inl ⟨f, rfl, send_eq_of_error h⟩
  | ok r =>
    refine .inr ⟨r, rfl, ?_⟩
    unfold send at h ⊢
    split at h
    · cases h
    · split at h
      · cases h
      · rfl

/-- An attempt takes its time, and nothing else about the world but the wire
changes. -/
theorem world_send {σ : Type} (t : Transport σ) (q : Request) (e : Endpoint) (w : World σ) :
    (e.send t q w).2.2 = (t.run q e.address w).2 := by
  unfold send
  split
  · rename_i h
    rw [h]
  · rename_i h
    split <;> rw [h]

/-- **What a request comes to** is what the attempt comes to, with its answer
judged. -/
theorem outcome_send {σ : Type} (t : Transport σ) (q : Request) (e : Endpoint) (w : World σ) :
    (e.send t q w).1 = (t.run q e.address w).1.bind (·.judge e.address) := by
  unfold send
  split
  · rename_i h
    rw [h]
    rfl
  · rename_i r _ h
    rw [h]
    show _ = r.judge e.address
    split
    · rename_i failed
      exact failed.symm
    · rename_i served
      exact served.symm

/-- Sending does not turn the clock back. -/
theorem now_le_send {σ : Type} (t : Transport σ) (q : Request) (e : Endpoint) (w : World σ) :
    w.now ≤ (e.send t q w).2.2.now := by
  rw [world_send]
  exact t.now_le_run q e.address w

@[simp] theorem bare_send {σ : Type} (t : Transport σ) (q : Request) (e : Endpoint)
    (w : World σ) : (e.send t q w).2.1.bare = e.bare := by
  obtain ⟨_, _, he⟩ | ⟨_, _, he⟩ := send_cases t q e w <;> rw [he]
  rfl

/-! ## Properties that last -/

/-- **A property that checks and answers keep** from an instant on. Nothing else
happens to an endpoint during a call. -/
structure Lasting (start : Instant) (P : Endpoint → Prop) : Prop where
  check : ∀ {e e' : Endpoint} {now : Instant} {r r' : Random} {yes : Bool},
    start ≤ now → P e → e.check now r = .ok (yes, e', r') → P e'
  answer : ∀ {e : Endpoint} {now : Instant}, start ≤ now → P e → P (e.succeeded now)

theorem Lasting.send {start : Instant} {P : Endpoint → Prop} (h : Lasting start P) {σ : Type}
    (t : Transport σ) (q : Request) {e : Endpoint} {w : World σ} (hw : start ≤ w.now)
    (he : P e) : P (e.send t q w).2.1 := by
  obtain ⟨_, _, same⟩ | ⟨_, _, answered⟩ := send_cases t q e w
  · exact same.symm ▸ he
  · rw [answered, world_send]
    exact h.answer (Nat.le_trans hw (t.now_le_run q e.address w)) he

end Endpoint

/-! ## Sets of endpoints -/

namespace EndpointSet

/-- **What never changes about a set of endpoints.** -/
def bare (s : EndpointSet) : EndpointSet :=
  s.map Endpoint.bare

/-- The clock can show the end of every fail period that may be asked for. -/
def InClock (s : EndpointSet) : Prop :=
  ∀ e ∈ s.toList, e.InClock

instance (s : EndpointSet) : Decidable s.InClock :=
  inferInstanceAs (Decidable (∀ e ∈ s.toList, e.InClock))

theorem get?_set (s : EndpointSet) (i j : Nat) (e : Endpoint) :
    (s.set i e).get? j = if j = i then (s.get? i).map fun _ => e else s.get? j := by
  rw [← getElem?_toList, toList_set, ← getElem?_toList, ← getElem?_toList, List.getElem?_set]
  by_cases h : i = j
  · subst h
    rw [if_pos rfl, if_pos rfl]
    by_cases hi : i < s.toList.length
    · rw [if_pos hi, List.getElem?_eq_getElem hi]
      rfl
    · rw [if_neg hi, List.getElem?_eq_none (Nat.le_of_not_lt hi)]
      rfl
  · rw [if_neg h, if_neg (Ne.symm h)]

theorem mem_toList_of_get? {s : EndpointSet} {i : Nat} {e : Endpoint}
    (h : s.get? i = some e) : e ∈ s.toList :=
  List.mem_of_getElem? ((getElem?_toList s i).trans h)

/-- The set is determined by its list. -/
theorem toList_injective {s s' : EndpointSet} (h : s.toList = s'.toList) : s = s' := by
  obtain ⟨p, a⟩ := s
  obtain ⟨p', a'⟩ := s'
  obtain ⟨rfl, rfl⟩ := List.cons.inj h
  rfl

theorem mem_toList_set {s : EndpointSet} {i : Nat} {e d : Endpoint}
    (h : d ∈ (s.set i e).toList) : d ∈ s.toList ∨ d = e := by
  rw [toList_set] at h
  exact List.mem_or_eq_of_mem_set h

/-- The addresses are those of the bare set. -/
@[simp] theorem addresses_bare (s : EndpointSet) : s.bare.addresses = s.addresses := by
  unfold addresses bare
  rw [toList_map, List.map_map]
  rfl

@[simp] theorem size_bare (s : EndpointSet) : s.bare.size = s.size :=
  congrArg (· + 1) (List.length_map _)

@[simp] theorem bare_rearm (s : EndpointSet) (now : Instant) :
    (s.rearm now).bare = s.bare := by
  refine toList_injective ?_
  unfold bare rearm
  rw [toList_map, toList_map, toList_map, List.map_map]
  rfl

theorem addresses_eq_of_bare {s s' : EndpointSet} (h : s.bare = s'.bare) :
    s.addresses = s'.addresses := by
  rw [← addresses_bare, h, addresses_bare]

theorem size_eq_of_bare {s s' : EndpointSet} (h : s.bare = s'.bare) : s.size = s'.size := by
  rw [← size_bare, h, size_bare]

/-- Two sets of one bare form have endpoints of the same bare forms. -/
theorem exists_mem_of_bare {s s' : EndpointSet} (h : s.bare = s'.bare) {e : Endpoint}
    (he : e ∈ s.toList) : ∃ e' ∈ s'.toList, e'.bare = e.bare := by
  refine List.mem_map.1 ?_
  show e.bare ∈ s'.bare.toList
  rw [← h]
  exact List.mem_map_of_mem he

/-- A set with no more than one endpoint has no alternates. -/
theorem alternates_eq_nil_iff (s : EndpointSet) : s.alternates = [] ↔ s.size = 1 := by
  unfold size
  rw [← List.length_eq_zero_iff]
  omega

theorem alternates_eq_nil_iff_of_bare {s s' : EndpointSet} (h : s.bare = s'.bare) :
    s.alternates = [] ↔ s'.alternates = [] := by
  rw [alternates_eq_nil_iff, alternates_eq_nil_iff, size_eq_of_bare h]

/-- **Replacing an endpoint by one of the same bare form keeps the bare
set.** -/
theorem bare_set {s : EndpointSet} {i : Nat} {e e' : Endpoint} (h : s.get? i = some e)
    (he : e'.bare = e.bare) : (s.set i e').bare = s.bare := by
  refine toList_injective ?_
  unfold bare
  rw [toList_map, toList_map, toList_set, List.map_set, he]
  refine List.ext_getElem? fun j => ?_
  rw [List.getElem?_set]
  by_cases hij : i = j
  · subst hij
    have hi := (List.getElem?_eq_some_iff.1 ((getElem?_toList s i).trans h)).1
    rw [if_pos rfl, if_pos (by rw [List.length_map]; exact hi), List.getElem?_map,
      getElem?_toList, h]
    rfl
  · rw [if_neg hij]

@[simp] theorem length_addresses (s : EndpointSet) : s.addresses.length = s.size :=
  List.length_map _

/-- The address of the endpoint at a position. -/
theorem getElem?_addresses (s : EndpointSet) (i : Nat) :
    s.addresses[i]? = (s.get? i).map Endpoint.address := by
  unfold addresses
  rw [List.getElem?_map, getElem?_toList]

/-- **An address that occurs once has one position.** -/
theorem position_unique {addresses : List IpAddr} (distinct : addresses.Nodup) {i j : Nat}
    {a : IpAddr} (left : addresses[i]? = some a) (right : addresses[j]? = some a) : i = j :=
  (List.getElem?_inj (List.getElem?_eq_some_iff.1 left).1 distinct).1 (left.trans right.symm)

theorem exists_of_mem_rearm {s : EndpointSet} {now : Instant} {e : Endpoint}
    (h : e ∈ (s.rearm now).toList) : ∃ d ∈ s.toList, d.rearm now = e := by
  unfold rearm at h
  rw [toList_map] at h
  exact List.mem_map.1 h

end EndpointSet

end Uplink
