import Uplink.Proofs.Halting.Sets
import Uplink.Proofs.Recency
import Uplink.Proofs.Sweep
import Uplink.Proofs.WellFormed

/-!
# Calls may halt

A call asks for an instant when it checks an endpoint, for a random number of minutes when
an endpoint goes down or the breaker opens, and for the first of its endpoints. An
exhaustive call goes through its order by place, and an answer takes a place out of it.

Only the instants depend on when the call is made. The minutes of moderate settings fit in
a word, and the order has every position once, so that the place of an answer is where its
position stands. A call therefore halts exactly if the clock cuts it off, which its reply
tells already (`Manager.sendInOrHalt_eq`).
-/

namespace Uplink

/-! ## Room for the periods -/

/-- The middle of the clock's range, in seconds. -/
def Instant.middle : Seconds := 0x4000000000000000

/-- **Settings with moderate periods**: the fail period and the down periods stay in the
first half of the clock's range. -/
structure CommunicationSettings.Moderate (s : CommunicationSettings) : Prop where
  failPeriod : s.failPeriod < Instant.middle
  downPeriod :
    (s.minDownPeriodMinutes.toNat + s.downPeriodIntervalMinutes.toNat) * 60 < Instant.middle

instance (s : CommunicationSettings) : Decidable s.Moderate :=
  decidable_of_iff (_ ∧ _) ⟨fun h => ⟨h.1, h.2⟩, fun h => ⟨h.failPeriod, h.downPeriod⟩⟩

theorem Instant.middle_lt_word : Instant.middle < UInt64.size := by decide

/-! ## Checking an endpoint -/

namespace Endpoint

/-- A down period. Minutes and seconds are computed in a word. -/
def sampleOrHalt (e : Endpoint) (r : Random) : Except Halt (Seconds × Random) := do
  let (jitter, r) ←
    if e.downInterval = 0 then pure (0, r) else r.belowOrHalt .bits64 e.downInterval
  let minutes ← Halt.unlessFits (e.minDownMinutes + jitter)
  let period ← Halt.unlessFits (minutes * 60)
  return (period, r)

/-- Whether the endpoint may be tried now. -/
def checkOrHalt (e : Endpoint) (now : Instant) (r : Random) :
    Except Halt (Bool × Endpoint × Random) :=
  match e.liveness with
  | .down since =>
    if now.exceeds since e.downPeriod then return (true, { e with liveness := .up }, r)
    else return (false, e, r)
  | .up => do
    let expiry ← Halt.unlessShown (e.lastSuccess.later e.failPeriod)
    if expiry ≤ now then
      let (downPeriod, r) ← e.sampleOrHalt r
      return (false, { e with liveness := .down now, downPeriod }, r)
    else
      return (true, e, r)

variable {settings : CommunicationSettings} {e : Endpoint}

/-- **A down period is drawn without a halt.** -/
theorem sampleOrHalt_eq (moderate : settings.Moderate) (h : e.Configured settings) (r : Random) :
    e.sampleOrHalt r = .ok (e.sampleDownPeriod r) := by
  have least : e.minDownMinutes = settings.minDownPeriodMinutes.toNat :=
    congrArg minDownMinutes h
  have interval : e.downInterval = settings.downPeriodIntervalMinutes.toNat :=
    congrArg downInterval h
  have room : (e.minDownMinutes + e.downInterval) * 60 < UInt64.size := by
    rw [least, interval]
    exact Nat.lt_trans moderate.downPeriod Instant.middle_lt_word
  -- a number of minutes that the interval allows fits, and so do its seconds
  have fits {jitter : Nat} (h : jitter ≤ e.downInterval) :
      e.minDownMinutes + jitter < UInt64.size ∧ (e.minDownMinutes + jitter) * 60 < UInt64.size := by
    omega
  unfold sampleOrHalt sampleDownPeriod
  by_cases none : e.downInterval = 0
  · obtain ⟨minutes, seconds⟩ := fits (Nat.zero_le _)
    rw [if_pos none, if_pos none]
    show (Halt.unlessFits (e.minDownMinutes + 0) >>= _) = _
    rw [Halt.unlessFits_of_lt minutes]
    show (Halt.unlessFits ((e.minDownMinutes + 0) * 60) >>= _) = _
    rw [Halt.unlessFits_of_lt seconds]
    rfl
  · have jitter := r.below_lt_of_pos .bits64 (Nat.pos_of_ne_zero none)
    obtain ⟨minutes, seconds⟩ := fits (Nat.le_of_lt jitter)
    rw [if_neg none, if_neg none, r.belowOrHalt_of_pos .bits64 (Nat.pos_of_ne_zero none)]
    generalize r.below .bits64 e.downInterval = drawn at minutes seconds
    show (Halt.unlessFits (e.minDownMinutes + drawn.1) >>= _) = _
    rw [Halt.unlessFits_of_lt minutes]
    show (Halt.unlessFits ((e.minDownMinutes + drawn.1) * 60) >>= _) = _
    rw [Halt.unlessFits_of_lt seconds]
    rfl

/-- **A check halts exactly if the clock cannot show the end of the fail period.** -/
theorem checkOrHalt_eq (moderate : settings.Moderate) (h : e.Configured settings) (now : Instant)
    (r : Random) : e.checkOrHalt now r = Halt.unlessShown (e.check now r) := by
  unfold checkOrHalt check
  cases e.liveness with
  | down since =>
    dsimp only
    split <;> rfl
  | up =>
    dsimp only
    cases e.lastSuccess.later e.failPeriod with
    | error o => rfl
    | ok expiry =>
      show (if expiry ≤ now then _ else _) = Halt.unlessShown (if expiry ≤ now then _ else _)
      split
      · rw [sampleOrHalt_eq moderate h]
        rfl
      · rfl

end Endpoint

/-! ## Calls with affinity -/

namespace Reply

variable {σ ρ τ : Type}

/-- **The reply of a call, or a halt** if the call asked for an instant that the clock cannot
show. -/
def orHalt (r : Reply σ ρ) : Except Halt (Reply σ ρ) :=
  match r.result with
  | .ok _ => .ok r
  | .error _ => .error .instant

theorem orHalt_of_ok {r : Reply σ ρ} {o : Outcome} (h : r.result = .ok o) :
    r.orHalt = .ok r := by
  unfold orHalt
  rw [h]

/-- A reply that is told otherwise halts as it did, if its result is the same. -/
theorem orHalt_of_same {f : Reply σ ρ → Reply σ τ} (r : Reply σ ρ)
    (same : (f r).result = r.result) : (r.orHalt >>= fun r => pure (f r)) = (f r).orHalt := by
  unfold orHalt
  rw [same]
  cases r.result <;> rfl

end Reply

namespace Search

variable {σ : Type} (t : Transport σ) (q : Request)

/-- One visit. -/
def visitOrHalt (v : Visit) (s : Search σ) : Except Halt (Reply σ Selection ⊕ Search σ) :=
  if v.position ∈ s.contacted then return .inr s
  else
    match s.selection.endpoints.get? v.position with
    | none => return .inr s
    | some e => do
      let (available, e, random) ← e.checkOrHalt s.world.now s.world.random
      let s := s.checked v.position e random
      if available then
        let (outcome, s) := s.contact t q v.position e
        let affinity := s.selection.affinity
        return s.settle outcome (v.answered affinity) (v.failed affinity)
      else return .inr s

/-- The end of a call whose visits have all failed. The preferred endpoint is the first of
the list. -/
def exhaustedOrHalt (s : Search σ) : Except Halt (Reply σ Selection) :=
  if s.selection.endpoints.alternates = [] then
    return s.finish (.ok (.error s.lastFailure))
  else do
    let preferred ← Halt.unlessThere s.selection.endpoints.toList[0]?
    let (period, random) ← preferred.sampleOrHalt s.world.random
    return { s with
      selection := { s.selection with breaker := .open s.world.now period }
      world := { s.world with random } }.finish (.ok (.error s.lastFailure))

/-- The visits of a call, one after the other. -/
def visitsOrHalt : List Visit → Search σ → Except Halt (Reply σ Selection)
  | [], s => s.exhaustedOrHalt
  | v :: vs, s => do
    match ← s.visitOrHalt t q v with
    | .inl reply => return reply
    | .inr s => s.visitsOrHalt vs

/-- What a visit comes to, or a halt. Only a visit that ends the call can halt. -/
def settledOrHalt : Reply σ Selection ⊕ Search σ → Except Halt (Reply σ Selection ⊕ Search σ)
  | .inl reply => return .inl (← reply.orHalt)
  | .inr s => return .inr s

variable {settings : CommunicationSettings} {s : Search σ}

/-- An outcome that is there settles a visit without a halt. -/
theorem settledOrHalt_settle (s : Search σ) (o : Outcome) (answered failed : Option Nat) :
    settledOrHalt (s.settle o answered failed) = .ok (s.settle o answered failed) := by
  unfold settle
  cases o with
  | ok a => rfl
  | error f =>
    dsimp only
    split <;> rfl

/-- **A visit halts exactly if its check needs an instant beyond the clock.** -/
theorem visitOrHalt_eq (moderate : settings.Moderate)
    (configured : ∀ e ∈ s.selection.endpoints.toList, e.Configured settings) (v : Visit) :
    s.visitOrHalt t q v = settledOrHalt (s.visit t q v) := by
  unfold visitOrHalt visit
  by_cases new : v.position ∈ s.contacted
  · rw [if_pos new, if_pos new]
    rfl
  rw [if_neg new, if_neg new]
  cases found : s.selection.endpoints.get? v.position with
  | none => rfl
  | some e =>
    dsimp only
    rw [Endpoint.checkOrHalt_eq moderate (configured e (EndpointSet.mem_toList_of_get? found))]
    cases e.check s.world.now s.world.random with
    | error o => rfl
    | ok verdict =>
      obtain ⟨yes, e', random⟩ := verdict
      cases yes with
      | false => rfl
      | true => exact (settledOrHalt_settle _ _ _ _).symm

/-- **A call whose visits have all failed ends without a halt.** -/
theorem exhaustedOrHalt_eq (moderate : settings.Moderate)
    (configured : ∀ e ∈ s.selection.endpoints.toList, e.Configured settings) :
    s.exhaustedOrHalt = .ok s.exhausted := by
  unfold exhaustedOrHalt exhausted
  split
  · rfl
  · show (s.selection.endpoints.preferred.sampleOrHalt s.world.random >>= _) = _
    rw [Endpoint.sampleOrHalt_eq moderate (configured _ List.mem_cons_self)]
    rfl

/-- **Visits halt exactly if the clock cuts the call off.** -/
theorem visitsOrHalt_eq (moderate : settings.Moderate) (vs : List Visit)
    (rests : ∀ e ∈ s.selection.endpoints.toList, e.Rests settings) :
    s.visitsOrHalt t q vs = (s.visits t q vs).orHalt := by
  induction vs generalizing s with
  | nil =>
    unfold visitsOrHalt visits
    rw [exhaustedOrHalt_eq moderate fun e he => (rests e he).configured]
    exact (Reply.orHalt_of_ok s.result_exhausted).symm
  | cons v vs ih =>
    unfold visitsOrHalt visits
    rw [visitOrHalt_eq t q moderate fun e he => (rests e he).configured]
    cases step : s.visit t q v with
    | inl reply =>
      unfold settledOrHalt
      dsimp only
      cases reply.orHalt <;> rfl
    | inr s' =>
      refine ih ?_
      exact Passes.lasting (Endpoint.lasting_rests settings 0) (.cons step (.nil s'))
        (Nat.zero_le _) rests

end Search

/-! ## Exhaustive calls -/

namespace Search

variable {σ : Type} (t : Transport σ) (q : Request)

/-- The exhaustive order after an answer at a place in it: what stands there is taken out and
put in front, unless it stands in front already. -/
def promoteOrHalt (s : Search σ) (place : Nat) : Except Halt (Search σ) :=
  if place = 0 then return s
  else do
    let i ← Halt.unlessThere s.selection.order[place]?
    return { s with
      selection := { s.selection with order := i :: s.selection.order.eraseIdx place } }

/-- So many places of the order, from one on, tried one after the other. -/
def turnsOrHalt (place : Nat) : Nat → Search σ → Except Halt (Reply σ Selection)
  | 0, s => return s.finish (.ok (.error s.lastFailure))
  | count + 1, s => do
    let i ← Halt.unlessThere s.selection.order[place]?
    match s.selection.endpoints.get? i with
    | none => turnsOrHalt (place + 1) count s
    | some e =>
      match s.contact t q i e with
      | (.ok r, s) =>
        let s ← s.promoteOrHalt place
        return s.finish (.ok (.ok r))
      | (.error f, s) =>
        if f.isConnectivity then turnsOrHalt (place + 1) count { s with failure := some f }
        else return s.finish (.ok (.error f))

/-- **An answer comes to the front without a halt**, as its position is taken out of an order
that has it once. -/
theorem promoteOrHalt_eq {s : Search σ} {done rest : List Nat} {i : Nat}
    (order : s.selection.order = done ++ i :: rest) (once : s.selection.order.Nodup) :
    s.promoteOrHalt done.length = .ok (s.promote i) := by
  have new : i ∉ done := by
    rw [order] at once
    exact fun h => (List.nodup_append.1 once).2.2 i h i List.mem_cons_self rfl
  have erased : s.selection.order.erase i = done ++ rest := by
    rw [order, List.erase_append_right _ new, List.erase_cons_head]
  unfold promoteOrHalt promote
  cases done with
  | nil =>
    have same : i :: s.selection.order.erase i = s.selection.order := by
      rw [erased, order]
      rfl
    rw [if_pos List.length_nil, same]
    rfl
  | cons j done =>
    have place : s.selection.order[(j :: done).length]? = some i := by
      rw [order, List.getElem?_append_right (Nat.le_refl _), Nat.sub_self]
      rfl
    have cut : s.selection.order.eraseIdx (j :: done).length = s.selection.order.erase i := by
      rw [erased, order, List.eraseIdx_append_of_length_le (Nat.le_refl _), Nat.sub_self]
      rfl
    rw [if_neg (nofun : ¬ (j :: done).length = 0), place]
    show Except.ok _ = _
    rw [cut]

/-- **Going through the order by place is going through its positions**, and no place is
missing. -/
theorem turnsOrHalt_eq (done rest : List Nat) {s : Search σ}
    (order : s.selection.order = done ++ rest) (once : s.selection.order.Nodup) :
    s.turnsOrHalt t q done.length rest.length = .ok (s.attempts t q rest) := by
  induction rest generalizing s done with
  | nil => rfl
  | cons i rest ih =>
    have place : s.selection.order[done.length]? = some i := by
      rw [order, List.getElem?_append_right (Nat.le_refl _), Nat.sub_self]
      rfl
    -- the places that follow are behind one position more
    have next {s' : Search σ} (same : s'.selection.order = s.selection.order) :
        s'.turnsOrHalt t q (done.length + 1) rest.length = .ok (s'.attempts t q rest) := by
      have rest := ih (done ++ [i]) (by rw [same, order, List.append_assoc]; rfl) (same ▸ once)
      rwa [List.length_append] at rest
    unfold attempts
    rw [List.length_cons, turnsOrHalt, place]
    show (match s.selection.endpoints.get? i with | none => _ | some e => _) = _
    cases s.selection.endpoints.get? i with
    | none => exact next rfl
    | some e =>
      have same : (s.contact t q i e).2.selection.order = s.selection.order := rfl
      dsimp only
      generalize s.contact t q i e = contacted at same
      obtain ⟨outcome, s'⟩ := contacted
      cases outcome with
      | ok r =>
        dsimp only at same ⊢
        rw [promoteOrHalt_eq (same.trans order) (same ▸ once)]
        rfl
      | error f =>
        dsimp only at same ⊢
        split
        · exact next same
        · rfl

end Search

/-! ## Calls of a selection -/

namespace Selection

variable {σ : Type} (t : Transport σ) (q : Request)

/-- Sends a request with affinity. -/
def sendOrHalt (s : Selection) (w : World σ) : Except Halt (Reply σ Selection) :=
  if s.breaker.blocks w.now then return ⟨.ok (.error .unavailable), [], s, w⟩
  else
    let s := s.admitted w.now
    (Search.start s w).visitsOrHalt t q s.plan

/-- Sends a request exhaustively. -/
def sendAllOrHalt (s : Selection) (w : World σ) : Except Halt (Reply σ Selection) :=
  let s := s.ordered
  (Search.start s w).turnsOrHalt t q 0 s.order.length

/-- Sends a request in a mode. -/
def sendInOrHalt (mode : Mode) (s : Selection) (w : World σ) : Except Halt (Reply σ Selection) :=
  match mode with
  | .affinity => s.sendOrHalt t q w
  | .exhaustive => s.sendAllOrHalt t q w

variable {settings : CommunicationSettings} {answers : List IpAddr} {s : Selection}

/-- **A call halts exactly if the clock cuts it off**: everything else that it asks for is
there. -/
theorem sendInOrHalt_eq (moderate : settings.Moderate)
    (rests : ∀ e ∈ s.endpoints.toList, e.Rests settings) (ranked : s.Ranked answers)
    (mode : Mode) (w : World σ) : s.sendInOrHalt t q mode w = (s.sendIn mode t q w).orHalt := by
  cases mode with
  | affinity =>
    show s.sendOrHalt t q w = (s.send t q w).orHalt
    unfold sendOrHalt send
    split
    · rfl
    · exact Search.visitsOrHalt_eq t q moderate _
        (lasting_admitted (Endpoint.lasting_rests settings 0) (Nat.zero_le _) rests)
  | exhaustive =>
    have once : s.ordered.order.Nodup := ranked.perm_ordered.nodup_iff.2 List.nodup_range
    show s.sendAllOrHalt t q w = (s.sendAll t q w).orHalt
    rw [Reply.orHalt_of_ok (s.account_sendAll t q w).result]
    exact Search.turnsOrHalt_eq t q [] s.ordered.order (s := .start s.ordered w) rfl once

end Selection

/-! ## Calls of a manager -/

namespace Manager

variable {σ : Type}

/-- The manager with its endpoints looked for. -/
def resolveOrHalt (v : Service σ) (m : Manager) (w : World σ) :
    Except Halt (Manager × List Event × World σ) :=
  match m with
  | unresolved => do
    let found ← resolveEndpointsOrHalt v.url v.settings v.resolver w.now w.random
    let m := match found.result with
      | .ok set => ready (.ofSet set)
      | .error f => failed f
    return (m, found.events, { w with random := found.random })
  | m => return (m, [], w)

/-- A call of a manager that has looked for its endpoints. -/
def sendResolvedOrHalt (v : Service σ) (mode : Mode) (q : Request) (m : Manager) (w : World σ) :
    Except Halt (Reply σ Manager) :=
  match m with
  | unresolved => return ⟨.ok (.error .unavailable), [], m, w⟩
  | failed f => return ⟨.ok (.error f), [], m, w⟩
  | ready s => return (← s.sendInOrHalt v.transport q mode w).map ready

/-- Sends a request in a mode. -/
def sendInOrHalt (v : Service σ) (mode : Mode) (q : Request) (m : Manager) (w : World σ) :
    Except Halt (Reply σ Manager) := do
  let (m, events, w) ← m.resolveOrHalt v w
  let reply ← m.sendResolvedOrHalt v mode q w
  return { reply with events := events ++ reply.events }

variable {v : Service σ} {m : Manager} {w : World σ} {answers : List IpAddr}

theorem resolveOrHalt_eq (fits : v.settings.failPeriod < UInt64.size) (m : Manager)
    (w : World σ) : m.resolveOrHalt v w = .ok (m.resolve v w) := by
  cases m with
  | failed | ready => rfl
  | unresolved =>
    unfold resolveOrHalt
    dsimp only
    rw [resolveEndpointsOrHalt_eq fits]
    rfl

theorem sendResolvedOrHalt_eq (moderate : v.settings.Moderate) {now : Instant}
    (drawn : m.Drawn v.settings now) (ranked : m.Ranked answers) (mode : Mode) (q : Request)
    (w : World σ) : m.sendResolvedOrHalt v mode q w = (m.sendResolved v mode q w).orHalt := by
  cases m with
  | unresolved | failed => rfl
  | ready s =>
    unfold sendResolvedOrHalt sendResolved
    dsimp only
    rw [Selection.sendInOrHalt_eq v.transport q moderate (drawn s rfl).endpoints ranked mode w]
    exact Reply.orHalt_of_same (s.sendIn mode v.transport q w) rfl

/-- **A call of a manager halts exactly if the clock cuts it off.** -/
theorem sendInOrHalt_eq (moderate : v.settings.Moderate) (drawn : m.Drawn v.settings w.now)
    (ranked : m.Ranked answers) (mode : Mode) (q : Request) :
    m.sendInOrHalt v mode q w = (m.sendIn v mode q w).orHalt := by
  have fits : v.settings.failPeriod < UInt64.size :=
    Nat.lt_trans moderate.failPeriod Instant.middle_lt_word
  have resolved := sendResolvedOrHalt_eq moderate drawn.resolve (ranked.resolve v w) mode q
    (m.resolve v w).2.2
  unfold sendInOrHalt sendIn
  rw [resolveOrHalt_eq fits]
  generalize m.resolve v w = found at resolved
  obtain ⟨m', events, w'⟩ := found
  show (m'.sendResolvedOrHalt v mode q w' >>= _) = _
  rw [resolved]
  exact Reply.orHalt_of_same (m'.sendResolved v mode q w') rfl

end Manager

end Uplink
