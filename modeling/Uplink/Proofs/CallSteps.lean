import Uplink.Proofs.History

/-!
# A call, step by step

A call is a function of the state it finds, and it computes its reply in one go. The
program gets there in steps: it looks for the endpoints, asks the breaker, checks an
endpoint, sends a request to it and waits for the answer. Between two steps others
may get their turn, and while an answer is awaited the clock runs. So the state that
a call works on is one that it shares, and it finds there at every step what was left
there last.

What is shared is a `Desk`: the manager, the world, and a log of everything that was
done outside. What a call keeps to itself is how far it has come (`Progress`). A step
takes both and returns both, or it returns the reply.

Whatever a call has still to do can also be done in one go (`Progress.complete`). A
step does not change what that comes to (`Progress.complete_of_step`), and neither
does the passing of time as long as an answer is awaited. That is all that has to be
known about the steps: a call that nobody interferes with comes to what the function
says.
-/

namespace Uplink

/-! ## Attempts that take their time -/

/-- **An attempt on its way**: when it began, when it will be over, and what it will
come to. -/
structure Flight where
  started : Instant
  due : Instant
  outcome : Outcome

namespace Endpoint

/-- **What the end of an attempt means for the endpoint**: its answer is judged, and
a success is recorded. -/
def receive (e : Endpoint) (now : Instant) (outcome : Outcome) : Outcome × Endpoint :=
  match outcome.bind (·.judge e.address) with
  | .ok r => (.ok r, e.succeeded now)
  | .error f => (.error f, e)

/-- Sending is an attempt and what its end means. -/
theorem send_eq_receive {σ : Type} (t : Transport σ) (q : Request) (e : Endpoint)
    (w : World σ) :
    e.send t q w
      = ((e.receive (t.run q e.address w).2.now (t.run q e.address w).1).1,
          (e.receive (t.run q e.address w).2.now (t.run q e.address w).1).2,
          (t.run q e.address w).2) := by
  unfold send receive
  cases ran : t.run q e.address w with
  | mk outcome w' =>
    cases outcome with
    | error f => rfl
    | ok r =>
      dsimp only [Except.bind]
      cases r.judge e.address <;> rfl

end Endpoint

namespace Search

variable {σ : Type}

/-- A request goes out to an address. -/
def depart (t : Transport σ) (q : Request) (address : IpAddr) (s : Search σ) :
    Flight × Search σ :=
  let (attempt, wire) := t.attempt q address s.world.now s.world.wire
  ( ⟨s.world.now, s.world.now + attempt.delay, attempt.outcome⟩,
    { s with world := { s.world with wire } } )

/-- The attempt with the endpoint at a position is over. -/
def land (q : Request) (i : Nat) (e : Endpoint) (f : Flight) (s : Search σ) :
    Outcome × Search σ :=
  let (outcome, e') := e.receive s.world.now f.outcome
  let event := Event.contact e.address q f.started s.world.now outcome
  ( outcome,
    { s.withEndpoint i e' with
      events := s.events ++ [event], contacted := i :: s.contacted } )

/-- The search at another time. -/
def atTime (s : Search σ) (now : Instant) : Search σ :=
  { s with world := { s.world with now } }

/-- **A contact is an attempt that goes out and is over when it is due.** -/
theorem contact_eq_land (t : Transport σ) (q : Request) (i : Nat) (e : Endpoint)
    (s : Search σ) :
    s.contact t q i e
      = land q i e (s.depart t q e.address).1
          ((s.depart t q e.address).2.atTime (s.depart t q e.address).1.due) := by
  unfold contact
  rw [Endpoint.send_eq_receive]
  rfl

end Search

/-! ## What is left of a call of the selection -/

/-- **What an attempt is made for**: a visit or a turn, and what comes after it. -/
inductive Errand where
  | visit (v : Visit) (rest : List Visit)
  | turn (i : Nat) (rest : List Nat)

/-- **What a call has still to do.** -/
inductive Todo where
  /-- To visit endpoints, with affinity. -/
  | visits (vs : List Visit)
  /-- To try positions, exhaustively. -/
  | turns (positions : List Nat)
  /-- To send the request to an endpoint. -/
  | ask (errand : Errand)
  /-- To wait for an endpoint's answer. -/
  | await (errand : Errand) (f : Flight)

namespace Errand

variable {σ : Type}

/-- The position of the endpoint that is asked. -/
def position : Errand → Nat
  | visit v _ => v.position
  | turn i _ => i

/-- What is left when the errand is done. -/
def rest : Errand → Todo
  | visit _ vs => .visits vs
  | turn _ positions => .turns positions

/-- How many steps are left when the errand is done, at most. -/
def left : Errand → Nat
  | visit _ vs => 3 * vs.length + 1
  | turn _ positions => 3 * positions.length + 1

/-- **What follows from an outcome**: the call ends, or it goes on. -/
def settle (errand : Errand) (outcome : Outcome) (s : Search σ) :
    Reply σ Selection ⊕ Search σ :=
  match errand with
  | visit v _ =>
    s.settle outcome (v.answered s.selection.affinity) (v.failed s.selection.affinity)
  | turn i _ =>
    match outcome with
    | .ok r => .inl ((s.promote i).finish (.ok (.ok r)))
    | .error f =>
      if f.isConnectivity then .inr { s with failure := some f }
      else .inl (s.finish (.ok (.error f)))

/-- What is left when the errand is done, in one go. -/
def proceed (t : Transport σ) (q : Request) (errand : Errand) (s : Search σ) :
    Reply σ Selection :=
  match errand with
  | visit _ vs => s.visits t q vs
  | turn _ positions => s.attempts t q positions

/-- The rest of the call in one go, from the outcome of the errand on. -/
def complete (t : Transport σ) (q : Request) (errand : Errand) (outcome : Outcome)
    (s : Search σ) : Reply σ Selection :=
  (errand.settle outcome s).elim id (errand.proceed t q)

section Complete

variable (t : Transport σ) (q : Request) (outcome : Outcome) (s : Search σ)

theorem complete_visit (v : Visit) (vs : List Visit) :
    (visit v vs).complete t q outcome s
      = match s.settle outcome (v.answered s.selection.affinity)
          (v.failed s.selection.affinity) with
        | .inl r => r
        | .inr s => s.visits t q vs := by
  show (s.settle outcome _ _).elim id (fun s => s.visits t q vs) = _
  cases s.settle outcome (v.answered s.selection.affinity) (v.failed s.selection.affinity) <;> rfl

theorem complete_turn (i : Nat) (positions : List Nat) :
    (turn i positions).complete t q outcome s
      = match outcome with
        | .ok r => (s.promote i).finish (.ok (.ok r))
        | .error f =>
          if f.isConnectivity then { s with failure := some f }.attempts t q positions
          else s.finish (.ok (.error f)) := by
  cases outcome with
  | ok r => rfl
  | error f =>
    unfold complete settle
    dsimp only
    cases f.isConnectivity <;> rfl

end Complete

end Errand

namespace Todo

variable {σ : Type} (t : Transport σ) (q : Request)

/-- The check that a visit begins with. -/
def examine (v : Visit) (vs : List Visit) (s : Search σ) :
    Reply σ Selection ⊕ Todo × Search σ :=
  if v.position ∈ s.contacted then .inr (visits vs, s)
  else
    match s.selection.endpoints.get? v.position with
    | none => .inr (visits vs, s)
    | some e =>
      match e.check s.world.now s.world.random with
      | .error o => .inl (s.finish (.error o))
      | .ok (available, e, random) =>
        .inr (if available then ask (.visit v vs) else visits vs,
          s.checked v.position e random)

/-- **One step of a call.** There is none as long as an answer is awaited that is
not due. -/
def step (d : Todo) (s : Search σ) : Option (Reply σ Selection ⊕ Todo × Search σ) :=
  match d with
  | visits [] => some (.inl s.exhausted)
  | visits (v :: vs) => some (examine v vs s)
  | turns [] => some (.inl (s.finish (.ok (.error s.lastFailure))))
  | turns (i :: positions) =>
    match s.selection.endpoints.get? i with
    | none => some (.inr (turns positions, s))
    | some _ => some (.inr (ask (.turn i positions), s))
  | ask errand =>
    match s.selection.endpoints.get? errand.position with
    | none => none
    | some e =>
      let (f, s) := s.depart t q e.address
      some (.inr (await errand f, s))
  | await errand f =>
    match s.selection.endpoints.get? errand.position with
    | none => none
    | some e =>
      if s.world.now = f.due then
        let (outcome, s) := s.land q errand.position e f
        some ((errand.settle outcome s).map id fun s => (errand.rest, s))
      else none

/-- **All that is left, in one go.** An answer is awaited until it is due. -/
def complete (d : Todo) (s : Search σ) : Reply σ Selection :=
  match d with
  | visits vs => s.visits t q vs
  | turns positions => s.attempts t q positions
  | ask errand =>
    match s.selection.endpoints.get? errand.position with
    | none => s.exhausted
    | some e =>
      let (outcome, s) := s.contact t q errand.position e
      errand.complete t q outcome s
  | await errand f =>
    let s := s.atTime f.due
    match s.selection.endpoints.get? errand.position with
    | none => s.exhausted
    | some e =>
      let (outcome, s) := s.land q errand.position e f
      errand.complete t q outcome s

variable {t q} {d d' : Todo} {s s' : Search σ} {r : Reply σ Selection}

/-- An endpoint is asked, and its answer is awaited. -/
theorem complete_ask (errand : Errand) {e : Endpoint}
    (found : s.selection.endpoints.get? errand.position = some e) :
    (ask errand).complete t q s
      = errand.complete t q (s.contact t q errand.position e).1
          (s.contact t q errand.position e).2 := by
  unfold complete
  simp only [found]

/-- An answer is awaited until it is due. -/
theorem complete_await {errand : Errand} {f : Flight} {e : Endpoint}
    (found : s.selection.endpoints.get? errand.position = some e) :
    (await errand f).complete t q s
      = errand.complete t q ((s.atTime f.due).land q errand.position e f).1
          ((s.atTime f.due).land q errand.position e f).2 := by
  unfold complete
  dsimp only
  rw [show (s.atTime f.due).selection = s.selection from rfl, found]

/-- A visit's check does not change what the visits come to. -/
theorem complete_examine (v : Visit) (vs : List Visit) (s : Search σ) :
    (examine v vs s).elim id (fun next => next.1.complete t q next.2)
      = s.visits t q (v :: vs) := by
  unfold Search.visits Search.visit examine
  by_cases known : v.position ∈ s.contacted
  · rw [if_pos known, if_pos known]
    rfl
  rw [if_neg known, if_neg known]
  cases found : s.selection.endpoints.get? v.position with
  | none => rfl
  | some e =>
    dsimp only
    cases check : e.check s.world.now s.world.random with
    | error o => rfl
    | ok verdict =>
      obtain ⟨available, e', random⟩ := verdict
      cases available with
      | false => rfl
      | true =>
        have there : (s.checked v.position e' random).selection.endpoints.get? v.position
            = some e' := (Search.get?_checked s random found v.position).trans (if_pos rfl)
        exact (complete_ask (.visit v vs) there).trans (Errand.complete_visit ..)

/-- **What a step can do**, by what there is to do. -/
inductive Stepped (t : Transport σ) (q : Request) (s : Search σ) :
    Todo → Reply σ Selection ⊕ Todo × Search σ → Prop
  | exhausted : Stepped t q s (visits []) (.inl s.exhausted)
  | examined {v : Visit} {vs : List Visit} : Stepped t q s (visits (v :: vs)) (examine v vs s)
  | ended : Stepped t q s (turns []) (.inl (s.finish (.ok (.error s.lastFailure))))
  | passed {i : Nat} {positions : List Nat} (missing : s.selection.endpoints.get? i = none) :
      Stepped t q s (turns (i :: positions)) (.inr (turns positions, s))
  | tried {i : Nat} {positions : List Nat} {e : Endpoint}
      (found : s.selection.endpoints.get? i = some e) :
      Stepped t q s (turns (i :: positions)) (.inr (ask (.turn i positions), s))
  | departed {errand : Errand} {e : Endpoint}
      (found : s.selection.endpoints.get? errand.position = some e) :
      Stepped t q s (ask errand)
        (.inr (await errand (s.depart t q e.address).1, (s.depart t q e.address).2))
  | decided {errand : Errand} {f : Flight} {e : Endpoint} {r : Reply σ Selection}
      (found : s.selection.endpoints.get? errand.position = some e)
      (due : s.world.now = f.due)
      (settled : errand.settle (s.land q errand.position e f).1
        (s.land q errand.position e f).2 = .inl r) :
      Stepped t q s (await errand f) (.inl r)
  | failed {errand : Errand} {f : Flight} {e : Endpoint} {s' : Search σ}
      (found : s.selection.endpoints.get? errand.position = some e)
      (due : s.world.now = f.due)
      (settled : errand.settle (s.land q errand.position e f).1
        (s.land q errand.position e f).2 = .inr s') :
      Stepped t q s (await errand f) (.inr (errand.rest, s'))

/-- **A step does one of these things**, and it can do each of them. -/
theorem step_eq_some_iff {result : Reply σ Selection ⊕ Todo × Search σ} :
    d.step t q s = some result ↔ Stepped t q s d result := by
  constructor
  · intro h
    unfold step at h
    split at h
    · exact Option.some.inj h ▸ .exhausted
    · exact Option.some.inj h ▸ .examined
    · exact Option.some.inj h ▸ .ended
    · split at h
      · exact Option.some.inj h ▸ .passed ‹_›
      · exact Option.some.inj h ▸ .tried ‹_›
    · split at h
      · cases h
      · exact Option.some.inj h ▸ .departed ‹_›
    · split at h
      · cases h
      · rename_i errand f _ e found
        split at h
        · rename_i due
          have same : (errand.settle (s.land q errand.position e f).1
              (s.land q errand.position e f).2).map id (fun s => (errand.rest, s)) = result :=
            Option.some.inj h
          cases settled : errand.settle (s.land q errand.position e f).1
              (s.land q errand.position e f).2 <;> rw [settled] at same
          · exact same ▸ .decided found due settled
          · exact same ▸ .failed found due settled
        · cases h
  · intro h
    cases h with
    | exhausted | examined | ended => rfl
    | passed missing => simp only [step, missing]
    | tried found | departed found => simp only [step, found]
    | decided found due settled | failed found due settled =>
      simp only [step, found, if_pos due, settled, Sum.map_inl, Sum.map_inr, id]

/-- **A step does not change what a call comes to.** -/
theorem complete_of_step {result : Reply σ Selection ⊕ Todo × Search σ}
    (h : d.step t q s = some result) :
    result.elim id (fun next => next.1.complete t q next.2) = d.complete t q s := by
  cases step_eq_some_iff.1 h with
  | exhausted | ended => rfl
  | examined => exact complete_examine _ _ s
  | passed missing =>
    show s.attempts t q _ = s.attempts t q (_ :: _)
    simp only [Search.attempts, missing]
  | @tried i positions e found =>
    show _ = s.attempts t q (i :: positions)
    simp only [Search.attempts, found]
    exact (complete_ask (.turn i positions) found).trans (Errand.complete_turn ..)
  | @departed errand e found =>
    refine (complete_await (s := (s.depart t q e.address).2) found).trans ?_
    rw [complete_ask errand found, Search.contact_eq_land]
  | @decided errand f e r found due settled =>
    rw [complete_await found, show s.atTime f.due = s from due ▸ rfl]
    show _ = (errand.settle _ _).elim id (errand.proceed t q)
    rw [settled]
    rfl
  | @failed errand f e s' found due settled =>
    rw [complete_await found, show s.atTime f.due = s from due ▸ rfl]
    show _ = (errand.settle _ _).elim id (errand.proceed t q)
    rw [settled]
    cases errand <;> rfl

/-- **While an answer is awaited, time may pass.** -/
theorem complete_atTime (errand : Errand) (f : Flight) (s : Search σ) (now : Instant) :
    (await errand f).complete t q (s.atTime now) = (await errand f).complete t q s := rfl

/-- **What there is to do can be done**: the endpoint that is asked exists, and its
answer is not overdue. -/
def Fits (d : Todo) (s : Selection) (now : Instant) : Prop :=
  match d with
  | ask errand => ∃ e, s.endpoints.get? errand.position = some e
  | await errand f => (∃ e, s.endpoints.get? errand.position = some e) ∧ now ≤ f.due
  | _ => True

/-- After a visit's check an endpoint is asked that exists. -/
theorem fits_examine {v : Visit} {vs : List Visit}
    (h : examine v vs s = .inr (d', s')) : d'.Fits s'.selection s'.world.now := by
  unfold examine at h
  split at h
  · obtain ⟨rfl, rfl⟩ := Prod.mk.inj (Sum.inr.inj h)
    trivial
  cases found : s.selection.endpoints.get? v.position with
  | none =>
    simp only [found] at h
    obtain ⟨rfl, rfl⟩ := Prod.mk.inj (Sum.inr.inj h)
    trivial
  | some e =>
    simp only [found] at h
    split at h
    · cases h
    · rename_i available e' random _
      obtain ⟨rfl, rfl⟩ := Prod.mk.inj (Sum.inr.inj h)
      cases available with
      | false => trivial
      | true => exact ⟨e', (Search.get?_checked s random found v.position).trans (if_pos rfl)⟩

/-- **A step leaves what can be done.** -/
theorem fits_of_step (h : d.step t q s = some (.inr (d', s'))) :
    d'.Fits s'.selection s'.world.now := by
  generalize next : Sum.inr (d', s') = result at h
  cases step_eq_some_iff.1 h with
  | exhausted | ended | decided => cases next
  | examined => exact fits_examine next.symm
  | passed =>
    obtain ⟨rfl, rfl⟩ := Prod.mk.inj (Sum.inr.inj next)
    trivial
  | tried found =>
    obtain ⟨rfl, rfl⟩ := Prod.mk.inj (Sum.inr.inj next)
    exact ⟨_, found⟩
  | departed found =>
    obtain ⟨rfl, rfl⟩ := Prod.mk.inj (Sum.inr.inj next)
    exact ⟨⟨_, found⟩, Nat.le_add_right s.world.now _⟩
  | @failed errand =>
    obtain ⟨rfl, rfl⟩ := Prod.mk.inj (Sum.inr.inj next)
    cases errand <;> trivial

/-- **How many steps are left**, at most. -/
def left : Todo → Nat
  | visits vs => 3 * vs.length + 1
  | turns positions => 3 * positions.length + 1
  | ask errand => errand.left + 2
  | await errand _ => errand.left + 1

/-- Three steps are enough for a visit. -/
theorem left_examine {v : Visit} {vs : List Visit} (h : examine v vs s = .inr (d', s')) :
    d'.left < (visits (v :: vs)).left := by
  have asked : (ask (.visit v vs)).left < (visits (v :: vs)).left := Nat.lt_succ_self _
  have passed : (visits vs).left < (visits (v :: vs)).left :=
    Nat.lt_trans (Nat.lt_add_of_pos_right (Nat.zero_lt_two)) asked
  unfold examine at h
  split at h
  · obtain ⟨rfl, -⟩ := Prod.mk.inj (Sum.inr.inj h)
    exact passed
  split at h
  · obtain ⟨rfl, -⟩ := Prod.mk.inj (Sum.inr.inj h)
    exact passed
  split at h
  · cases h
  · rename_i available _ _ _
    obtain ⟨rfl, -⟩ := Prod.mk.inj (Sum.inr.inj h)
    cases available with
    | false => exact passed
    | true => exact asked

/-- **With every step there are fewer.** -/
theorem left_lt_of_step (h : d.step t q s = some (.inr (d', s'))) : d'.left < d.left := by
  generalize next : Sum.inr (d', s') = result at h
  cases step_eq_some_iff.1 h with
  | exhausted | ended | decided => cases next
  | examined => exact left_examine next.symm
  | passed | tried =>
    obtain ⟨rfl, -⟩ := Prod.mk.inj (Sum.inr.inj next)
    unfold left
    simp only [List.length_cons, Errand.left]
    omega
  | departed =>
    obtain ⟨rfl, -⟩ := Prod.mk.inj (Sum.inr.inj next)
    exact Nat.lt_succ_self _
  | @failed errand =>
    obtain ⟨rfl, -⟩ := Prod.mk.inj (Sum.inr.inj next)
    cases errand <;> exact Nat.lt_succ_self _

/-- **There is a next step, or an answer is awaited** that is not due yet. -/
theorem step_or_awaits (h : d.Fits s.selection s.world.now) :
    (∃ result, d.step t q s = some result)
      ∨ ∃ errand f, d = await errand f ∧ s.world.now < f.due := by
  cases d with
  | visits vs => cases vs <;> exact .inl ⟨_, rfl⟩
  | turns positions =>
    cases positions with
    | nil => exact .inl ⟨_, rfl⟩
    | cons i positions =>
      cases found : s.selection.endpoints.get? i with
      | none => exact .inl ⟨_, step_eq_some_iff.2 (.passed found)⟩
      | some e => exact .inl ⟨_, step_eq_some_iff.2 (.tried found)⟩
  | ask errand =>
    obtain ⟨e, found⟩ := h
    exact .inl ⟨_, step_eq_some_iff.2 (.departed found)⟩
  | await errand f =>
    obtain ⟨⟨e, found⟩, early⟩ := h
    by_cases due : s.world.now = f.due
    · cases settled : errand.settle (s.land q errand.position e f).1
          (s.land q errand.position e f).2 with
      | inl r => exact .inl ⟨_, step_eq_some_iff.2 (.decided found due settled)⟩
      | inr s' => exact .inl ⟨_, step_eq_some_iff.2 (.failed found due settled)⟩
    · exact .inr ⟨errand, f, rfl, Nat.lt_of_le_of_ne early due⟩

end Todo

/-! ## Calls that follow a log -/

/-- A reply with a log before its events. -/
def Reply.after {σ ρ : Type} (log : List Event) (r : Reply σ ρ) : Reply σ ρ :=
  { r with events := log ++ r.events }

namespace Search

variable {σ : Type} (t : Transport σ) (q : Request) (log : List Event)

/-- A search with a log before its events. -/
def after (s : Search σ) : Search σ :=
  { s with events := log ++ s.events }

theorem contact_after (i : Nat) (e : Endpoint) (s : Search σ) :
    (s.after log).contact t q i e
      = ((s.contact t q i e).1, (s.contact t q i e).2.after log) := by
  unfold contact after
  simp only [List.append_assoc]
  rfl

theorem settle_after (outcome : Outcome) (answered failed : Option Nat) (s : Search σ) :
    (s.after log).settle outcome answered failed
      = (s.settle outcome answered failed).map (·.after log) (·.after log) := by
  cases outcome with
  | ok r => rfl
  | error f =>
    unfold settle
    dsimp only
    cases f.isConnectivity <;> rfl

theorem visit_after (v : Visit) (s : Search σ) :
    (s.after log).visit t q v = (s.visit t q v).map (·.after log) (·.after log) := by
  unfold visit
  by_cases known : v.position ∈ s.contacted
  · rw [if_pos known, if_pos (show v.position ∈ (s.after log).contacted from known)]
    rfl
  rw [if_neg known, if_neg (show v.position ∉ (s.after log).contacted from known)]
  rw [show (s.after log).selection = s.selection from rfl]
  cases s.selection.endpoints.get? v.position with
  | none => rfl
  | some e =>
    rw [show (s.after log).world = s.world from rfl]
    dsimp only
    cases e.check s.world.now s.world.random with
    | error o => rfl
    | ok verdict =>
      obtain ⟨available, e', random⟩ := verdict
      cases available with
      | false => rfl
      | true =>
        show (((s.checked v.position e' random).after log).contact t q v.position e').2.settle ..
          = _
        rw [contact_after]
        exact settle_after log _ _ _ _

/-- **A call does the same after a log.** -/
theorem visits_after (vs : List Visit) (s : Search σ) :
    (s.after log).visits t q vs = (s.visits t q vs).after log := by
  induction vs generalizing s with
  | nil =>
    show (s.after log).exhausted = s.exhausted.after log
    unfold exhausted
    rw [show (s.after log).selection = s.selection from rfl]
    split <;> rfl
  | cons v vs ih =>
    unfold visits
    rw [visit_after]
    cases s.visit t q v with
    | inl r => rfl
    | inr s => exact ih s

theorem attempts_after (positions : List Nat) (s : Search σ) :
    (s.after log).attempts t q positions = (s.attempts t q positions).after log := by
  induction positions generalizing s with
  | nil => rfl
  | cons i positions ih =>
    unfold attempts
    rw [show (s.after log).selection = s.selection from rfl]
    cases s.selection.endpoints.get? i with
    | none => exact ih s
    | some e =>
      dsimp only
      rw [contact_after]
      cases (s.contact t q i e).1 with
      | ok r => rfl
      | error f =>
        dsimp only
        cases f.isConnectivity with
        | true => exact ih { (s.contact t q i e).2 with failure := some f }
        | false => rfl

end Search

namespace Selection

variable {σ : Type}

/-- **How a call begins** in a mode: what it has to do, and the state it does it in. An
open breaker stops a call with affinity. -/
def begin (mode : Mode) (s : Selection) (now : Instant) : Option (Todo × Selection) :=
  match mode with
  | .affinity =>
    if s.breaker.blocks now then none
    else some (.visits (s.admitted now).plan, s.admitted now)
  | .exhaustive => some (.turns s.ordered.order, s.ordered)

/-- A call is what it has to do when it begins. -/
theorem sendIn_eq_begin (mode : Mode) (t : Transport σ) (q : Request) (s : Selection)
    (w : World σ) :
    s.sendIn mode t q w
      = match s.begin mode w.now with
        | none => ⟨.ok (.error .unavailable), [], s, w⟩
        | some (d, s) => d.complete t q (.start s w) := by
  cases mode with
  | exhaustive => rfl
  | affinity =>
    unfold begin sendIn send
    dsimp only
    cases s.breaker.blocks w.now <;> rfl

/-- After a log it has the same to do. -/
theorem complete_after_of_begin {mode : Mode} {s s' : Selection} {now : Instant} {d : Todo}
    (h : s.begin mode now = some (d, s')) (t : Transport σ) (q : Request) (log : List Event)
    (search : Search σ) :
    d.complete t q (search.after log) = (d.complete t q search).after log := by
  cases mode with
  | exhaustive =>
    obtain ⟨rfl, rfl⟩ := Prod.mk.inj (Option.some.inj h)
    exact Search.attempts_after t q log _ search
  | affinity =>
    unfold begin at h
    dsimp only at h
    split at h
    · cases h
    · obtain ⟨rfl, rfl⟩ := Prod.mk.inj (Option.some.inj h)
      exact Search.visits_after t q log _ search

/-- Nothing that cannot be done. -/
theorem fits_of_begin {mode : Mode} {s s' : Selection} {now : Instant} {d : Todo}
    (h : s.begin mode now = some (d, s')) : d.Fits s' now := by
  cases mode with
  | exhaustive =>
    obtain ⟨rfl, rfl⟩ := Prod.mk.inj (Option.some.inj h)
    trivial
  | affinity =>
    unfold begin at h
    dsimp only at h
    split at h
    · cases h
    · obtain ⟨rfl, rfl⟩ := Prod.mk.inj (Option.some.inj h)
      trivial

end Selection

/-! ## What is shared -/

/-- **What callers share**: a manager, the world, and the log of what was done
outside. -/
structure Desk (σ : Type) where
  manager : Manager
  world : World σ
  log : List Event

namespace Desk

variable {σ : Type}

/-- A manager that has not been asked for anything. -/
def start (w : World σ) : Desk σ :=
  ⟨.unresolved, w, []⟩

/-- The desk that a call leaves, whose reply tells the whole log. -/
def left (r : Reply σ Manager) : Desk σ :=
  ⟨r.state, r.world, r.events⟩

/-- A while has passed. -/
def wait (d : Desk σ) (ms : Nat) : Desk σ :=
  { d with world := d.world.wait ms }

end Desk

/-- **How far a call of the manager has come.** -/
inductive Progress where
  /-- It has to look for the endpoints. -/
  | begun
  /-- It has to be let through. -/
  | resolved
  /-- It is under way, with what it has contacted and how the last contact failed. -/
  | underway (todo : Todo) (contacted : List Nat) (failure : Option Failure)

namespace Progress

variable {σ : Type} (v : Service σ) (mode : Mode) (q : Request)

/-- When the answer is due that the call waits for, if it waits for one. -/
def due? : Progress → Option Instant
  | underway (.await _ f) _ _ => some f.due
  | _ => none

/-- **One step of a call**: the reply, or how far it has come and what it leaves for
the next step. -/
def step (p : Progress) (d : Desk σ) : Option (Reply σ Manager ⊕ Progress × Desk σ) :=
  match p with
  | begun =>
    let found := d.manager.resolve v d.world
    some (.inr (resolved, ⟨found.1, found.2.2, d.log ++ found.2.1⟩))
  | resolved =>
    match d.manager with
    | .unresolved => some (.inl ⟨.ok (.error .unavailable), d.log, .unresolved, d.world⟩)
    | .failed f => some (.inl ⟨.ok (.error f), d.log, .failed f, d.world⟩)
    | .ready s =>
      match s.begin mode d.world.now with
      | none => some (.inl ⟨.ok (.error .unavailable), d.log, .ready s, d.world⟩)
      | some (todo, s) => some (.inr (underway todo [] none, { d with manager := .ready s }))
  | underway todo contacted failure =>
    match d.manager with
    | .ready s =>
      (todo.step v.transport q ⟨s, d.world, d.log, contacted, failure⟩).map fun
        | .inl r => .inl (r.map .ready)
        | .inr (todo, s) =>
          .inr (underway todo s.contacted s.failure, ⟨.ready s.selection, s.world, s.events⟩)
    | _ => none

/-- **All that is left, in one go.** -/
def complete (p : Progress) (d : Desk σ) : Reply σ Manager :=
  match p with
  | begun => (d.manager.sendIn v mode q d.world).after d.log
  | resolved => (d.manager.sendResolved v mode q d.world).after d.log
  | underway todo contacted failure =>
    match d.manager with
    | .ready s =>
      (todo.complete v.transport q ⟨s, d.world, d.log, contacted, failure⟩).map .ready
    | m => ⟨.ok (.error .unavailable), d.log, m, d.world⟩

/-- **What a call has still to do can be done**: once it is under way it has found
endpoints. -/
def Fits (p : Progress) (d : Desk σ) : Prop :=
  match p with
  | underway todo _ _ => ∃ s, d.manager = .ready s ∧ todo.Fits s d.world.now
  | _ => True

variable {v mode q} {p p' : Progress} {d d' : Desk σ}

/-- A call that has found endpoints and is let through goes on as it begins. -/
theorem complete_underway_of_begin {s s' : Selection} {todo : Todo}
    (h : s.begin mode d.world.now = some (todo, s')) :
    (underway todo [] none).complete v mode q { d with manager := .ready s' }
      = (((Manager.ready s).sendResolved v mode q d.world).after d.log) := by
  show (todo.complete v.transport q ⟨s', d.world, d.log, [], none⟩).map Manager.ready
    = ((s.sendIn mode v.transport q d.world).map Manager.ready).after d.log
  rw [Selection.sendIn_eq_begin, h]
  have started : ⟨s', d.world, d.log, [], none⟩ = (Search.start s' d.world).after d.log :=
    congrArg (Search.mk s' d.world · [] none) (List.append_nil d.log).symm
  rw [started, Selection.complete_after_of_begin h]
  rfl

/-- **A step does not change what a call comes to.** -/
theorem complete_of_step {result : Reply σ Manager ⊕ Progress × Desk σ}
    (h : p.step v mode q d = some result) :
    result.elim id (fun next => next.1.complete v mode q next.2) = p.complete v mode q d := by
  cases p with
  | begun =>
    obtain rfl := Option.some.inj h
    exact congrArg (Reply.mk _ · _ _) (List.append_assoc ..)
  | resolved =>
    obtain ⟨m, w, log⟩ := d
    cases m with
    | unresolved | failed f =>
      obtain rfl := Option.some.inj h
      exact congrArg (Reply.mk _ · _ _) (List.append_nil log).symm
    | ready s =>
      unfold step at h
      dsimp only at h
      cases begins : s.begin mode w.now with
      | none =>
        simp only [begins] at h
        obtain rfl := Option.some.inj h
        show _ = Reply.after log ((s.sendIn mode v.transport q w).map Manager.ready)
        rw [Selection.sendIn_eq_begin, begins]
        exact congrArg (Reply.mk _ · _ _) (List.append_nil log).symm
      | some first =>
        simp only [begins] at h
        obtain rfl := Option.some.inj h
        exact complete_underway_of_begin (d := ⟨.ready s, w, log⟩) begins
  | underway todo contacted failure =>
    obtain ⟨m, w, log⟩ := d
    cases m with
    | unresolved | failed f => cases h
    | ready s =>
      obtain ⟨next, stepped, rfl⟩ := Option.map_eq_some_iff.1 h
      have same := Todo.complete_of_step stepped
      show _ = (todo.complete v.transport q ⟨s, w, log, contacted, failure⟩).map Manager.ready
      rw [← same]
      cases next <;> rfl

/-- **Neither does the time that passes while an answer is awaited.** -/
theorem complete_wait (fits : p.Fits d) (awaiting : p.due? ≠ none) (ms : Nat) :
    p.complete v mode q (d.wait ms) = p.complete v mode q d := by
  obtain ⟨m, w, log⟩ := d
  cases p with
  | begun | resolved => exact absurd rfl awaiting
  | underway todo contacted failure =>
    obtain ⟨s, ready, _⟩ := fits
    obtain rfl : m = .ready s := ready
    cases todo with
    | visits | turns | ask => exact absurd rfl awaiting
    | await errand f =>
      exact congrArg (Reply.map Manager.ready)
        (Todo.complete_atTime errand f ⟨s, w, log, contacted, failure⟩ (w.now + ms))

/-- **How a call goes on.** -/
inductive Went (v : Service σ) (mode : Mode) (q : Request) (d : Desk σ) :
    Progress → Progress → Desk σ → Prop
  | resolved : Went v mode q d begun resolved
      ⟨(d.manager.resolve v d.world).1, (d.manager.resolve v d.world).2.2,
        d.log ++ (d.manager.resolve v d.world).2.1⟩
  | admitted {s s' : Selection} {todo : Todo} (ready : d.manager = .ready s)
      (begins : s.begin mode d.world.now = some (todo, s')) :
      Went v mode q d resolved (underway todo [] none) { d with manager := .ready s' }
  | stepped {s : Selection} {s' : Search σ} {todo todo' : Todo} {contacted : List Nat}
      {failure : Option Failure} (ready : d.manager = .ready s)
      (step : todo.step v.transport q ⟨s, d.world, d.log, contacted, failure⟩
        = some (.inr (todo', s'))) :
      Went v mode q d (underway todo contacted failure)
        (underway todo' s'.contacted s'.failure) ⟨.ready s'.selection, s'.world, s'.events⟩

/-- **A step after which a call goes on is one of these.** -/
theorem went_of_step (h : p.step v mode q d = some (.inr (p', d'))) :
    Went v mode q d p p' d' := by
  obtain ⟨m, w, log⟩ := d
  cases p with
  | begun =>
    obtain ⟨rfl, rfl⟩ := Prod.mk.inj (Sum.inr.inj (Option.some.inj h))
    exact .resolved
  | resolved =>
    cases m with
    | unresolved | failed f => cases h
    | ready s =>
      unfold step at h
      dsimp only at h
      split at h
      · cases h
      · rename_i begins
        obtain ⟨rfl, rfl⟩ := Prod.mk.inj (Sum.inr.inj (Option.some.inj h))
        exact .admitted rfl begins
  | underway todo contacted failure =>
    cases m with
    | unresolved | failed f => cases h
    | ready s =>
      obtain ⟨next, stepped, same⟩ := Option.map_eq_some_iff.1 h
      cases next with
      | inl r => cases same
      | inr next =>
        obtain ⟨rfl, rfl⟩ := Prod.mk.inj (Sum.inr.inj same)
        exact .stepped rfl stepped

/-- **A call that goes on** does not begin again, and can do what it has to do. -/
theorem fits_of_step (h : p.step v mode q d = some (.inr (p', d'))) :
    p' ≠ .begun ∧ p'.Fits d' := by
  cases went_of_step h with
  | resolved => exact ⟨nofun, trivial⟩
  | admitted _ begins => exact ⟨nofun, _, rfl, Selection.fits_of_begin begins⟩
  | stepped _ step => exact ⟨nofun, _, rfl, Todo.fits_of_step step⟩

/-- How far a call still has to go: to where it is under way, and then how many steps. -/
def rank : Progress → Nat × Nat
  | begun => (2, 0)
  | resolved => (1, 0)
  | underway todo _ _ => (0, todo.left)

/-- **With every step it is less far.** -/
theorem rank_lt_of_step (h : p.step v mode q d = some (.inr (p', d'))) :
    Prod.Lex (· < ·) (· < ·) p'.rank p.rank := by
  cases went_of_step h with
  | resolved => exact .left _ _ Nat.one_lt_two
  | admitted => exact .left _ _ Nat.one_pos
  | stepped _ step => exact .right _ (Todo.left_lt_of_step step)

/-- **There is a next step, or an answer is awaited** that is not due yet. -/
theorem step_or_awaits (fits : p.Fits d) :
    (∃ result, p.step v mode q d = some result)
      ∨ ∃ due, p.due? = some due ∧ d.world.now < due := by
  obtain ⟨m, w, log⟩ := d
  cases p with
  | begun => exact .inl ⟨_, rfl⟩
  | resolved =>
    cases m with
    | unresolved | failed f => exact .inl ⟨_, rfl⟩
    | ready s =>
      unfold step
      dsimp only
      cases s.begin mode w.now <;> exact .inl ⟨_, rfl⟩
  | underway todo contacted failure =>
    obtain ⟨s, ready, fits⟩ := fits
    obtain rfl : m = .ready s := ready
    obtain ⟨result, stepped⟩ | ⟨errand, f, rfl, early⟩ :=
      Todo.step_or_awaits (t := v.transport) (q := q) (s := ⟨s, w, log, contacted, failure⟩) fits
    · exact .inl ⟨_, Option.map_eq_some_iff.2 ⟨result, stepped, rfl⟩⟩
    · exact .inr ⟨f.due, rfl, early⟩

/-- **Time may pass up to the instant at which the answer is due.** -/
theorem Fits.wait (fits : p.Fits d) {ms : Nat}
    (allowed : p.due?.all (d.world.now + ms ≤ ·) = true) : p.Fits (d.wait ms) := by
  cases p with
  | begun | resolved => trivial
  | underway todo contacted failure =>
    obtain ⟨s, ready, fits⟩ := fits
    refine ⟨s, ready, ?_⟩
    cases todo with
    | visits | turns => trivial
    | ask errand => exact fits
    | await errand f => exact ⟨fits.1, of_decide_eq_true allowed⟩

end Progress

end Uplink
