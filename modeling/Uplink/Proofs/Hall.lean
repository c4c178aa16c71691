import Uplink.Proofs.CallSteps

/-!
# Callers that come together

Any number of callers may want the same manager at once. They queue for its lock,
whoever has it takes the steps of its call, and gives the lock back when it has its
reply. In between the others come and go, and time passes.

The lock is the only thing that keeps callers from the desk: a caller that is told to
take a step of its call takes it, whoever has the lock. So what has to be shown is that
nobody is ever told to who has not got it. That is an invariant (`Hall.Locked`): every
move keeps it, and so it holds after every run.

The hall never comes to a standstill. Whoever has the lock can take the next step, or
waits for an answer that is going to come, and the steps of a call get fewer. So from
every point a run can be brought to an end in which everybody who has come has got a
reply (`Hall.Locked.leads_to_end`).
-/

namespace Uplink

/-! ## The hall -/

/-- **Where a caller is.** -/
inductive Stage where
  /-- It has not come yet. -/
  | away
  /-- It waits for the lock. -/
  | queued
  /-- It has got the lock, and its call has come so far. -/
  | busy (p : Progress)
  /-- It has its reply, and has not given the lock back. -/
  | served
  | gone

namespace Stage

/-- Whether a caller has got the lock and has not given it back. -/
def isInside : Stage → Bool
  | busy _ | served => true
  | _ => false

/-- Whether a caller waits for the answer to an attempt. -/
def isAwaiting : Stage → Bool
  | busy p => p.due?.isSome
  | _ => false

/-- Whether a caller has got the lock and has no reply yet. -/
def isBusy : Stage → Bool
  | busy _ => true
  | _ => false

/-- The call that a caller has begun and has to finish. -/
def underway? : Stage → Option Progress
  | busy .begun => none
  | busy p => some p
  | _ => none

/-- Whether a caller has a call to finish and could take the next step. -/
def isIdling (stage : Stage) : Bool :=
  stage.underway?.any (·.due?.isNone)

/-- Whether an answer that is awaited is not due before an instant. -/
def allows (now : Instant) : Stage → Bool
  | busy p => p.due?.all (now ≤ ·)
  | _ => true

theorem isInside_of_isAwaiting {stage : Stage} (h : stage.isAwaiting = true) :
    stage.isInside = true := by
  cases stage with
  | busy p => rfl
  | away | queued | served | gone => cases h

theorem underway?_busy {p : Progress} (begun : p ≠ .begun) : (busy p).underway? = some p := by
  cases p with
  | begun => exact absurd rfl begun
  | resolved | underway => rfl

theorem eq_busy_of_underway? {stage : Stage} {p : Progress} (h : stage.underway? = some p) :
    stage = busy p := by
  cases stage with
  | busy p' =>
    cases p' with
    | begun => cases h
    | resolved | underway => exact congrArg busy (Option.some.inj h)
  | away | queued | served | gone => cases h

end Stage

/-- **The callers of a manager**, numbered, and what they share. -/
structure Hall (σ : Type) where
  desk : Desk σ
  stage : Nat → Stage
  queue : List Nat
  /-- Who has the lock. -/
  holder : Option Nat
  /-- Who has got the lock so far, in order. -/
  entered : List Nat
  /-- Who has got a reply so far, in order, and its result. -/
  returned : List (Nat × Except ClockOverflow Outcome)
  /-- How long calls have idled. -/
  idled : Nat

/-- **What can happen in the hall.** -/
inductive Move where
  /-- A caller comes and queues. -/
  | join (i : Nat)
  /-- The first of the queue gets the lock. -/
  | enter (i : Nat)
  /-- A caller takes the next step of its call. -/
  | advance (i : Nat)
  /-- A caller gives the lock back. -/
  | leave (i : Nat)
  /-- Time passes. -/
  | pass (ms : Nat)

namespace Move

/-- Who comes with a move. -/
def join? : Move → Option Nat
  | join i => some i
  | _ => none

end Move

/-- What a caller wants: a request in a mode. -/
abbrev Job := Mode × Request

namespace Hall

variable {σ : Type}

/-- Nobody has come yet. -/
def start (w : World σ) : Hall σ :=
  ⟨.start w, fun _ => .away, [], none, [], [], 0⟩

/-- Where the callers are when one is at another stage. -/
def put (h : Hall σ) (i : Nat) (stage : Stage) : Nat → Stage :=
  fun j => if j = i then stage else h.stage j

/-- **One move**, if it can be made. Time does not pass beyond the instant at which an
answer is due. -/
def act (v : Service σ) (jobs : Nat → Job) (h : Hall σ) : Move → Option (Hall σ)
  | .join i =>
    match h.stage i with
    | .away => some { h with stage := h.put i .queued, queue := h.queue ++ [i] }
    | _ => none
  | .enter i =>
    match h.holder, h.queue with
    | none, first :: rest =>
      if first = i then
        some { h with
          stage := h.put i (.busy .begun)
          queue := rest
          holder := some i
          entered := h.entered ++ [i] }
      else none
    | _, _ => none
  | .advance i =>
    match h.stage i with
    | .busy p =>
      (p.step v (jobs i).1 (jobs i).2 h.desk).map fun
        | .inl r =>
          { h with
            desk := .left r
            stage := h.put i .served
            returned := h.returned ++ [(i, r.result)] }
        | .inr (p, desk) => { h with desk, stage := h.put i (.busy p) }
    | _ => none
  | .leave i =>
    match h.stage i with
    | .served => some { h with stage := h.put i .gone, holder := none }
    | _ => none
  | .pass ms =>
    if h.entered.all fun i => (h.stage i).allows (h.desk.world.now + ms) then
      some { h with
        desk := h.desk.wait ms
        idled := h.idled + if h.entered.any fun i => (h.stage i).isIdling then ms else 0 }
    else none

/-- **Moves one after the other**, if they can all be made. -/
def run (v : Service σ) (jobs : Nat → Job) : List Move → Hall σ → Option (Hall σ)
  | [], h => some h
  | m :: ms, h => (h.act v jobs m).bind (run v jobs ms)

/-! ## One move -/

/-- **What a move can do.** -/
inductive Acted (v : Service σ) (jobs : Nat → Job) (h : Hall σ) : Move → Hall σ → Prop
  | joined {i : Nat} (away : h.stage i = .away) :
      Acted v jobs h (.join i) { h with stage := h.put i .queued, queue := h.queue ++ [i] }
  | entered {i : Nat} {rest : List Nat} (free : h.holder = none) (first : h.queue = i :: rest) :
      Acted v jobs h (.enter i)
        { h with
          stage := h.put i (.busy .begun)
          queue := rest
          holder := some i
          entered := h.entered ++ [i] }
  | replied {i : Nat} {p : Progress} {r : Reply σ Manager} (busy : h.stage i = .busy p)
      (step : p.step v (jobs i).1 (jobs i).2 h.desk = some (.inl r)) :
      Acted v jobs h (.advance i)
        { h with
          desk := .left r
          stage := h.put i .served
          returned := h.returned ++ [(i, r.result)] }
  | stepped {i : Nat} {p p' : Progress} {desk : Desk σ} (busy : h.stage i = .busy p)
      (step : p.step v (jobs i).1 (jobs i).2 h.desk = some (.inr (p', desk))) :
      Acted v jobs h (.advance i) { h with desk, stage := h.put i (.busy p') }
  | left {i : Nat} (served : h.stage i = .served) :
      Acted v jobs h (.leave i) { h with stage := h.put i .gone, holder := none }
  | passed {ms : Nat}
      (allowed : (h.entered.all fun i => (h.stage i).allows (h.desk.world.now + ms)) = true) :
      Acted v jobs h (.pass ms)
        { h with
          desk := h.desk.wait ms
          idled := h.idled + if h.entered.any fun i => (h.stage i).isIdling then ms else 0 }

variable {v : Service σ} {jobs : Nat → Job} {h h' : Hall σ} {m : Move}

/-- **A move does one of these things**, and each of them can be done by a move. -/
theorem act_eq_some_iff : h.act v jobs m = some h' ↔ Acted v jobs h m h' := by
  constructor
  · intro made
    unfold act at made
    split at made
    · split at made
      · exact Option.some.inj made ▸ .joined ‹_›
      · cases made
    · split at made
      · split at made
        · rename_i free first same
          exact Option.some.inj made ▸ .entered free (same ▸ first)
        · cases made
      · cases made
    · split at made
      · obtain ⟨next, step, rfl⟩ := Option.map_eq_some_iff.1 made
        cases next with
        | inl r => exact .replied ‹_› step
        | inr next => exact .stepped ‹_› step
      · cases made
    · split at made
      · exact Option.some.inj made ▸ .left ‹_›
      · cases made
    · split at made
      · exact Option.some.inj made ▸ .passed ‹_›
      · cases made
  · intro acted
    unfold act
    cases acted with
    | joined away => simp only [away]
    | entered free first => simp only [free, first, if_true]
    | replied busy step => simp only [busy, step, Option.map_some]
    | stepped busy step => simp only [busy, step, Option.map_some]
    | left served => simp only [served]
    | passed allowed => exact if_pos allowed

/-! ## Who has the lock -/

/-- Who has got the lock and has no reply yet. -/
def pending (h : Hall σ) : List Nat :=
  match h.holder with
  | some i => if (h.stage i).isBusy then [i] else []
  | none => []

/-- **What holds in the hall**: who is inside has the lock, so only one is. Everybody who
waits for the lock is in the queue, once. A call that is under way can go on, and who has
got the lock has got a reply, in this order, but for the one who has the lock now. -/
structure Locked (h : Hall σ) : Prop where
  running : ∀ i, (h.stage i).isInside = true ↔ h.holder = some i
  queued : ∀ i, h.stage i = .queued ↔ i ∈ h.queue
  once : h.queue.Nodup
  fits : ∀ i p, h.stage i = .busy p → p.Fits h.desk
  answered : h.returned.map Prod.fst ++ h.pending = h.entered

theorem put_self (h : Hall σ) (i : Nat) (stage : Stage) : h.put i stage i = stage :=
  if_pos rfl

theorem put_of_ne (h : Hall σ) {i j : Nat} (stage : Stage) (ne : j ≠ i) :
    h.put i stage j = h.stage j :=
  if_neg ne

/-- One caller is at another stage, and the others are where they were. -/
theorem forall_put {P : Nat → Stage → Prop} {i : Nat} {stage : Stage} (here : P i stage)
    (others : ∀ j, j ≠ i → P j (h.stage j)) (j : Nat) : P j (h.put i stage j) := by
  by_cases same : j = i
  · rw [same, put_self]
    exact here
  · rw [put_of_ne h stage same]
    exact others j same

theorem pending_of_holder {i : Nat} (held : h.holder = some i) :
    h.pending = if (h.stage i).isBusy then [i] else [] := by
  unfold pending
  rw [held]

theorem pending_of_free (free : h.holder = none) : h.pending = [] := by
  unfold pending
  rw [free]

theorem pending_congr (holder : h'.holder = h.holder)
    (busy : ∀ i, h.holder = some i → (h'.stage i).isBusy = (h.stage i).isBusy) :
    h'.pending = h.pending := by
  obtain free | ⟨i, held⟩ := Option.eq_none_or_eq_some h.holder
  · rw [pending_of_free free, pending_of_free (holder.trans free)]
  · rw [pending_of_holder held, pending_of_holder (holder.trans held), busy i held]

/-- At the start nobody has the lock. -/
theorem locked_start (w : World σ) : (start w).Locked where
  running := fun _ => ⟨nofun, nofun⟩
  queued := fun _ => ⟨nofun, nofun⟩
  once := List.nodup_nil
  fits := fun _ _ at_ => nomatch at_
  answered := rfl

namespace Locked

/-- Who is not inside has not got the lock. -/
theorem holder_ne (locked : h.Locked) {i j : Nat} (outside : (h.stage i).isInside = false)
    (held : h.holder = some j) : j ≠ i := by
  rintro rfl
  exact absurd ((locked.running j).2 held) (Bool.eq_false_iff.1 outside)

/-- A call that is under way belongs to who has the lock. -/
theorem held_of_busy (locked : h.Locked) {i : Nat} {p : Progress} (busy : h.stage i = .busy p) :
    h.holder = some i :=
  (locked.running i).1 (busy ▸ rfl)

theorem held_of_served (locked : h.Locked) {i : Nat} (served : h.stage i = .served) :
    h.holder = some i :=
  (locked.running i).1 (served ▸ rfl)

/-- **Nobody else is inside.** -/
theorem eq_of_inside (locked : h.Locked) {i j : Nat} (held : h.holder = some i)
    (inside : (h.stage j).isInside = true) : j = i :=
  Option.some.inj (((locked.running j).1 inside).symm.trans held)

/-- Who comes waits for the lock. -/
theorem joined (locked : h.Locked) {i : Nat} (away : h.stage i = .away) :
    Locked { h with stage := h.put i .queued, queue := h.queue ++ [i] } where
  running := by
    refine forall_put (P := fun j stage => stage.isInside = true ↔ h.holder = some j)
      ⟨nofun, fun held => ?_⟩ fun j _ => locked.running j
    exact absurd rfl (locked.holder_ne (away ▸ rfl) held)
  queued := by
    refine forall_put (P := fun j stage => stage = .queued ↔ j ∈ h.queue ++ [i])
      ⟨fun _ => List.mem_append_right _ List.mem_cons_self, fun _ => rfl⟩ fun j other => ?_
    rw [locked.queued j, List.mem_append, List.mem_singleton]
    exact ⟨.inl, fun mem => mem.resolve_right other⟩
  once := by
    refine List.nodup_append.2 ⟨locked.once, by simp, fun j mem k new => ?_⟩
    rintro rfl
    rw [List.mem_singleton.1 new] at mem
    cases away.symm.trans ((locked.queued i).2 mem)
  fits := forall_put (P := fun _ stage => ∀ p, stage = .busy p → p.Fits h.desk)
    (fun _ at_ => nomatch at_) fun j _ => locked.fits j
  answered := by
    refine Eq.trans (congrArg (h.returned.map Prod.fst ++ ·) ?_) locked.answered
    exact pending_congr rfl fun j held =>
      congrArg Stage.isBusy (put_of_ne h .queued (locked.holder_ne (away ▸ rfl) held))

/-- The first of the queue gets the lock. -/
theorem entered (locked : h.Locked) {i : Nat} {rest : List Nat} (free : h.holder = none)
    (first : h.queue = i :: rest) :
    Locked { h with
      stage := h.put i (.busy .begun)
      queue := rest
      holder := some i
      entered := h.entered ++ [i] } where
  running := by
    refine forall_put (P := fun j stage => stage.isInside = true ↔ some i = some j)
      ⟨fun _ => rfl, fun _ => rfl⟩ fun j other => ?_
    rw [locked.running j, free]
    exact ⟨nofun, fun same => absurd (Option.some.inj same).symm other⟩
  queued := by
    have once := locked.once
    rw [first] at once
    refine forall_put (P := fun j stage => stage = .queued ↔ j ∈ rest)
      ⟨nofun, fun mem => absurd mem (List.nodup_cons.1 once).1⟩ fun j other => ?_
    rw [locked.queued j, first, List.mem_cons]
    exact ⟨fun mem => mem.resolve_left other, .inr⟩
  once := by
    have once := locked.once
    rw [first] at once
    exact (List.nodup_cons.1 once).2
  fits := by
    refine forall_put (P := fun _ stage => ∀ p, stage = .busy p → p.Fits h.desk)
      (fun p at_ => ?_) fun j _ => locked.fits j
    cases at_
    trivial
  answered := by
    have answered := locked.answered
    rw [pending_of_free free, List.append_nil] at answered
    show _ ++ pending _ = _ ++ [i]
    rw [pending_of_holder rfl, answered]
    show _ ++ (if (h.put i (.busy .begun) i).isBusy then [i] else []) = _
    rw [put_self]
    rfl

section Held

variable (locked : h.Locked) {i : Nat} (held : h.holder = some i) {stage : Stage}
include locked held

/-- Who has the lock may be at any stage inside. -/
theorem running_put (inside : stage.isInside = true) (j : Nat) :
    (h.put i stage j).isInside = true ↔ h.holder = some j :=
  forall_put (P := fun j stage => stage.isInside = true ↔ h.holder = some j)
    ⟨fun _ => held, fun _ => inside⟩ (fun j _ => locked.running j) j

/-- Who has the lock is not in the queue. -/
theorem queued_put (moved : stage ≠ .queued) (j : Nat) :
    h.put i stage j = .queued ↔ j ∈ h.queue := by
  refine forall_put (P := fun j stage => stage = .queued ↔ j ∈ h.queue)
    ⟨fun at_ => absurd at_ moved, fun mem => ?_⟩ (fun j _ => locked.queued j) j
  have inside := (locked.running i).2 held
  rw [(locked.queued i).2 mem] at inside
  cases inside

/-- Whatever who has the lock does at the desk, no other call is under way. -/
theorem fits_put {desk : Desk σ} (here : ∀ p, stage = .busy p → p.Fits desk) (j : Nat) :
    ∀ p, h.put i stage j = .busy p → p.Fits desk := by
  refine forall_put (P := fun _ stage => ∀ p, stage = .busy p → p.Fits desk) here
    (fun j other p at_ => ?_) j
  exact absurd (locked.eq_of_inside held (at_ ▸ rfl)) other

end Held

/-- Who has a reply has still got the lock. -/
theorem replied (locked : h.Locked) {i : Nat} {p : Progress} (busy : h.stage i = .busy p)
    (r : Reply σ Manager) :
    Locked { h with
      desk := .left r
      stage := h.put i .served
      returned := h.returned ++ [(i, r.result)] } where
  running := locked.running_put (locked.held_of_busy busy) rfl
  queued := locked.queued_put (locked.held_of_busy busy) nofun
  once := locked.once
  fits := locked.fits_put (locked.held_of_busy busy) fun _ at_ => nomatch at_
  answered := by
    have held := locked.held_of_busy busy
    have answered := locked.answered
    rw [pending_of_holder held, busy] at answered
    have quiet : (h.put i .served i).isBusy = false := congrArg Stage.isBusy (h.put_self i .served)
    rw [pending_of_holder (i := i), List.map_append]
    · show _ ++ _ ++ (if (h.put i .served i).isBusy then [i] else []) = _
      rw [quiet]
      exact (List.append_nil _).trans answered
    · exact held

/-- A call goes on. -/
theorem stepped (locked : h.Locked) {i : Nat} {p p' : Progress} {desk : Desk σ}
    (busy : h.stage i = .busy p) (fits : p'.Fits desk) :
    Locked { h with desk, stage := h.put i (.busy p') } where
  running := locked.running_put (locked.held_of_busy busy) rfl
  queued := locked.queued_put (locked.held_of_busy busy) nofun
  once := locked.once
  fits := locked.fits_put (locked.held_of_busy busy) fun _ at_ => Stage.busy.inj at_ ▸ fits
  answered := by
    refine Eq.trans (congrArg (h.returned.map Prod.fst ++ ·) ?_) locked.answered
    refine pending_congr rfl fun j held => ?_
    obtain rfl := Option.some.inj ((locked.held_of_busy busy).symm.trans held)
    show (h.put i (.busy p') i).isBusy = _
    rw [put_self, busy]
    rfl

/-- The lock is given back. -/
theorem left (locked : h.Locked) {i : Nat} (served : h.stage i = .served) :
    Locked { h with stage := h.put i .gone, holder := none } where
  running := by
    refine forall_put (P := fun j stage => stage.isInside = true ↔ none = some j)
      ⟨nofun, nofun⟩ fun j other => ⟨fun inside => ?_, nofun⟩
    exact absurd (locked.eq_of_inside (locked.held_of_served served) inside) other
  queued := locked.queued_put (locked.held_of_served served) nofun
  once := locked.once
  fits := locked.fits_put (locked.held_of_served served) fun _ at_ => nomatch at_
  answered := by
    have answered := locked.answered
    rw [pending_of_holder (locked.held_of_served served), served] at answered
    exact answered

/-- Whose call is under way has got the lock. -/
theorem mem_entered (locked : h.Locked) {i : Nat} {p : Progress} (busy : h.stage i = .busy p) :
    i ∈ h.entered := by
  rw [← locked.answered, pending_of_holder (locked.held_of_busy busy), busy]
  exact List.mem_append_right _ List.mem_cons_self

/-- Time passes, but nothing is overdue. -/
theorem passed (locked : h.Locked) {ms idled : Nat}
    (allowed : (h.entered.all fun i => (h.stage i).allows (h.desk.world.now + ms)) = true) :
    Locked { h with desk := h.desk.wait ms, idled } where
  running := locked.running
  queued := locked.queued
  once := locked.once
  fits := by
    intro i p busy
    have allows := List.all_eq_true.1 allowed i (locked.mem_entered busy)
    rw [busy] at allows
    exact (locked.fits i p busy).wait allows
  answered := locked.answered

/-- **Every move keeps the hall in order.** -/
theorem acted (locked : h.Locked) (acted : Acted v jobs h m h') : h'.Locked := by
  cases acted with
  | joined away => exact locked.joined away
  | entered free first => exact locked.entered free first
  | replied busy step => exact locked.replied busy _
  | stepped busy step => exact locked.stepped busy (Progress.fits_of_step step).2
  | left served => exact locked.left served
  | passed allowed => exact locked.passed allowed

end Locked

/-! ## Runs -/

theorem run_cons {h₁ : Hall σ} (acted : Acted v jobs h m h₁) {ms : List Move} :
    run v jobs (m :: ms) h = run v jobs ms h₁ := by
  show (h.act v jobs m).bind _ = _
  rw [act_eq_some_iff.2 acted]
  rfl

/-- A run begins with a move. -/
theorem run_cons_iff {ms : List Move} : run v jobs (m :: ms) h = some h'
    ↔ ∃ h₁, Acted v jobs h m h₁ ∧ run v jobs ms h₁ = some h' := by
  refine Option.bind_eq_some_iff.trans ?_
  simp only [act_eq_some_iff]

/-- **What every move keeps, a run keeps.** -/
theorem invariant_run {P : Hall σ → Prop}
    (step : ∀ {h m h'}, P h → Acted v jobs h m h' → P h') {ms : List Move} (holds : P h)
    (ran : run v jobs ms h = some h') : P h' := by
  induction ms generalizing h with
  | nil => exact Option.some.inj ran ▸ holds
  | cons m ms ih =>
    obtain ⟨h₁, acted, ran⟩ := run_cons_iff.1 ran
    exact ih (step holds acted) ran

/-- **After every run the hall is in order.** -/
theorem Locked.ran (locked : h.Locked) {ms : List Move} (ran : run v jobs ms h = some h') :
    h'.Locked :=
  invariant_run Locked.acted locked ran

/-- **First come, first served**: who gets the lock and who waits for it are those who
have come, in order. -/
theorem order_run {ms : List Move} (ran : run v jobs ms h = some h') :
    h'.entered ++ h'.queue = h.entered ++ h.queue ++ ms.filterMap Move.join? := by
  induction ms generalizing h with
  | nil =>
    obtain rfl := Option.some.inj ran
    exact (List.append_nil _).symm
  | cons m ms ih =>
    obtain ⟨h₁, acted, ran⟩ := run_cons_iff.1 ran
    refine (ih ran).trans ?_
    cases acted with
    | @joined i =>
      show h.entered ++ (h.queue ++ [i]) ++ ms.filterMap Move.join?
        = h.entered ++ h.queue ++ ([i] ++ ms.filterMap Move.join?)
      simp only [List.append_assoc]
    | entered free first =>
      rw [first]
      exact congrArg (· ++ _) (List.append_assoc ..)
    | replied | stepped | left | passed => rfl

/-! ## Coming to an end -/

variable (v jobs) in
/-- **A run may bring about a hall** in which nobody has come who had not, and without
any call having idled. -/
inductive Leads : Hall σ → Hall σ → Prop
  | refl (h : Hall σ) : Leads h h
  | head {h h₁ h' : Hall σ} {m : Move} (acted : Acted v jobs h m h₁) (nobody : m.join? = none)
      (punctual : h₁.idled = h.idled) (rest : Leads h₁ h') : Leads h h'

namespace Leads

theorem trans {h₁ : Hall σ} (first : Leads v jobs h h₁) (rest : Leads v jobs h₁ h') :
    Leads v jobs h h' := by
  induction first with
  | refl => exact rest
  | head acted nobody punctual _ ih => exact .head acted nobody punctual (ih rest)

theorem single (acted : Acted v jobs h m h') (nobody : m.join? = none)
    (punctual : h'.idled = h.idled) : Leads v jobs h h' :=
  .head acted nobody punctual (.refl h')

/-- It is a run. -/
theorem exists_run (leads : Leads v jobs h h') :
    ∃ ms, ms.filterMap Move.join? = [] ∧ run v jobs ms h = some h' ∧ h'.idled = h.idled := by
  induction leads with
  | refl => exact ⟨[], rfl, rfl, rfl⟩
  | @head h h₁ h' m acted nobody punctual _ ih =>
    obtain ⟨ms, none, ran, idled⟩ := ih
    refine ⟨m :: ms, ?_, (run_cons acted).trans ran, idled.trans punctual⟩
    rw [List.filterMap_cons, nobody]
    exact none

end Leads

namespace Locked

/-- Until its answer is due, who has the lock lets time pass and does not idle. -/
theorem waits (locked : h.Locked) {i : Nat} {p : Progress} (busy : h.stage i = .busy p)
    {due : Instant} (awaits : p.due? = some due) {ms : Nat}
    (early : h.desk.world.now + ms ≤ due) :
    (h.entered.all fun j => (h.stage j).allows (h.desk.world.now + ms)) = true
      ∧ (h.entered.any fun j => (h.stage j).isIdling) = false := by
  have only : ∀ {j p'}, h.stage j = .busy p' → p' = p := by
    intro j p' busy'
    have held := (locked.held_of_busy busy').symm.trans (locked.held_of_busy busy)
    obtain rfl := Option.some.inj held
    exact Stage.busy.inj (busy'.symm.trans busy)
  refine ⟨List.all_eq_true.2 fun j _ => ?_, List.any_eq_false.2 fun j _ idles => ?_⟩
  · cases at_ : h.stage j with
    | busy p' =>
      show p'.due?.all _ = true
      rw [only at_, awaits]
      exact decide_eq_true early
    | away | queued | served | gone => rfl
  · obtain ⟨p', underway, idle⟩ := (Option.any_eq_true _ _).1 idles
    rw [only (Stage.eq_busy_of_underway? underway), awaits] at idle
    cases idle

variable (v jobs)

/-- **Who has the lock can take a step**, at once or when the answer is due that it waits
for. -/
theorem leads_to_step (locked : h.Locked) {i : Nat} {p : Progress} (busy : h.stage i = .busy p) :
    ∃ h' result, Leads v jobs h h' ∧ h'.Locked ∧ h'.stage i = .busy p ∧ h'.queue = h.queue
      ∧ p.step v (jobs i).1 (jobs i).2 h'.desk = some result := by
  obtain ⟨result, step⟩ | ⟨due, awaits, early⟩ := Progress.step_or_awaits (v := v)
    (q := (jobs i).2) (locked.fits i p busy)
  · exact ⟨h, result, .refl h, locked, busy, rfl, step⟩
  have there : h.desk.world.now + (due - h.desk.world.now) = due :=
    Nat.add_sub_cancel' (Nat.le_of_lt early)
  obtain ⟨allowed, busily⟩ := locked.waits busy awaits (Nat.le_of_eq there)
  have later : Locked { h with desk := h.desk.wait (due - h.desk.world.now) } :=
    locked.passed allowed
  obtain ⟨result, step⟩ | ⟨due', awaits', early'⟩ := Progress.step_or_awaits (v := v)
    (q := (jobs i).2) (later.fits i p busy)
  · refine ⟨_, result, .single (.passed allowed) rfl ?_, ?_, busy, rfl, step⟩
    · rw [busily]
      rfl
    · rw [busily]
      exact later
  · obtain rfl := Option.some.inj (awaits.symm.trans awaits')
    exact absurd early' (Nat.not_lt_of_le (Nat.le_of_eq there.symm))

/-- **A call comes to its end.** -/
theorem leads_to_reply {h : Hall σ} (locked : h.Locked) {i : Nat} {p : Progress}
    (busy : h.stage i = .busy p) :
    ∃ h', Leads v jobs h h' ∧ h'.Locked ∧ h'.stage i = .served ∧ h'.queue = h.queue := by
  obtain ⟨h₁, result, leads, locked₁, busy₁, queue, step⟩ := locked.leads_to_step v jobs busy
  cases result with
  | inl r =>
    refine ⟨_, leads.trans (.single (.replied busy₁ step) rfl rfl), locked₁.replied busy₁ r, ?_,
      queue⟩
    exact h₁.put_self i .served
  | inr next =>
    have fits := (Progress.fits_of_step step).2
    obtain ⟨h', leads', locked', served, queue'⟩ :=
      (locked₁.stepped busy₁ fits).leads_to_reply (h₁.put_self i (.busy next.1))
    refine ⟨h', leads.trans (.head (.stepped busy₁ step) rfl rfl leads'), locked', served, ?_⟩
    exact queue'.trans queue
termination_by p.rank
decreasing_by exact Progress.rank_lt_of_step step

/-- **The lock is given back.** -/
theorem leads_to_free (locked : h.Locked) :
    ∃ h', Leads v jobs h h' ∧ h'.Locked ∧ h'.holder = none ∧ h'.queue = h.queue := by
  have leave : ∀ {h i}, h.Locked → h.stage i = .served →
      ∃ h', Leads v jobs h h' ∧ h'.Locked ∧ h'.holder = none ∧ h'.queue = h.queue :=
    fun locked served => ⟨_, .single (.left served) rfl rfl, locked.left served, rfl, rfl⟩
  obtain free | ⟨i, held⟩ := Option.eq_none_or_eq_some h.holder
  · exact ⟨h, .refl h, locked, free, rfl⟩
  have inside := (locked.running i).2 held
  cases at_ : h.stage i with
  | busy p =>
    obtain ⟨h₁, leads, locked₁, served, queue⟩ := locked.leads_to_reply v jobs at_
    obtain ⟨h', leads', locked', free, queue'⟩ := leave locked₁ served
    exact ⟨h', leads.trans leads', locked', free, queue'.trans queue⟩
  | served => exact leave locked at_
  | away | queued | gone =>
    rw [at_] at inside
    cases inside

/-- **Everybody who has come gets a reply.** -/
theorem leads_to_end (locked : h.Locked) :
    ∃ h', Leads v jobs h h' ∧ h'.holder = none ∧ h'.queue = [] := by
  obtain ⟨h₁, leads, locked₁, free, queue⟩ := locked.leads_to_free v jobs
  clear queue
  induction waiting : h₁.queue generalizing h₁ with
  | nil => exact ⟨h₁, leads, free, waiting⟩
  | cons i is ih =>
    have entered := locked₁.entered free waiting
    obtain ⟨h₂, leads₂, locked₂, free₂, queue₂⟩ := entered.leads_to_free v jobs
    have next := leads.trans (.head (.entered free waiting) rfl rfl leads₂)
    exact ih h₂ next locked₂ free₂ queue₂

end Locked

end Hall

end Uplink
