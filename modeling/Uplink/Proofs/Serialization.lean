import Uplink.Proofs.Finality
import Uplink.Proofs.Hall

/-!
# One call after the other

Calls that are made together come to what they would have come to one after the other.
This is said in two ways.

Every run, with time passing wherever it likes, ends as the run in which everybody
joins the queue only when it is their turn (`Hall.run_inTurn`), and in that run a call
begins when the one before has ended (`Move.Successive`).

And if time passes only while endpoints are looked for, while an answer is awaited or
when nobody has a call to finish, a run is a history: the calls one after the other, in
the order in which they got the lock. For that the call that is under way is counted as
if it were over (`Hall.ledger`), and it is over in the way that the rest of its steps
will bring about (`Progress.complete_of_step`).
-/

namespace Uplink

/-! ## Callers that come when it is their turn -/

namespace Stage

/-- A stage as it is when callers come only when it is their turn. -/
def alone : Stage → Stage
  | queued => away
  | stage => stage

theorem allows_alone (now : Instant) (stage : Stage) :
    stage.alone.allows now = stage.allows now := by
  cases stage <;> rfl

theorem isIdling_alone (stage : Stage) : stage.alone.isIdling = stage.isIdling := by
  cases stage <;> rfl

end Stage

namespace Move

/-- **A move as it is made when callers come only when it is their turn.** -/
def inTurn : Move → List Move
  | join _ => []
  | enter i => [join i, enter i]
  | m => [m]

/-- **Calls one after the other**, given who has the lock: who comes gets the lock at
once, and until it has given it back only this caller takes steps. -/
def Successive : List Move → Option Nat → Prop
  | [], _ => True
  | pass _ :: ms, holder => Successive ms holder
  | join i :: enter j :: ms, none => j = i ∧ Successive ms (some i)
  | advance j :: ms, some i => j = i ∧ Successive ms (some i)
  | leave j :: ms, some i => j = i ∧ Successive ms none
  | _, _ => False

end Move

namespace Hall

variable {σ : Type} {v : Service σ} {jobs : Nat → Job} {h h' : Hall σ} {m : Move}

/-- **The hall without those who wait for the lock.** -/
def alone (h : Hall σ) : Hall σ :=
  { h with stage := fun i => (h.stage i).alone, queue := [] }

theorem put_alone (h : Hall σ) (i : Nat) {stage : Stage} (same : stage.alone = stage) :
    h.alone.put i stage = fun j => (h.put i stage j).alone :=
  funext fun j => (forall_put (P := fun j s => s.alone = h.alone.put i stage j)
    (same.trans (h.alone.put_self i stage).symm)
    (fun _ other => (h.alone.put_of_ne stage other).symm) j).symm

theorem put_put (h : Hall σ) (queue : List Nat) (i : Nat) (stage stage' : Stage) :
    ({ h with stage := h.put i stage, queue }).put i stage' = h.put i stage' := by
  funext j
  by_cases same : j = i
  · rw [same, put_self, put_self]
  · rw [put_of_ne _ stage' same, put_of_ne h stage' same]
    exact put_of_ne h stage same

/-- **A move in turn** does to the hall without those who wait what the move does. -/
theorem run_inTurn_acted (locked : h.Locked) (acted : Acted v jobs h m h') (ms : List Move) :
    run v jobs (m.inTurn ++ ms) h.alone = run v jobs ms h'.alone := by
  cases acted with
  | @joined i away =>
    have same : h.alone.stage = fun j => (h.put i .queued j).alone := by
      refine funext (forall_put (P := fun j s => (h.stage j).alone = s.alone) ?_ fun _ _ => rfl)
      rw [away]
      rfl
    show run v jobs ms { h.alone with stage := h.alone.stage } = _
    rw [same]
    rfl
  | @entered i rest free first =>
    have away : h.alone.stage i = .away :=
      congrArg Stage.alone ((locked.queued i).2 (first ▸ List.mem_cons_self))
    have free : h.alone.holder = none := free
    refine (run_cons (.joined away)).trans ?_
    refine (run_cons (Acted.entered ?_ (Eq.refl [i]))).trans ?_
    · exact free
    rw [put_put h.alone]
    dsimp only
    rw [put_alone h i rfl]
    rfl
  | @replied i p r busy step =>
    have busy : h.alone.stage i = .busy p := congrArg Stage.alone busy
    refine (run_cons (.replied busy step)).trans ?_
    rw [put_alone h i rfl]
    rfl
  | @stepped i p p' desk busy step =>
    have busy : h.alone.stage i = .busy p := congrArg Stage.alone busy
    refine (run_cons (.stepped busy step)).trans ?_
    rw [put_alone h i rfl]
    rfl
  | @left i served =>
    have served : h.alone.stage i = .served := congrArg Stage.alone served
    refine (run_cons (.left served)).trans ?_
    rw [put_alone h i rfl]
    rfl
  | @passed idle allowed =>
    have allowed : (h.alone.entered.all fun i =>
        (h.alone.stage i).allows (h.alone.desk.world.now + idle)) = true := by
      simpa only [alone, Stage.allows_alone] using allowed
    refine (run_cons (.passed allowed)).trans ?_
    simp only [alone, Stage.isIdling_alone]
    rfl

/-- **Every run ends as the run in which everybody comes when it is their turn.** -/
theorem run_inTurn (locked : h.Locked) {ms : List Move} (ran : run v jobs ms h = some h') :
    run v jobs (ms.flatMap Move.inTurn) h.alone = some h'.alone := by
  induction ms generalizing h with
  | nil => exact congrArg (Option.map alone) ran
  | cons m ms ih =>
    obtain ⟨h₁, acted, ran⟩ := run_cons_iff.1 ran
    rw [List.flatMap_cons, run_inTurn_acted locked acted]
    exact ih (locked.acted acted) ran

/-- **And in that run the calls are made one after the other.** -/
theorem successive_inTurn (locked : h.Locked) {ms : List Move}
    (ran : run v jobs ms h = some h') : Move.Successive (ms.flatMap Move.inTurn) h.holder := by
  induction ms generalizing h with
  | nil => trivial
  | cons m ms ih =>
    obtain ⟨h₁, acted, ran⟩ := run_cons_iff.1 ran
    have rest := ih (locked.acted acted) ran
    rw [List.flatMap_cons]
    cases acted with
    | joined => exact rest
    | entered free =>
      rw [free]
      exact ⟨rfl, rest⟩
    | replied busy | stepped busy =>
      have held := locked.held_of_busy busy
      rw [held] at rest ⊢
      exact ⟨rfl, rest⟩
    | left served =>
      rw [locked.held_of_served served]
      exact ⟨rfl, rest⟩
    | passed => exact rest

end Hall

/-! ## Histories -/

/-- What is asked for, in which mode, if something is. -/
def Operation.call? : Operation → Option Job
  | call mode q => some (mode, q)
  | _ => none

/-- **The desk after a history**, with the log of everything that was done outside. -/
def Desk.history {σ : Type} (v : Service σ) (ops : List Operation) (w : World σ) : Desk σ :=
  ⟨(Scene.history v ops w).manager, (Scene.history v ops w).world,
    (Scene.calls v ops (.start w)).flatMap Reply.events⟩

/-- **What calls have come to**: the desk that they have left, and who has got which
result. -/
structure Ledger (σ : Type) where
  desk : Desk σ
  returned : List (Nat × Except ClockOverflow Outcome)

namespace Ledger

variable {σ : Type} (v : Service σ) (jobs : Nat → Job)

/-- A caller's call comes to its end. -/
def close (i : Nat) (p : Progress) (a : Ledger σ) : Ledger σ :=
  let r := p.complete v (jobs i).1 (jobs i).2 a.desk
  ⟨.left r, a.returned ++ [(i, r.result)]⟩

/-- **A ledger is that of a history.** -/
structure Serial (w : World σ) (ops : List Operation) (a : Ledger σ) : Prop where
  calls : ops.filterMap Operation.call? = (a.returned.map Prod.fst).map jobs
  desk : a.desk = .history v ops w
  results : a.returned.map Prod.snd = (Scene.calls v ops (.start w)).map Reply.result

variable {v jobs} {w : World σ} {ops : List Operation} {a : Ledger σ}

theorem serial_start : Serial v jobs w [] ⟨.start w, []⟩ :=
  ⟨rfl, rfl, rfl⟩

/-- **A whole call is one more operation.** -/
theorem Serial.call (serial : Serial v jobs w ops a) (i : Nat) :
    Serial v jobs w (ops ++ [.call (jobs i).1 (jobs i).2]) (a.close v jobs i .begun) where
  calls := by
    rw [List.filterMap_append, serial.calls]
    show _ ++ [jobs i] = List.map jobs (List.map _ (_ ++ _))
    rw [List.map_append, List.map_append]
    rfl
  desk := by
    show Desk.left ((a.desk.manager.sendIn v _ _ a.desk.world).after a.desk.log) = _
    rw [serial.desk]
    unfold Desk.history
    rw [Scene.history_concat, Scene.calls_append, List.flatMap_append]
    exact congrArg (Desk.mk _ _) (congrArg _ (List.append_nil _).symm)
  results := by
    show List.map _ (a.returned ++ [(i, (a.desk.manager.sendIn v _ _ a.desk.world).result)]) = _
    rw [List.map_append, serial.results, Scene.calls_append, List.map_append, serial.desk]
    rfl

/-- **So is a while that passes.** -/
theorem Serial.wait (serial : Serial v jobs w ops a) (ms : Nat) :
    Serial v jobs w (ops ++ [.wait ms]) { a with desk := a.desk.wait ms } where
  calls := by
    rw [List.filterMap_append, serial.calls]
    exact List.append_nil _
  desk := by
    show a.desk.wait ms = _
    rw [serial.desk]
    unfold Desk.history
    rw [Scene.history_concat, Scene.calls_append, List.flatMap_append]
    exact congrArg (Desk.mk _ _) (List.append_nil _).symm
  results := by
    rw [Scene.calls_append, List.map_append, ← serial.results]
    exact (List.append_nil _).symm

end Ledger

namespace Hall

variable {σ : Type} {v : Service σ} {jobs : Nat → Job} {h h' : Hall σ} {m : Move}

/-- **What the calls have come to so far**, the one that is under way counted as if it
were over. -/
def ledger (v : Service σ) (jobs : Nat → Job) (h : Hall σ) : Ledger σ :=
  match h.holder with
  | none => ⟨h.desk, h.returned⟩
  | some i =>
    match (h.stage i).underway? with
    | none => ⟨h.desk, h.returned⟩
    | some p => .close v jobs i p ⟨h.desk, h.returned⟩

/-- If no call is under way, everything is over. -/
theorem ledger_of_quiet (quiet : ∀ i, h.holder = some i → (h.stage i).underway? = none) :
    h.ledger v jobs = ⟨h.desk, h.returned⟩ := by
  unfold ledger
  cases held : h.holder with
  | none => rfl
  | some i =>
    dsimp only
    rw [quiet i held]

theorem ledger_of_free (free : h.holder = none) :
    h.ledger v jobs = ⟨h.desk, h.returned⟩ :=
  ledger_of_quiet fun _ held => nomatch free.symm.trans held

theorem quiet_or_underway (h : Hall σ) :
    (∀ i, h.holder = some i → (h.stage i).underway? = none)
      ∨ ∃ i p, h.holder = some i ∧ (h.stage i).underway? = some p := by
  obtain free | ⟨i, held⟩ := Option.eq_none_or_eq_some h.holder
  · exact .inl fun _ held => nomatch free.symm.trans held
  cases underway : (h.stage i).underway? with
  | none => exact .inl fun _ held' => Option.some.inj (held.symm.trans held') ▸ underway
  | some p => exact .inr ⟨i, p, held, underway⟩

theorem ledger_of_underway {i : Nat} {p : Progress} (held : h.holder = some i)
    (underway : (h.stage i).underway? = some p) :
    h.ledger v jobs = .close v jobs i p ⟨h.desk, h.returned⟩ := by
  unfold ledger
  rw [held]
  dsimp only
  rw [underway]

/-- Who has the lock and is at a stage without a call to finish. -/
theorem ledger_of_holder {i : Nat} {stage : Stage} (held : h.holder = some i)
    (at_ : h.stage i = stage) (quiet : stage.underway? = none) :
    h.ledger v jobs = ⟨h.desk, h.returned⟩ :=
  ledger_of_quiet fun _ held' => Option.some.inj (held.symm.trans held') ▸ at_ ▸ quiet

/-- **The call under way does not notice the time that passes**, unless it idles. -/
theorem Locked.complete_wait (locked : h.Locked) {i : Nat} {p : Progress}
    (underway : (h.stage i).underway? = some p) {ms : Nat}
    (idling : (h.entered.any fun i => (h.stage i).isIdling) = true → ms = 0)
    (mode : Mode) (q : Request) :
    p.complete v mode q (h.desk.wait ms) = p.complete v mode q h.desk := by
  have busy := Stage.eq_busy_of_underway? underway
  by_cases due : p.due? = none
  · have idles : (h.stage i).isIdling = true := by
      unfold Stage.isIdling
      rw [underway]
      exact Option.isNone_iff_eq_none.2 due
    rw [idling (List.any_eq_true.2 ⟨i, locked.mem_entered busy, idles⟩)]
    rfl
  · exact Progress.complete_wait (locked.fits i p busy) due ms

/-- **A move adds at most one operation** to what the calls have come to, if no call
idles. -/
theorem serial_acted {w : World σ} {ops : List Operation} (locked : h.Locked)
    (serial : (h.ledger v jobs).Serial v jobs w ops) (acted : Acted v jobs h m h')
    (punctual : h'.idled = h.idled) :
    ∃ ops', (h'.ledger v jobs).Serial v jobs w ops' := by
  cases acted with
  | @joined i away =>
    refine ⟨ops, Eq.subst (Eq.symm ?_) serial⟩
    unfold ledger
    cases held : h.holder with
    | none => rfl
    | some j =>
      dsimp only
      rw [put_of_ne h .queued (locked.holder_ne (away ▸ rfl) held)]
  | @entered i rest free first =>
    rw [ledger_of_free free] at serial
    refine ⟨ops, Eq.subst (Eq.symm ?_) serial⟩
    exact ledger_of_holder rfl (h.put_self i _) rfl
  | @replied i p r busy step =>
    have begun : p ≠ .begun := by
      rintro rfl
      cases step
    have held := locked.held_of_busy busy
    rw [ledger_of_underway held (busy ▸ Stage.underway?_busy begun)] at serial
    have closed : Ledger.close v jobs i p ⟨h.desk, h.returned⟩
        = ⟨.left r, h.returned ++ [(i, r.result)]⟩ := by
      unfold Ledger.close
      rw [← Progress.complete_of_step step]
      rfl
    rw [closed] at serial
    refine ⟨ops, Eq.subst (Eq.symm ?_) serial⟩
    refine ledger_of_holder (i := i) ?_ (h.put_self i _) rfl
    exact held
  | @stepped i p p' desk busy step =>
    have held := locked.held_of_busy busy
    have same : ledger v jobs { h with desk, stage := h.put i (.busy p') }
        = .close v jobs i p ⟨h.desk, h.returned⟩ := by
      refine Eq.trans (ledger_of_underway (i := i) (p := p') ?_ ?_) ?_
      · exact held
      · exact (congrArg _ (h.put_self i _)).trans
          (Stage.underway?_busy (Progress.fits_of_step step).1)
      · unfold Ledger.close
        rw [← Progress.complete_of_step step]
        rfl
    rw [same]
    -- with its first step a call begins, and from then on it is counted
    by_cases begun : p = .begun
    · rw [ledger_of_holder held busy (begun ▸ rfl)] at serial
      exact ⟨_, begun ▸ serial.call i⟩
    · rw [ledger_of_underway held (busy ▸ Stage.underway?_busy begun)] at serial
      exact ⟨ops, serial⟩
  | @left i served =>
    rw [ledger_of_holder (locked.held_of_served served) served rfl] at serial
    refine ⟨ops, Eq.subst (Eq.symm ?_) serial⟩
    exact ledger_of_quiet nofun
  | @passed ms allowed =>
    obtain quiet | ⟨i, p, held, underway⟩ := h.quiet_or_underway
    · rw [ledger_of_quiet quiet] at serial
      refine ⟨_, Eq.subst (Eq.symm ?_) (serial.wait ms)⟩
      exact ledger_of_quiet quiet
    · have same : ledger v jobs { h with
          desk := h.desk.wait ms
          idled := h.idled + if h.entered.any fun i => (h.stage i).isIdling then ms else 0 }
          = .close v jobs i p ⟨h.desk.wait ms, h.returned⟩ := by
        refine ledger_of_underway ?_ ?_
        · exact held
        · exact underway
      have idling : (h.entered.any fun i => (h.stage i).isIdling) = true → ms = 0 := by
        intro idling
        rw [if_pos idling] at punctual
        exact Nat.add_left_cancel (punctual.trans (Nat.add_zero _).symm)
      rw [ledger_of_underway held underway] at serial
      rw [same]
      unfold Ledger.close at serial ⊢
      rw [locked.complete_wait underway idling]
      exact ⟨ops, serial⟩

/-- No move takes idle time back. -/
theorem idled_le_acted (acted : Acted v jobs h m h') : h.idled ≤ h'.idled := by
  cases acted with
  | passed => exact Nat.le_add_right h.idled _
  | joined | entered | replied | stepped | left => exact Nat.le_refl h.idled

/-- **Without idling a run is a history.** -/
theorem serial_run {w : World σ} {moves : List Move} (ran : run v jobs moves (start w) = some h)
    (punctual : h.idled = 0) : ∃ ops, (h.ledger v jobs).Serial v jobs w ops := by
  refine (invariant_run (P := fun h =>
    h.Locked ∧ (h.idled = 0 → ∃ ops, (h.ledger v jobs).Serial v jobs w ops)) ?_ ?_ ran).2 punctual
  · intro h m h' ⟨locked, serial⟩ acted
    refine ⟨locked.acted acted, fun punctual => ?_⟩
    have before : h.idled = 0 := Nat.le_zero.1 (punctual ▸ idled_le_acted acted)
    obtain ⟨ops, serial⟩ := serial before
    exact serial_acted locked serial acted (punctual.trans before.symm)
  · exact ⟨locked_start w, fun _ => ⟨[], Ledger.serial_start⟩⟩

/-- **Calls that are made together are made one after the other.** Callers come, get the
lock, take the steps of their calls, in either mode, and give the lock back, in any order
in which this can happen, with time passing in between.

At no moment do two of them wait for an answer. They get the lock in the order in which
they have come. The run ends as the one in which everybody comes only when it is their
turn and nobody takes a step before the one before has left: with the same manager, the
same contacts, random words and clock, and the same results.

And if no call idles, it ends as a history whose calls are those that got the lock, in
this order. Everybody has got the result that their call has in the history.

From every point a run can go on, without new callers and without idling, until everybody
who has come has left. -/
theorem concurrent_calls_are_serial (v : Service σ) (jobs : Nat → Job) (w : World σ)
    (moves : List Move) (h : Hall σ) (ran : run v jobs moves (start w) = some h) :
    (∀ i j, (h.stage i).isAwaiting = true → (h.stage j).isAwaiting = true → i = j)
      ∧ h.entered ++ h.queue = moves.filterMap Move.join?
      ∧ (Move.Successive (moves.flatMap Move.inTurn) none
        ∧ run v jobs (moves.flatMap Move.inTurn) (start w) = some h.alone)
      ∧ (h.holder = none → h.idled = 0 →
        ∃ ops, ops.filterMap Operation.call? = h.entered.map jobs
          ∧ h.desk = .history v ops w
          ∧ h.returned.map Prod.fst = h.entered
          ∧ h.returned.map Prod.snd = (Scene.calls v ops (.start w)).map Reply.result)
      ∧ ∃ more h', more.filterMap Move.join? = [] ∧ run v jobs more h = some h'
        ∧ h'.idled = h.idled ∧ h'.holder = none ∧ h'.queue = [] := by
  have locked := (locked_start w).ran ran
  refine ⟨fun i j awaits awaits' => ?_, order_run ran,
    ⟨successive_inTurn (locked_start w) ran, run_inTurn (locked_start w) ran⟩,
    fun free punctual => ?_, ?_⟩
  · have held := (locked.running j).1 (Stage.isInside_of_isAwaiting awaits')
    exact locked.eq_of_inside held (Stage.isInside_of_isAwaiting awaits)
  · obtain ⟨ops, serial⟩ := serial_run ran punctual
    rw [ledger_of_free free] at serial
    have answered := locked.answered
    rw [pending_of_free free, List.append_nil] at answered
    exact ⟨ops, answered ▸ serial.calls, serial.desk, answered, serial.results⟩
  · obtain ⟨h', leads, free, nobody⟩ := locked.leads_to_end v jobs
    obtain ⟨more, none, ran', idled⟩ := leads.exists_run
    exact ⟨more, h', none, ran', idled, free, nobody⟩

/-- Two callers come together. The first has its request answered by the second address
after the first one has failed, while the other one waits. -/
theorem concurrent_calls_are_serial_rehearsed :
    let v := Service.rehearsed
    let jobs : Nat → Job
      | 0 => (.affinity, .rehearsed)
      | _ => (.exhaustive, .rehearsed)
    let w : World Script :=
      .rehearsed [(.v4 ⟨10, 0, 0, 1⟩, [⟨.refuse, 40⟩]), (.v4 ⟨10, 0, 0, 2⟩, [⟨.ok, 60⟩])]
    let begins : List Move :=
      [.join 0, .enter 0, .pass 15, .advance 0, .join 1, .advance 0, .advance 0, .advance 0]
    let answered : List Move :=
      [.pass 40, .advance 0, .advance 0, .advance 0, .pass 25, .pass 35, .advance 0, .leave 0]
    let next : List Move :=
      [.pass 5, .enter 1, .advance 1, .advance 1, .advance 1, .advance 1, .pass 40, .advance 1,
        .advance 1, .advance 1, .pass 60, .advance 1, .leave 1]
    ∃ h, run v jobs (begins ++ answered ++ next) (start w) = some h
      ∧ h.entered = [0, 1] ∧ h.desk.world.now = 220
      ∧ ∃ ops, ops.filterMap Operation.call? = [jobs 0, jobs 1] ∧ h.desk = .history v ops w := by
  intro v jobs w begins answered next
  have runs : (run v jobs (begins ++ answered ++ next) (start w)).map (fun h =>
      (h.holder, h.idled, h.entered, h.desk.world.now)) = some (none, 0, [0, 1], 220) := by
    decide +kernel
  obtain ⟨h, ran, same⟩ := Option.map_eq_some_iff.1 runs
  simp only [Prod.mk.injEq] at same
  obtain ⟨free, punctual, entered, now⟩ := same
  obtain ⟨_, _, _, history, _⟩ :=
    concurrent_calls_are_serial v jobs w (begins ++ answered ++ next) h ran
  obtain ⟨ops, calls, desk, _⟩ := history free punctual
  rw [entered] at calls
  exact ⟨h, ran, entered, now, ops, calls, desk⟩

end Hall

end Uplink
