import Uplink.Proofs.Sweep

/-!
# What a call puts on the wire

A call reports its contacts as it judges them. A statement about what a server
answered has to speak of the answers themselves, and it is not enough to say that
there is some answer behind every contact: the answers have to be those that the
network gives, one attempt after the other, from the world in which the call starts.

So the attempts are made here a second time, without any selection
(`Transport.askAll`): a request goes to a list of addresses. `Carries` says that a call
did just that. The addresses that it reports, asked in this order, answer what it has
judged, and they leave the clock and the wire as it leaves them. There is no room for
another attempt or another request, because either would have moved the wire.

This holds of both modes, whoever is visited and whoever is passed over, so the way to
it leads through contacts and not through visits.
-/

namespace Uplink

/-! ## Asking a list of addresses -/

namespace Transport

variable {σ : Type} (t : Transport σ) (q : Request)

/-- **A request goes to addresses**, one after the other: what is answered there, and
the world after it. -/
def askAll : List IpAddr → World σ → List (IpAddr × Outcome) × World σ
  | [], w => ([], w)
  | a :: rest, w =>
    let (outcome, w) := t.run q a w
    let (answers, w) := askAll rest w
    ((a, outcome) :: answers, w)

/-- One more address at the end. -/
theorem askAll_concat (addresses : List IpAddr) (a : IpAddr) (w : World σ) :
    t.askAll q (addresses ++ [a]) w
      = ((t.askAll q addresses w).1 ++ [(a, (t.run q a (t.askAll q addresses w).2).1)],
          (t.run q a (t.askAll q addresses w).2).2) := by
  induction addresses generalizing w with
  | nil => rfl
  | cons b rest ih =>
    show ((b, _) :: (t.askAll q (rest ++ [a]) _).1, (t.askAll q (rest ++ [a]) _).2) = _
    rw [ih]
    rfl

/-- Random words have no part in what is answered. -/
theorem askAll_draw (addresses : List IpAddr) (w : World σ) (random : Random) :
    t.askAll q addresses { w with random }
      = ((t.askAll q addresses w).1, { (t.askAll q addresses w).2 with random }) := by
  induction addresses generalizing w with
  | nil => rfl
  | cons a rest ih =>
    show ((a, _) :: (t.askAll q rest { (t.run q a w).2 with random }).1,
      (t.askAll q rest { (t.run q a w).2 with random }).2) = _
    rw [ih]
    rfl

end Transport

/-- What an address's answer is taken for. -/
def judged (c : IpAddr × Outcome) : IpAddr × Outcome :=
  (c.1, c.2.bind (·.judge c.1))

/-- The addresses of the contacts among events. -/
def contacted (events : List Event) : List IpAddr :=
  (events.filterMap Event.told?).map Prod.fst

/-! ## What a call carries -/

/-- **A call has carried a request and nothing else**: from the world `w₀` it started
in to the world `w`, it has asked the addresses that its events report, and reports
what they answered as it is judged. -/
structure Carries {σ : Type} (t : Transport σ) (q : Request) (w₀ : World σ)
    (events : List Event) (w : World σ) : Prop where
  requests : events.filterMap Event.contact? = (contacted events).map (·, q)
  answers : events.filterMap Event.told? = (t.askAll q (contacted events) w₀).1.map judged
  now : w.now = (t.askAll q (contacted events) w₀).2.now
  wire : w.wire = (t.askAll q (contacted events) w₀).2.wire

namespace Carries

variable {σ : Type} {t : Transport σ} {q : Request} {w₀ w : World σ} {events : List Event}

/-- At its start a call has carried nothing. -/
theorem start (w : World σ) : Carries t q w [] w where
  requests := rfl
  answers := rfl
  now := rfl
  wire := rfl

/-- Random words have no part in it. -/
theorem draw (h : Carries t q w₀ events w) (random : Random) :
    Carries t q w₀ events { w with random } :=
  ⟨h.requests, h.answers, h.now, h.wire⟩

/-- **A contact is one more question.** -/
theorem contact {s : Search σ} (h : Carries t q w₀ s.events s.world) (i : Nat) (e : Endpoint) :
    Carries t q w₀ (s.contact t q i e).2.events (s.contact t q i e).2.world := by
  have told := Search.told_contact t q i e s
  have addresses : contacted (s.contact t q i e).2.events = contacted s.events ++ [e.address] := by
    unfold contacted
    rw [told, List.map_append]
    rfl
  have same : t.run q e.address s.world
      = ((t.run q e.address (t.askAll q (contacted s.events) w₀).2).1,
          { (t.run q e.address (t.askAll q (contacted s.events) w₀).2).2 with
            random := s.world.random }) := by
    unfold Transport.run
    rw [h.now, h.wire]
  have outcome : (s.contact t q i e).1
      = (judged (e.address, (t.run q e.address (t.askAll q (contacted s.events) w₀).2).1)).2 := by
    rw [Search.outcome_contact, Transport.ask, same]
    rfl
  have world : (s.contact t q i e).2.world = _ :=
    (Search.world_contact t q i e s).trans (congrArg Prod.snd same)
  refine ⟨?_, ?_, ?_, ?_⟩ <;> rw [addresses]
  · show (s.events ++ [_]).filterMap Event.contact? = _
    rw [List.filterMap_append, h.requests, List.map_append]
    rfl
  · rw [told, h.answers, Transport.askAll_concat, List.map_append, outcome]
    rfl
  · rw [Transport.askAll_concat, world]
  · rw [Transport.askAll_concat, world]

/-- So is a contact right after a check. -/
theorem attempt {s : Search σ} (h : Carries t q w₀ s.events s.world) (i : Nat) (e : Endpoint)
    (random : Random) :
    Carries t q w₀ (s.attempt t q i e random).2.events (s.attempt t q i e random).2.world :=
  contact (s := s.checked i e random) (h.draw random) i e

/-- **Visits carry their request.** -/
theorem visits (vs : List Visit) {s : Search σ} (h : Carries t q w₀ s.events s.world) :
    Carries t q w₀ (s.visits t q vs).events (s.visits t q vs).world := by
  induction vs generalizing s with
  | nil =>
    show Carries t q w₀ s.exhausted.events s.exhausted.world
    rw [s.events_exhausted]
    unfold Search.exhausted
    split
    · exact h
    · exact h.draw _
  | cons v vs ih =>
    unfold Search.visits
    cases step : s.visit t q v with
    | inl r =>
      cases Search.visited_of_visit step with
      | cut => exact h
      | @decided _ e random => exact h.attempt v.position e random
    | inr s' =>
      cases Search.visited_of_visit step with
      | passed => exact ih h
      | refused => exact ih (h.draw _)
      | @failed _ e random => exact ih (h.attempt v.position e random)

/-- So do attempts. -/
theorem attempts (positions : List Nat) {s : Search σ} (h : Carries t q w₀ s.events s.world) :
    Carries t q w₀ (s.attempts t q positions).events (s.attempts t q positions).world := by
  induction positions generalizing s with
  | nil => exact h
  | cons i rest ih =>
    unfold Search.attempts
    cases s.selection.endpoints.get? i with
    | none => exact ih h
    | some e =>
      have asked := h.contact i e
      dsimp only
      cases (s.contact t q i e).1 with
      | ok a => exact asked
      | error f =>
        dsimp only
        split
        · exact ih (s := { (s.contact t q i e).2 with failure := some f }) asked
        · exact asked

end Carries

/-! ## Calls -/

/-- **A call of a selection carries its request**, in both modes. -/
theorem Selection.carries_sendIn {σ : Type} (mode : Mode) (t : Transport σ) (q : Request)
    (s : Selection) (w : World σ) :
    Carries t q w (s.sendIn mode t q w).events (s.sendIn mode t q w).world := by
  cases mode with
  | exhaustive => exact Carries.attempts s.ordered.order (.start w)
  | affinity =>
    show Carries t q w (s.send t q w).events (s.send t q w).world
    unfold Selection.send
    split
    · exact .start w
    · exact Carries.visits _ (.start w)

namespace Manager

variable {σ : Type} (v : Service σ) (q : Request) (m : Manager) (w : World σ)

/-- A resolution leaves the world but for random words. -/
theorem world_resolve :
    (m.resolve v w).2.2 = { w with random := (m.resolve v w).2.2.random } := by
  cases m <;> rfl

/-- A resolution carries nothing. -/
theorem requests_resolve : (m.resolve v w).2.1.filterMap Event.contact? = [] := by
  refine List.filterMap_eq_nil_iff.2 fun e he => ?_
  have none := List.filterMap_eq_nil_iff.1 (told_resolve v m w) e he
  cases e with
  | lookup => rfl
  | contact => cases none

/-- **A call of a manager carries its request**, in both modes. -/
theorem carries_sendIn (mode : Mode) :
    Carries v.transport q w (m.sendIn v mode q w).events (m.sendIn v mode q w).world := by
  have told := told_resolve v m w
  have world := world_resolve v m w
  cases hm : (m.resolve v w).1 with
  | unresolved => exact absurd hm (resolve_ne_unresolved v m w)
  | failed f =>
    have nobody : contacted (m.resolve v w).2.1 = [] := congrArg (List.map Prod.fst) told
    rw [sendIn_of_failed q hm]
    refine ⟨?_, ?_, ?_, ?_⟩ <;> dsimp only <;> rw [nobody]
    · exact requests_resolve v m w
    · exact told
    · exact now_resolve v m w
    · show (m.resolve v w).2.2.wire = w.wire
      rw [world]
  | ready s =>
    obtain ⟨requests, answers, now, wire⟩ :=
      s.carries_sendIn mode v.transport q (m.resolve v w).2.2
    rw [world, Transport.askAll_draw] at answers now wire
    rw [sendIn_of_ready q hm, world]
    rw [world] at requests
    generalize s.sendIn mode v.transport q _ = r at *
    have same : contacted ((m.resolve v w).2.1 ++ r.events) = contacted r.events := by
      unfold contacted
      rw [List.filterMap_append, told, List.nil_append]
    refine ⟨?_, ?_, ?_, ?_⟩ <;> dsimp only <;> rw [same]
    · rw [List.filterMap_append, requests_resolve, List.nil_append, requests]
    · rw [List.filterMap_append, told, List.nil_append, answers]
    · exact now
    · exact wire

end Manager

end Uplink
