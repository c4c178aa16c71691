import Uplink.Proofs.Affinity
import Uplink.Proofs.Log

/-!
# Where affinity comes from

Affinity remembers one thing about the past: which alternate gave the latest
answer to a request with affinity. After every history, an alternate has
affinity only if it gave that answer, and if it gave it and has no affinity, it
has failed since. Nothing but requests with affinity has a part in this, so an
answer to an exhaustive call changes nothing.

The proof carries both halves along the history (`Manager.Traced`). A call that
is answered starts afresh. A call that is not answered keeps affinity, and then
both halves are those of the history before, or it takes affinity away, and then
the first half says who has just failed.
-/

namespace Uplink

/-! ## The latest answer -/

section Latest

variable {σ ρ : Type}

/-- **The latest answer of some calls**: the call `r` was answered, and the
calls `after` it were not. -/
structure LatestAnswer (replies : List (Reply σ ρ)) (r : Reply σ ρ) (after : List (Reply σ ρ)) :
    Prop where
  split : ∃ before, replies = before ++ r :: after
  answered : r.Answered
  unanswered : ∀ r' ∈ after, ¬ r'.Answered

variable {replies after after' : List (Reply σ ρ)} {r r' : Reply σ ρ}

theorem LatestAnswer.mem (h : LatestAnswer replies r after) : r ∈ replies := by
  obtain ⟨before, rfl⟩ := h.split
  exact List.mem_append_right before List.mem_cons_self

/-- A call that is answered gives the latest answer. -/
theorem latestAnswer_concat (replies : List (Reply σ ρ)) (h : r.Answered) :
    LatestAnswer (replies ++ [r]) r [] :=
  ⟨⟨replies, rfl⟩, h, nofun⟩

/-- A call that is not answered leaves the latest answer as it was. -/
theorem LatestAnswer.concat (h : LatestAnswer replies r after) (none : ¬ r'.Answered) :
    LatestAnswer (replies ++ [r']) r (after ++ [r']) where
  split := by
    obtain ⟨before, rfl⟩ := h.split
    exact ⟨before, List.append_assoc before (r :: after) [r']⟩
  answered := h.answered
  unanswered := by
    intro r₁ mem
    obtain mem | mem := List.mem_append.1 mem
    · exact h.unanswered r₁ mem
    · exact List.mem_singleton.1 mem ▸ none

/-- **There is one latest answer.** -/
theorem LatestAnswer.unique (h : LatestAnswer replies r after)
    (h' : LatestAnswer replies r' after') : r = r' ∧ after = after' := by
  obtain ⟨before, rfl⟩ := h.split
  obtain ⟨before', split⟩ := h'.split
  obtain ⟨between, _, late⟩ | ⟨between, _, late⟩ := List.append_eq_append_iff.1 split
  · cases between with
    | nil => exact List.cons.inj late
    | cons r₁ between =>
      have mem : r' ∈ after := (List.cons.inj late).2 ▸ List.mem_append_right _ List.mem_cons_self
      exact absurd h'.answered (h.unanswered r' mem)
  · cases between with
    | nil => exact ⟨(List.cons.inj late).1.symm, (List.cons.inj late).2.symm⟩
    | cons r₁ between =>
      have mem : r ∈ after' := (List.cons.inj late).2 ▸ List.mem_append_right _ List.mem_cons_self
      exact absurd h.answered (h'.unanswered r mem)

/-- The latest answer before a call that was not answered. -/
theorem LatestAnswer.exists_of_concat (h : LatestAnswer (replies ++ [r']) r after)
    (none : ¬ r'.Answered) : ∃ earlier, after = earlier ++ [r'] ∧ LatestAnswer replies r earlier := by
  obtain ⟨before, split⟩ := h.split
  obtain rfl | ⟨earlier, r₁, rfl⟩ := List.eq_nil_or_concat after
  · obtain ⟨_, last⟩ := List.append_inj' split rfl
    exact absurd h.answered ((List.cons.inj last).1 ▸ none)
  · rw [List.concat_eq_append, ← List.cons_append, ← List.append_assoc] at split
    obtain ⟨rfl, last⟩ := List.append_inj' split rfl
    obtain rfl := (List.cons.inj last).1
    refine ⟨earlier, List.concat_eq_append, ⟨before, rfl⟩, h.answered, fun r₂ mem => ?_⟩
    exact h.unanswered r₂ (List.concat_eq_append ▸ List.mem_append_left _ mem)

/-- A call is answered by one address. -/
theorem Reply.AnsweredBy.unique {a b : IpAddr} (h : r.AnsweredBy a) (h' : r.AnsweredBy b) :
    a = b := by
  obtain ⟨_, _, last⟩ := h
  obtain ⟨_, _, last'⟩ := h'
  exact (Prod.mk.inj (Option.some.inj (last.symm.trans last'))).1

end Latest

/-! ## One call of a selection -/

namespace Selection

variable {σ : Type} {settings : CommunicationSettings} {s : Selection}

/-- **Affinity after a call that was answered**: that of the endpoint which has
answered, unless it is the preferred one. -/
theorem Sound.affinity_send_of_answered (h : s.Sound settings) (t : Transport σ) (q : Request)
    (w : World σ) (answered : (s.send t q w).Answered) :
    ∃ i a, s.endpoints.addresses[i]? = some a ∧ (s.send t q w).AnsweredBy a
      ∧ (s.send t q w).state.affinity = if i = 0 then none else some i := by
  obtain ⟨a, ha⟩ := answered
  cases blocked : s.breaker.blocks w.now with
  | true =>
    rw [send_of_blocks t q blocked] at ha
    cases ha
  | false =>
    obtain ⟨trail, ending⟩ := ending_send t q blocked
    have sound := h.admitted w.now
    obtain ⟨before, c, rfl, outcome, affinity⟩ :=
      ending.affinity_of_answered (fun i hi => (sound.affine i hi).1) ha
    have located := ending.located c (List.mem_append_right before List.mem_cons_self)
    rw [EndpointSet.addresses_eq_of_bare (bare_admitted s w.now)] at located
    refine ⟨c.position, c.address, located, ⟨a, ha, ?_⟩, affinity⟩
    rw [ending.contacts, List.map_append, ← outcome]
    exact List.getLast?_concat

/-- **Affinity after a call that was not answered**: as it was, or taken from an
alternate that has failed in the call. -/
theorem affinity_send_of_unanswered (s : Selection) (t : Transport σ) (q : Request) (w : World σ)
    (unanswered : ¬ (s.send t q w).Answered) :
    (s.send t q w).state.affinity = s.affinity
      ∨ (s.send t q w).state.affinity = none ∧ ∃ i a o, s.affinity = some i
        ∧ s.endpoints.addresses[i]? = some a ∧ (a, o) ∈ (s.send t q w).contacts
        ∧ o.isConnectivity = true := by
  cases blocked : s.breaker.blocks w.now with
  | true => exact .inl (congrArg (·.state.affinity) (send_of_blocks t q blocked))
  | false =>
    obtain ⟨trail, ending⟩ := ending_send t q blocked
    obtain same | ⟨none, i, c, affine, hc, rfl, failed⟩ := ending.affinity_of_unanswered unanswered
    · exact .inl (same.trans (affinity_admitted s w.now))
    · rw [affinity_admitted] at affine
      have located := ending.located c hc
      rw [EndpointSet.addresses_eq_of_bare (bare_admitted s w.now)] at located
      refine .inr ⟨none, c.position, c.address, c.outcome, affine, located, ?_, failed⟩
      rw [ending.contacts]
      exact List.mem_map_of_mem hc

end Selection

/-! ## Affinity along a history -/

namespace Manager

variable {σ τ : Type} {v : Service σ} {m m' : Manager} {w : World σ}
  {replies : List (Reply σ Manager)}

/-- **Affinity is where the requests with affinity have left it**: with the
alternate of the latest answer, or with nobody, and then that alternate has
failed since. As long as there are no endpoints nothing was answered. -/
structure Traced (replies : List (Reply σ Manager)) (m : Manager) : Prop where
  answered : ∀ i, m.affinity = some i → ∃ a r after, m.addresses[i]? = some a
    ∧ LatestAnswer replies r after ∧ r.AnsweredBy a
  lost : m.affinity = none → ∀ i a r after, 1 ≤ i → m.addresses[i]? = some a →
    LatestAnswer replies r after → r.AnsweredBy a →
    ∃ r' ∈ after, ∃ o, (a, o) ∈ r'.contacts ∧ o.isConnectivity = true
  silent : m.addresses = [] → ∀ r ∈ replies, ¬ r.Answered

theorem traced_unresolved : unresolved.Traced ([] : List (Reply σ Manager)) where
  answered := nofun
  lost := fun _ _ _ _ _ _ located => absurd located nofun
  silent := fun _ _ mem => absurd mem List.not_mem_nil

/-- Nothing else about a manager matters. -/
theorem Traced.of_same (h : m.Traced replies) (affinity : m'.affinity = m.affinity)
    (addresses : m'.addresses = m.addresses) : m'.Traced replies where
  answered := by
    rw [affinity, addresses]
    exact h.answered
  lost := by
    rw [affinity, addresses]
    exact h.lost
  silent := by
    rw [addresses]
    exact h.silent

/-- A resolution gives affinity to nobody, and before it nothing was
answered. -/
theorem Traced.resolve (h : m.Traced replies) (v : Service σ) (w : World σ) :
    (m.resolve v w).1.Traced replies := by
  cases m with
  | failed f => exact h
  | ready s => exact h
  | unresolved =>
    refine ⟨fun i affine => ?_, fun _ i a r after _ _ latest => ?_, fun _ => h.silent rfl⟩
    · cases (affinity_resolve v unresolved w).symm.trans affine
    · exact absurd latest.answered (h.silent rfl r latest.mem)

/-- **A call that is answered starts afresh.** The endpoint that has answered is
the one that the first half asks for, and the second half is about no
alternate. -/
theorem traced_of_answered {r : Reply σ Manager} {i : Nat} {a : IpAddr}
    (distinct : m.addresses.Nodup) (place : m.addresses[i]? = some a) (served : r.AnsweredBy a)
    (affinity : m.affinity = if i = 0 then none else some i) : m.Traced (replies ++ [r]) := by
  have latest := latestAnswer_concat replies served.answered
  refine ⟨fun j affine => ?_, fun none j b r' after alternate place' latest' served' => ?_,
    fun none => ?_⟩
  · rw [affinity] at affine
    split at affine
    · cases affine
    · obtain rfl := Option.some.inj affine
      exact ⟨a, r, [], place, latest, served⟩
  · -- an alternate that has given this answer has affinity
    obtain ⟨rfl, rfl⟩ := latest'.unique latest
    obtain rfl := served'.unique served
    have same : j = i := EndpointSet.position_unique distinct place' place
    rw [affinity, ← same, if_neg (Nat.ne_of_gt alternate)] at none
    cases none
  · rw [none] at place
    cases place

/-- **A call that is not answered changes neither half.** -/
theorem Traced.unanswered (h : m.Traced replies) {r : Reply σ Manager} (unanswered : ¬ r.Answered) :
    m.Traced (replies ++ [r]) where
  answered := by
    intro i affine
    obtain ⟨a, r', after, place, latest, served⟩ := h.answered i affine
    exact ⟨a, r', _, place, latest.concat unanswered, served⟩
  lost := by
    intro none i a r' after alternate place latest served
    obtain ⟨earlier, rfl, before⟩ := latest.exists_of_concat unanswered
    obtain ⟨r₁, hr₁, failed⟩ := h.lost none i a r' earlier alternate place before served
    exact ⟨r₁, List.mem_append_left _ hr₁, failed⟩
  silent := by
    intro none r' mem
    obtain mem | mem := List.mem_append.1 mem
    · exact h.silent none r' mem
    · exact List.mem_singleton.1 mem ▸ unanswered

/-- **A call that takes affinity away does so because the alternate has
failed**, and the first half of the history before tells that the alternate gave
the latest answer. -/
theorem Traced.taken (h : m.Traced replies) {r : Reply σ Manager} (unanswered : ¬ r.Answered)
    {i : Nat} {a : IpAddr} {o : Outcome} (affine : m.affinity = some i)
    (place : m.addresses[i]? = some a) (contact : (a, o) ∈ r.contacts)
    (failed : o.isConnectivity = true) (gone : m'.affinity = none)
    (addresses : m'.addresses = m.addresses) : m'.Traced (replies ++ [r]) where
  answered := by
    intro j affine'
    cases gone.symm.trans affine'
  lost := by
    intro _ j b r' after _ _ latest served
    obtain ⟨earlier, rfl, before⟩ := latest.exists_of_concat unanswered
    obtain ⟨_, r₁, _, place₁, latest₁, by₁⟩ := h.answered i affine
    obtain ⟨rfl, _⟩ := before.unique latest₁
    obtain rfl := served.unique by₁
    obtain rfl := Option.some.inj (place₁.symm.trans place)
    exact ⟨r, List.mem_append_right _ (List.mem_singleton.2 rfl), o, contact, failed⟩
  silent := by
    rw [addresses]
    exact (h.unanswered unanswered).silent

/-- **A call with affinity keeps affinity traced.** -/
theorem Traced.send_ready {s : Selection} {r : Reply σ Manager} {settings : CommunicationSettings}
    {t : Transport σ} {q : Request} (h : (ready s).Traced replies) (sound : s.Sound settings)
    (tells : r.Tells (s.send t q w)) : r.state.Traced (replies ++ [r]) := by
  have addresses : r.state.addresses = s.endpoints.addresses := by
    rw [tells.state]
    exact Selection.addresses_send t q s w
  have affinity : r.state.affinity = (s.send t q w).state.affinity := by
    rw [tells.state]
    rfl
  by_cases answered : r.Answered
  · obtain ⟨i, a, place, served, now⟩ :=
      sound.affinity_send_of_answered t q w (tells.answered_iff.1 answered)
    rw [← addresses] at place
    exact traced_of_answered (addresses ▸ sound.distinct) place (tells.answeredBy_iff.2 served)
      (affinity.trans now)
  · have unanswered : ¬ (s.send t q w).Answered := fun h => answered (tells.answered_iff.2 h)
    obtain same | ⟨gone, i, a, o, affine, place, contact, failed⟩ :=
      Selection.affinity_send_of_unanswered s t q w unanswered
    · exact (h.unanswered answered).of_same (affinity.trans same) addresses
    · exact h.taken answered affine place (tells.contacts ▸ contact) failed (affinity.trans gone)
        addresses

/-- So does a call that may have to look for the endpoints first. -/
theorem Traced.send (h : m.Traced replies) (sound : m.Sound v.settings) (q : Request) :
    (m.sendIn v .affinity q w).state.Traced (replies ++ [m.sendIn v .affinity q w]) := by
  have resolved := h.resolve v w
  cases hm : (m.resolve v w).1 with
  | unresolved => exact absurd hm (resolve_ne_unresolved v m w)
  | ready s =>
    rw [hm] at resolved
    exact resolved.send_ready (sound.resolve w s hm) (tells_sendIn q hm)
  | failed f =>
    rw [hm] at resolved
    rw [sendIn_of_failed q hm]
    exact resolved.unanswered nofun

/-- An exhaustive call leaves affinity and the addresses as the resolution
has them. -/
theorem affinity_sendAll (v : Service σ) (q : Request) (m : Manager) (w : World σ) :
    (m.sendIn v .exhaustive q w).state.affinity = (m.resolve v w).1.affinity
      ∧ (m.sendIn v .exhaustive q w).state.addresses = (m.resolve v w).1.addresses := by
  cases hm : (m.resolve v w).1 with
  | unresolved => exact absurd hm (resolve_ne_unresolved v m w)
  | failed f =>
    rw [sendIn_of_failed q hm]
    exact ⟨rfl, rfl⟩
  | ready s =>
    rw [sendIn_of_ready q hm]
    have kept := (Selection.kept_sendAll v.transport q s (m.resolve v w).2.2).1
    exact ⟨kept.affinity, EndpointSet.addresses_eq_of_bare kept.bare⟩

/-- **Only a request with affinity changes affinity.** -/
theorem affinity_perform (u : Service τ) (m : Manager) (w : World τ) {op : Operation}
    (h : op.isSend = false) : ((Scene.mk m w).perform u op).manager.affinity = m.affinity := by
  match op with
  | .status | .order | .wait ms => rfl
  | .call .exhaustive q => exact (affinity_sendAll u q m w).1.trans (affinity_resolve u m w)

end Manager

namespace Scene

variable {σ τ : Type}

/-- **An operation keeps affinity traced.** -/
theorem traced_perform {v : Service σ} {s : Scene σ} {earlier : List (Reply σ Manager)}
    (h : s.manager.Traced earlier) (sound : s.manager.Sound v.settings) (op : Operation) :
    (s.perform v op).manager.Traced (earlier ++ s.repliesOf v .affinity op) := by
  match op with
  | .call .affinity q => exact h.send sound q
  | .call .exhaustive q =>
    obtain ⟨affinity, addresses⟩ := Manager.affinity_sendAll v q s.manager s.world
    exact (List.append_nil earlier).symm ▸ (h.resolve v s.world).of_same affinity addresses
  | .status | .order | .wait ms => exact (List.append_nil earlier).symm ▸ h

/-- **A run keeps affinity traced.** -/
theorem traced_run {v : Service σ} (ops : List Operation) {s : Scene σ}
    {earlier : List (Reply σ Manager)} (h : s.manager.Traced earlier)
    (sound : s.manager.Sound v.settings) :
    (run v ops s).manager.Traced (earlier ++ replies v .affinity ops s) := by
  induction ops generalizing s earlier with
  | nil => exact (List.append_nil earlier).symm ▸ h
  | cons op ops ih =>
    have rest := ih (traced_perform h sound op) (sound_perform sound op)
    rw [List.append_assoc] at rest
    exact rest

/-- **Affinity tells who gave the latest answer.** After every history, if
somebody has affinity, it is an alternate, and the latest request with affinity
that was answered was answered by it. If nobody has affinity and that request was
answered by an alternate, then a later one contacted the alternate and failed
there for want of connectivity. Exhaustive calls, questions and the passing of
time leave affinity as it is, whatever is answered to them. -/
theorem affinity_tells_latest_answer (v : Service σ) (ops : List Operation) (w₀ : World σ) :
    let m := (history v ops w₀).manager
    let sends := replies v .affinity ops (start w₀)
    (∀ i, m.affinity = some i → 1 ≤ i ∧ i < m.addresses.length
        ∧ ∃ a r after, m.addresses[i]? = some a ∧ LatestAnswer sends r after ∧ r.AnsweredBy a)
      ∧ (m.affinity = none → ∀ i a r after, 1 ≤ i → m.addresses[i]? = some a →
        LatestAnswer sends r after → r.AnsweredBy a →
        ∃ r' ∈ after, ∃ o, (a, o) ∈ r'.contacts ∧ o.isConnectivity = true)
      ∧ ∀ (u : Service τ) (w : World τ) (op : Operation), op.isSend = false →
        ((Scene.mk m w).perform u op).manager.affinity = m.affinity := by
  intro m sends
  have traced : m.Traced ([] ++ sends) :=
    traced_run ops (s := start w₀) Manager.traced_unresolved (Manager.sound_unresolved v.settings)
  have sound : m.Sound v.settings := sound_history v ops w₀
  refine ⟨fun i affine => ?_, traced.lost, fun u w op => Manager.affinity_perform u m w⟩
  obtain ⟨a, r, after, place, latest, served⟩ := traced.answered i affine
  refine ⟨?_, (List.getElem?_eq_some_iff.1 place).1, a, r, after, place, latest, served⟩
  cases hm : m with
  | ready s =>
    rw [hm] at affine
    exact ((sound s hm).affine i affine).1
  | unresolved | failed =>
    rw [hm] at affine
    cases affine

end Scene

end Uplink
