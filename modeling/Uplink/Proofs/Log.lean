import Uplink.Proofs.Opening

/-!
# The log of a history

A manager keeps what it needs for the next request and forgets how it came to
know it. Statements about histories speak of what it has forgotten, so a history
is written down here, in two ways.

The replies tell how every call of a mode ended, one after the other. The log
tells the same history from the side of the endpoints: when they were found,
when the window of a breaker was over and all of them got a fresh fail period,
and every contact with the instants at which it started and was over.

Two things are read off a log about an address. Its endpoint is *renewed* when
it is found, when it answers and when it gets a fresh fail period, and from the
last of these instants on its fail period runs (`renewedAt?`). And it is *probed*
when a request with affinity contacts it (`probes`).
-/

namespace Uplink

/-! ## Replies -/

namespace Scene

variable {σ : Type}

/-- The replies of an operation that is a call in a mode. -/
def repliesOf (v : Service σ) (mode : Mode) (s : Scene σ) : Operation → List (Reply σ Manager)
  | .call mode' q => if mode' = mode then [s.call v mode' q] else []
  | _ => []

/-- **The replies of a run's calls in a mode**, in order. -/
def replies (v : Service σ) (mode : Mode) : List Operation → Scene σ → List (Reply σ Manager)
  | [], _ => []
  | op :: ops, s => s.repliesOf v mode op ++ replies v mode ops (s.perform v op)

end Scene

/-! ## Entries -/

/-- **An entry of a log.** -/
inductive Entry where
  /-- The endpoints were found. -/
  | found (now : Instant)
  /-- The window of a breaker was over, and every endpoint got a fresh fail
  period. -/
  | rearmed (now : Instant)
  /-- A request was sent to an address in a mode, and this is how it ended. -/
  | contact (mode : Mode) (address : IpAddr) (started finished : Instant) (outcome : Outcome)

namespace Entry

/-- The instant at which an entry renews the endpoint at an address. -/
def renews? (a : IpAddr) : Entry → Option Instant
  | found now | rearmed now => some now
  | contact _ b _ finished (.ok _) => if b = a then some finished else none
  | contact _ _ _ _ (.error _) => none

/-- The instant at which an entry is a probe of an address. -/
def probes? (a : IpAddr) : Entry → Option Instant
  | contact .affinity b started _ _ => if b = a then some started else none
  | _ => none

/-- **When an address was last renewed.** -/
def renewedAt? (a : IpAddr) (log : List Entry) : Option Instant :=
  (log.filterMap (renews? a)).getLast?

/-- **When an address was probed**, in order. -/
def probes (a : IpAddr) (log : List Entry) : List Instant :=
  log.filterMap (probes? a)

theorem renewedAt?_concat_of_some {a : IpAddr} {entry : Entry} {now : Instant}
    (log : List Entry) (h : entry.renews? a = some now) :
    renewedAt? a (log ++ [entry]) = some now := by
  unfold renewedAt?
  rw [List.filterMap_append, List.filterMap_cons_some h]
  exact List.getLast?_concat

theorem renewedAt?_concat_of_none {a : IpAddr} {entry : Entry} (log : List Entry)
    (h : entry.renews? a = none) : renewedAt? a (log ++ [entry]) = renewedAt? a log := by
  unfold renewedAt?
  rw [List.filterMap_append, List.filterMap_cons_none h, List.filterMap_nil, List.append_nil]

theorem probes_concat_of_none {a : IpAddr} {entry : Entry} (log : List Entry)
    (h : entry.probes? a = none) : probes a (log ++ [entry]) = probes a log := by
  unfold probes
  rw [List.filterMap_append, List.filterMap_cons_none h, List.filterMap_nil, List.append_nil]

theorem mem_probes_concat {a : IpAddr} {entry : Entry} {log : List Entry} {t : Instant}
    (h : t ∈ probes a (log ++ [entry])) : t ∈ probes a log ∨ entry.probes? a = some t := by
  unfold probes at h
  rw [List.filterMap_append] at h
  refine (List.mem_append.1 h).imp id fun h => ?_
  obtain ⟨e, he, probe⟩ := List.mem_filterMap.1 h
  exact List.mem_singleton.1 he ▸ probe

end Entry

/-- What an event of a call in a mode is in the log. -/
def Event.entry? (mode : Mode) : Event → Option Entry
  | contact a _ started finished outcome => some (.contact mode a started finished outcome)
  | lookup .. => none

/-- Whether the window of an open breaker is over. -/
def Breaker.isOver (b : Breaker) (now : Instant) : Bool :=
  match b with
  | closed => false
  | .open since period => now.exceeds since period

/-- A breaker that stops a request is not over. -/
theorem Breaker.isOver_of_blocks {b : Breaker} {now : Instant} (h : b.blocks now = true) :
    b.isOver now = false := by
  cases b with
  | closed => cases h
  | «open» since period => exact (Bool.not_eq_true' _).mp h

/-- What a call in a mode does to the endpoints before it contacts anybody. -/
def Selection.rearmings (mode : Mode) (s : Selection) (now : Instant) : List Entry :=
  if mode = .affinity ∧ s.breaker.isOver now = true then [.rearmed now] else []

/-- What a first resolution puts into the log by what it has found. -/
def Manager.discovery (now : Instant) : Manager → List Entry
  | ready _ => [.found now]
  | _ => []

/-! ## Logs -/

namespace Scene

variable {σ : Type}

/-- The entries that a call makes before it contacts anybody. -/
def marks (v : Service σ) (mode : Mode) (s : Scene σ) : List Entry :=
  match s.manager with
  | .unresolved => (s.manager.resolve v s.world).1.discovery s.world.now
  | .failed _ => []
  | .ready selection => selection.rearmings mode s.world.now

/-- The entries of an operation. -/
def entries (v : Service σ) (s : Scene σ) : Operation → List Entry
  | .call mode q => s.marks v mode ++ (s.call v mode q).events.filterMap (Event.entry? mode)
  | _ => []

/-- **The log of a run.** -/
def log (v : Service σ) : List Operation → Scene σ → List Entry
  | [], _ => []
  | op :: ops, s => s.entries v op ++ log v ops (s.perform v op)

end Scene

/-- Events that are no contacts are not in the log. -/
theorem filterMap_entry?_of_told {events : List Event} (mode : Mode)
    (h : events.filterMap Event.told? = []) : events.filterMap (Event.entry? mode) = [] := by
  refine List.filterMap_eq_nil_iff.2 fun e he => ?_
  have none := List.filterMap_eq_nil_iff.1 h e he
  cases e with
  | lookup => rfl
  | contact => cases none

end Uplink
