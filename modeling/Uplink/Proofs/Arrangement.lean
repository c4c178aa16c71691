import Mathlib.Data.List.Dedup
import Mathlib.Data.Nat.Factorial.Basic
import Uplink.Proofs.DownPeriods
import Uplink.Proofs.Literal
import Uplink.Proofs.Resolution

/-!
# From addresses to a set of endpoints

The addresses of a host become endpoints: the first one is preferred, the others are
its alternates in a random order, and an address that was found twice is one endpoint.
So the set has each address once, whatever the random words are.

The order comes of a loop that trades elements in place. The positions it trades with
are the digits of random numbers, one number for several positions, and each of them
has to lie in the part of the list that is already shuffled. It does, because a number
below `m · (m + 1) ⋯ (m + c - 1)` leaves one below `(m + 1) ⋯ (m + c - 1)` when its last
digit, in radix `m`, is taken away (`Positions.Supplies`). A loop that stops at a
position out of range therefore never stops, and what it ends with is the shuffled list
(`Random.shuffleInPlace?_eq`).
-/

namespace Uplink

namespace Random

/-! ## Positions in range -/

namespace Positions

/-- The longest product is a product of as many factors as it counts, and it has at least
one. It fits in 32 bits if its first factor does. -/
theorem extend_spec (steps m count : Nat) (some_ : 1 ≤ count) :
    ∃ c, 1 ≤ c ∧ extend steps m (m.ascFactorial count) count = (m.ascFactorial c, c)
      ∧ (m.ascFactorial count < UInt32.size → m.ascFactorial c < UInt32.size) := by
  induction steps generalizing count with
  | zero => exact ⟨count, some_, rfl, id⟩
  | succ steps ih =>
    unfold extend
    rw [Nat.mul_comm, ← Nat.ascFactorial_succ]
    by_cases room : m.ascFactorial (count + 1) < UInt32.size
    · rw [if_pos room]
      obtain ⟨c, least, reached, fits⟩ := ih (count + 1) (Nat.le_add_left 1 count)
      exact ⟨c, least, reached, fun _ => fits room⟩
    · rw [if_neg room]
      exact ⟨count, some_, rfl, id⟩

theorem span_spec (m : Nat) :
    ∃ c, 1 ≤ c ∧ span m = (m.ascFactorial c, c)
      ∧ (m < UInt32.size → m.ascFactorial c < UInt32.size) := by
  have one : m.ascFactorial 1 = m := by simp [Nat.ascFactorial]
  have := extend_spec 32 m 1 (Nat.le_refl 1)
  rwa [one] at this

/-- **The digits that are left are those of the factors from `m` on**: the number is below
their product. -/
def Supplies (p : Positions) (m : Nat) : Prop :=
  p.left = 0 ∨ p.number < m.ascFactorial p.left

/-- A supply that was filled up has a digit. -/
theorem Supplies.refill {p : Positions} {m : Nat} (h : p.Supplies m) (positive : 0 < m) :
    1 ≤ (p.refill m).left ∧ (p.refill m).number < m.ascFactorial (p.refill m).left := by
  unfold Positions.refill
  by_cases empty : p.left = 0
  · obtain ⟨c, some_, span, _⟩ := span_spec m
    rw [if_pos empty, span]
    obtain ⟨k, rfl⟩ := Nat.exists_eq_add_of_le' positive
    exact ⟨some_, p.random.below_lt_of_pos .bits32 (Nat.ascFactorial_pos k c)⟩
  · rw [if_neg empty]
    exact ⟨Nat.pos_of_ne_zero empty, h.resolve_left empty⟩

/-- **The next position is in range, and the rest serves the next factor.** -/
theorem Supplies.next {p : Positions} {m : Nat} (h : p.Supplies m) (positive : 0 < m) :
    (p.next m).1 < m ∧ (p.next m).2.Supplies (m + 1) := by
  obtain ⟨some_, digits⟩ := h.refill positive
  unfold Positions.next
  dsimp only
  by_cases last : (p.refill m).left = 1
  · rw [if_pos last]
    rw [last] at digits
    exact ⟨by simpa [Nat.ascFactorial] using digits, .inl rfl⟩
  · rw [if_neg last]
    refine ⟨Nat.mod_lt _ positive, .inr ?_⟩
    -- one factor less for one digit less
    obtain ⟨c, count⟩ := Nat.exists_eq_add_of_le' some_
    rw [count] at digits ⊢
    refine Nat.div_lt_of_lt_mul ?_
    rwa [Nat.succ_ascFactorial, ← Nat.ascFactorial_succ]

end Positions

/-! ## Trading in place -/

section InPlace

variable {α : Type}

/-- The list with the elements at two positions traded, if both are in range. -/
def trade? (xs : List α) (i j : Nat) : Option (List α) :=
  match xs[i]?, xs[j]? with
  | some x, some y => some ((xs.set i y).set j x)
  | _, _ => none

/-- So many elements, from a position on, traded in turn with the element at the next
position of a supply. -/
def tradeFrom? (i : Nat) (p : Positions) : Nat → List α → Option (List α)
  | 0, xs => some xs
  | count + 1, xs => (trade? xs i (p.next (i + 1)).1).bind (tradeFrom? (i + 1) (p.next (i + 1)).2 count)

/-- **A list shuffled in place**, if every position is in range. The first element trades
with itself. -/
def shuffleInPlace? (r : Random) (xs : List α) : Option (List α) :=
  tradeFrom? 1 ⟨r, 0, 0⟩ (xs.length - 1) xs

/-- The element behind the ones that are placed is placed by a trade. -/
theorem trade?_append (front : List α) (x : α) (xs : List α) {j : Nat} (h : j ≤ front.length) :
    trade? (front ++ x :: xs) front.length j = some (place front x j ++ xs) := by
  have here : (front ++ x :: xs)[front.length]? = some x := by simp
  unfold trade? place
  rw [here]
  obtain inside | rfl := Nat.lt_or_eq_of_le h
  · rw [List.getElem?_append_left inside, List.getElem?_eq_getElem inside]
    simp [List.set_append_left _ _ inside]
  · simp

theorem length_place (front : List α) (x : α) (j : Nat) :
    (place front x j).length = front.length + 1 :=
  (place_perm front x j).length_eq

/-- **Trading in place never leaves the range**, and it places one element after the
other. -/
theorem tradeFrom?_eq (xs front : List α) {p : Positions}
    (supply : p.Supplies (front.length + 1)) :
    tradeFrom? front.length p xs.length (front ++ xs) = some (shuffleOnto front p xs).1 := by
  induction xs generalizing front p with
  | nil => simp [tradeFrom?, shuffleOnto]
  | cons x xs ih =>
    obtain ⟨range, rest⟩ := supply.next (Nat.succ_pos _)
    rw [List.length_cons, tradeFrom?, trade?_append front x xs (Nat.le_of_lt_succ range)]
    rw [shuffleOnto]
    have step := ih (place front x (p.next (front.length + 1)).1) (by rw [length_place]; exact rest)
    rw [length_place] at step
    exact step

/-- **A list shuffled in place is the shuffled list.** -/
theorem shuffleInPlace?_eq (r : Random) (xs : List α) :
    shuffleInPlace? r xs = some (r.shuffle xs).1 := by
  cases xs with
  | nil => rfl
  | cons x xs => exact tradeFrom?_eq xs [x] (.inl rfl)

end InPlace

end Random

/-! ## Sets of addresses -/

namespace EndpointSet

theorem mem_distinct {addresses : List IpAddr} {a : IpAddr} :
    a ∈ distinct addresses ↔ a ∈ addresses := by
  induction addresses with
  | nil => rfl
  | cons b rest ih =>
    by_cases same : a = b
    · simp [distinct, same]
    · simp [distinct, same, ih]

/-- What is kept of some addresses is each of them once. -/
theorem distinct_perm (addresses : List IpAddr) : (distinct addresses).Perm addresses.dedup :=
  (List.perm_ext_iff_of_nodup (nodup_distinct addresses) addresses.nodup_dedup).2
    fun a => by rw [mem_distinct, List.mem_dedup]

/-- **The set of some addresses**: each address is one endpoint, the first one is
preferred, and the others are all alternates if the settings ask for several endpoints,
and none of them otherwise. -/
structure Gathers (settings : CommunicationSettings) (addresses : List IpAddr)
    (s : EndpointSet) : Prop where
  distinct : s.addresses.Nodup
  preferred : addresses.head? = some s.preferred.address
  alternates : settings.supportsMultiEndpoint = true →
    (s.alternates.map Endpoint.address).Perm (addresses.dedup.erase s.preferred.address)
  single : settings.supportsMultiEndpoint = false → s.alternates = []

/-- **Nothing is left to shuffle**: one endpoint is all that the settings ask for, or there
are at most two addresses. -/
def Settled (settings : CommunicationSettings) (addresses : List IpAddr) : Prop :=
  settings.supportsMultiEndpoint = false ∨ addresses.dedup.length ≤ 2

section OfAddresses

variable (settings : CommunicationSettings) (now : Instant) (r : Random) (first : IpAddr)
  (rest : List IpAddr)

/-- The addresses after the first one, each of them once. -/
theorem distinct_cons : distinct (first :: rest) = first :: (distinct (first :: rest)).tail :=
  rfl

theorem tail_distinct_perm :
    (distinct (first :: rest)).tail.Perm ((first :: rest).dedup.erase first) := by
  have := (distinct_perm (first :: rest)).erase first
  rwa [distinct_cons, List.erase_cons_head] at this

/-- A set for several endpoints. -/
theorem ofAddresses?_of_multi (multi : settings.supportsMultiEndpoint = true) :
    ofAddresses? (first :: rest) settings now r
      = (some ⟨.new first settings now,
          (r.shuffle (distinct (first :: rest)).tail).1.map (Endpoint.new · settings now)⟩,
        (r.shuffle (distinct (first :: rest)).tail).2) := by
  unfold ofAddresses? arrange
  rw [distinct_cons, multi]
  rfl

/-- A set for one endpoint. -/
theorem ofAddresses?_of_single (single : settings.supportsMultiEndpoint = false) :
    ofAddresses? (first :: rest) settings now r
      = (some ⟨.new first settings now, []⟩, r) := by
  unfold ofAddresses? arrange
  rw [distinct_cons, single]
  rfl

theorem map_address_new (addresses : List IpAddr) :
    (addresses.map (Endpoint.new · settings now)).map Endpoint.address = addresses := by
  rw [List.map_map]
  exact List.map_id addresses

/-- One element or none is shuffled without a draw. -/
theorem random_shuffle {α : Type} {xs : List α} (h : xs.length ≤ 1) : (r.shuffle xs).2 = r := by
  match xs, h with
  | [], _ => rfl
  | [_], _ => rfl

/-- **Addresses are made into a set of them**, and random words are taken only if there is
something to shuffle. -/
theorem gathers_ofAddresses? :
    ∃ set r', ofAddresses? (first :: rest) settings now r = (some set, r')
      ∧ set.Gathers settings (first :: rest)
      ∧ (Settled settings (first :: rest) → r' = r)
      ∧ (settings.supportsMultiEndpoint = true →
        (distinct (first :: rest)).tail.length < UInt32.size →
        r.shuffleInPlace? (distinct (first :: rest)).tail
          = some (set.alternates.map Endpoint.address)) := by
  have others := tail_distinct_perm first rest
  cases several : settings.supportsMultiEndpoint with
  | true =>
    have made := ofAddresses?_of_multi settings now r first rest several
    refine ⟨_, _, made, ⟨(ofAddresses?_spec made).1, rfl, fun _ => ?_, fun single => ?_⟩,
      fun settled => ?_, fun _ _ => ?_⟩
    · rw [map_address_new]
      exact (r.shuffle_perm _).trans others
    · exact absurd (several.symm.trans single) (by decide)
    · refine random_shuffle r ?_
      obtain single | two := settled
      · exact absurd (several.symm.trans single) (by decide)
      · rw [← (distinct_perm (first :: rest)).length_eq, distinct_cons, List.length_cons] at two
        exact Nat.le_of_succ_le_succ two
    · rw [map_address_new]
      exact Random.shuffleInPlace?_eq r _
  | false =>
    have made := ofAddresses?_of_single settings now r first rest several
    refine ⟨_, _, made, ⟨(ofAddresses?_spec made).1, rfl, fun multi => ?_, fun _ => rfl⟩,
      fun _ => rfl, nofun⟩
    exact absurd (several.symm.trans multi) (by decide)

end OfAddresses

end EndpointSet

/-! ## Resolutions -/

/-- **The address that a host is**: an address by its form, or a name that reads as one. -/
inductive Host.Names : Host → IpAddr → Prop
  | v4 (a : Ipv4) : Names (.v4 a) (.v4 a)
  | v6 (a : Ipv6) : Names (.v6 a) (.v6 a)
  | domain {name : List Char} {a : IpAddr} (reads : Url.literal? name = some a) :
      Names (.domain name) a

theorem Host.literal?_text {host : Host} {a : IpAddr} :
    Url.literal? host.text = some a ↔ host.Names a := by
  constructor
  · intro reads
    cases host with
    | domain name => exact .domain reads
    | v4 x =>
      obtain rfl := Option.some.inj ((Url.literal?_v4 x).symm.trans reads)
      exact .v4 x
    | v6 x =>
      obtain rfl := Option.some.inj ((Url.literal?_v6 x).symm.trans reads)
      exact .v6 x
  · rintro (x | x | reads)
    · exact Url.literal?_v4 x
    · exact Url.literal?_v6 x
    · exact reads

/-- **The addresses of a URL's host**: the one that the host is, or those that a resolver
answers with for its name. -/
inductive Url.Leads (url : Url) (resolver : Resolver) : List IpAddr → List Event → Prop
  | literal {host : Host} {a : IpAddr} (named : url.host? = some host) (literal : host.Names a) :
      Leads url resolver [a] []
  | lookup {host : Host} {addresses : List IpAddr} (named : url.host? = some host)
      (unread : ∀ a, ¬ host.Names a)
      (answer : resolver.lookup (String.ofList host.text) url.connectPort = .ok addresses) :
      Leads url resolver addresses [.lookup (String.ofList host.text) url.connectPort]

section Resolve

variable {url : Url} {resolver : Resolver} (settings : CommunicationSettings) (now : Instant)
  (r : Random) {addresses : List IpAddr} {events : List Event}

/-- **A resolution goes by the addresses that the host leads to.** -/
theorem resolveEndpoints_of_leads (h : url.Leads resolver addresses events) :
    ∃ host, url.host? = some host ∧ resolveEndpoints url settings resolver now r
      = .ofAnswer settings now r (String.ofList host.text) (.ok addresses) events := by
  cases h with
  | @literal host a named literal =>
    refine ⟨host, named, ?_⟩
    unfold resolveEndpoints
    rw [named]
    dsimp only
    rw [Host.literal?_text.2 literal]
    rfl
  | @lookup host addresses named unread answer =>
    refine ⟨host, named, ?_⟩
    have none : Url.literal? host.text = none :=
      Option.eq_none_iff_forall_ne_some.2 fun a reads => unread a (Host.literal?_text.1 reads)
    unfold resolveEndpoints
    rw [named]
    dsimp only
    rw [none]
    dsimp only
    rw [answer]
    rfl

variable {settings now r} in
/-- **A resolution that succeeds has been led to addresses.** -/
theorem leads_of_resolveEndpoints {set : EndpointSet}
    (h : (resolveEndpoints url settings resolver now r).result = .ok set) :
    ∃ addresses events, url.Leads resolver addresses events := by
  obtain ⟨_, eq⟩ | ⟨host, named, ⟨a, reads, _⟩ | ⟨unread, eq⟩⟩ :=
    resolveEndpoints_cases url settings resolver now r
  · rw [eq] at h
    cases h
  · exact ⟨[a], [], .literal named (Host.literal?_text.1 reads)⟩
  · rw [eq] at h
    cases answer : resolver.lookup (String.ofList host.text) url.connectPort with
    | error f =>
      rw [answer] at h
      cases h
    | ok addresses =>
      refine ⟨addresses, _, .lookup named (fun a literal => ?_) answer⟩
      exact absurd ((Host.literal?_text.2 literal).symm.trans unread) nofun

/-- **A resolution that is led to addresses finds their set, and fails if there are
none.** -/
theorem found_of_leads (h : url.Leads resolver addresses events) :
    let found := resolveEndpoints url settings resolver now r
    found.events = events
      ∧ (addresses = [] → ∃ host, url.host? = some host ∧ found.result
        = .error (.unknownHost (String.ofList host.text) "no addresses resolved"))
      ∧ (addresses ≠ [] → ∃ set, found.result = .ok set ∧ set.Gathers settings addresses
        ∧ (EndpointSet.Settled settings addresses → found.random = r)) := by
  obtain ⟨host, named, eq⟩ := resolveEndpoints_of_leads settings now r h
  dsimp only
  rw [eq]
  refine ⟨Resolved.events_ofAnswer .., ?_, fun some_ => ?_⟩
  · rintro rfl
    exact ⟨host, named, rfl⟩
  · obtain ⟨first, rest, rfl⟩ := List.exists_cons_of_ne_nil some_
    obtain ⟨set, r', made, gathers, settled, _⟩ :=
      EndpointSet.gathers_ofAddresses? settings now r first rest
    unfold Resolved.ofAnswer
    dsimp only
    rw [made]
    exact ⟨set, rfl, gathers, settled⟩

end Resolve

/-- **The endpoints are the addresses, each of them once.** From any addresses at all a set
is made that has each of them once: the first one is preferred, and the alternates are the
others in some order if the settings ask for several endpoints, and otherwise there are
none. No random word is taken if one endpoint is asked for or there are at most two
addresses. The order is what trading in place makes of the others, and no trade leaves the
range.

A resolution that succeeds has found such a set of what the host leads to. If the host is
an address, this is the one endpoint, without a lookup and without a random word. Otherwise
it is what the resolver answers with, and an answer without addresses is an unknown
host. -/
theorem EndpointSet.gathers_addresses (settings : CommunicationSettings) (now : Instant)
    (r : Random) :
    (∀ addresses : List IpAddr, addresses ≠ [] →
      ∃ set r', ofAddresses? addresses settings now r = (some set, r')
        ∧ set.Gathers settings addresses
        ∧ (Settled settings addresses → r' = r)
        ∧ (settings.supportsMultiEndpoint = true →
          (distinct addresses).tail.length < UInt32.size →
          r.shuffleInPlace? (distinct addresses).tail
            = some (set.alternates.map Endpoint.address)))
      ∧ ∀ (url : Url) (resolver : Resolver),
        let found := resolveEndpoints url settings resolver now r
        (∀ set, found.result = .ok set → ∃ addresses, url.Leads resolver addresses found.events
          ∧ set.Gathers settings addresses ∧ (Settled settings addresses → found.random = r))
        ∧ (∀ addresses events, url.Leads resolver addresses events →
          found.events = events
            ∧ (addresses ≠ [] → ∃ set, found.result = .ok set)
            ∧ (addresses = [] → ∃ host, url.host? = some host ∧ found.result
              = .error (.unknownHost (String.ofList host.text) "no addresses resolved")))
        ∧ ∀ host a, url.host? = some host → host.Names a →
          found = ⟨.ok ⟨.new a settings now, []⟩, [], r⟩ := by
  refine ⟨fun addresses some_ => ?_, fun url resolver => ⟨fun set ok => ?_,
    fun addresses events leads => ?_, fun host a named literal => ?_⟩⟩
  · obtain ⟨first, rest, rfl⟩ := List.exists_cons_of_ne_nil some_
    exact gathers_ofAddresses? settings now r first rest
  · obtain ⟨addresses, events, leads⟩ := leads_of_resolveEndpoints ok
    obtain ⟨told, unknown, known⟩ := found_of_leads settings now r leads
    have some_ : addresses ≠ [] := by
      intro none
      obtain ⟨host, _, failed⟩ := unknown none
      exact absurd (failed.symm.trans ok) nofun
    obtain ⟨set', ok', gathers, settled⟩ := known some_
    obtain rfl : set' = set := Except.ok.inj (ok'.symm.trans ok)
    exact ⟨addresses, told.symm ▸ leads, gathers, settled⟩
  · obtain ⟨told, unknown, known⟩ := found_of_leads settings now r leads
    exact ⟨told, fun some_ => (known some_).imp fun _ => And.left, unknown⟩
  · unfold resolveEndpoints
    rw [named]
    dsimp only
    rw [Host.literal?_text.2 literal]
    dsimp only
    -- one address leaves nothing to shuffle, whatever the settings ask for
    cases several : settings.supportsMultiEndpoint with
    | true => rw [ofAddresses?_of_multi settings now r a [] several]; rfl
    | false => rw [ofAddresses?_of_single settings now r a [] several]

/-- Three hosts of which the first one is found twice: it is one endpoint, and preferred. -/
theorem EndpointSet.gathers_addresses_rehearsed :
    let found : List IpAddr :=
      [.v4 ⟨10, 0, 0, 1⟩, .v4 ⟨10, 0, 0, 2⟩, .v4 ⟨10, 0, 0, 1⟩, .v4 ⟨10, 0, 0, 3⟩]
    let settings : CommunicationSettings := { supportsMultiEndpoint := true }
    ∃ set r', ofAddresses? found settings 0 (.cycle [7]) = (some set, r')
      ∧ set.addresses.Nodup ∧ set.preferred.address = .v4 ⟨10, 0, 0, 1⟩
      ∧ (set.alternates.map Endpoint.address).Perm [.v4 ⟨10, 0, 0, 2⟩, .v4 ⟨10, 0, 0, 3⟩] := by
  intro found settings
  obtain ⟨set, r', made, gathers, _, _⟩ :=
    (gathers_addresses settings 0 (.cycle [7])).1 found (List.cons_ne_nil _ _)
  have first : set.preferred.address = .v4 ⟨10, 0, 0, 1⟩ :=
    (Option.some.inj gathers.preferred).symm
  have others := gathers.alternates rfl
  rw [first] at others
  exact ⟨set, r', made, gathers.distinct, first, others⟩

end Uplink
