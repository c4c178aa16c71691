import Uplink.Proofs.Contact
import Uplink.Resolver

/-!
# What a resolution finds

The endpoints of a resolution are as they start: every one of them carries the
settings it was made with, and no two of them have the same address, whatever
the resolver answers and whichever way the alternates are shuffled. A
resolution contacts nobody.
-/

namespace Uplink

/-- Shuffling a list gives the same elements in some order. -/
theorem Random.shuffle_perm {α : Type} (r : Random) (xs : List α) :
    (r.shuffle xs).1.Perm xs := by
  cases xs with
  | nil => exact List.Perm.refl _
  | cons x xs => exact shuffleOnto_perm xs [x] ⟨r, 0, 0⟩

namespace EndpointSet

/-- Each address is kept once. -/
theorem nodup_distinct (addresses : List IpAddr) : (distinct addresses).Nodup := by
  induction addresses with
  | nil => exact List.nodup_nil
  | cons a rest ih =>
    refine List.nodup_cons.2 ⟨fun h => ?_, ih.filter _⟩
    exact of_decide_eq_true (List.mem_filter.1 h).2 rfl

/-- **No address is tried under two positions.** -/
theorem nodup_arrange (multi : Bool) (addresses : List IpAddr) (r : Random) :
    (arrange multi addresses r).1.Nodup := by
  unfold arrange
  have hd := nodup_distinct addresses
  generalize distinct addresses = ds at hd
  cases ds with
  | nil => exact List.nodup_nil
  | cons first others =>
    cases multi with
    | true => exact (List.Perm.nodup_iff ((Random.shuffle_perm r others).cons first)).2 hd
    | false => exact List.pairwise_singleton _ _

/-- **A set that is made of addresses has them once each, and every endpoint is
as it starts.** -/
theorem ofAddresses?_spec {addresses : List IpAddr} {settings : CommunicationSettings}
    {now : Instant} {r r' : Random} {set : EndpointSet}
    (h : ofAddresses? addresses settings now r = (some set, r')) :
    set.addresses.Nodup ∧ ∀ e ∈ set.toList, ∃ a, e = .new a settings now := by
  unfold ofAddresses? at h
  have ha := nodup_arrange settings.supportsMultiEndpoint addresses r
  generalize arrange settings.supportsMultiEndpoint addresses r = arranged at h ha
  obtain ⟨_ | ⟨first, others⟩, rest⟩ := arranged
  · cases h
  · obtain rfl := Option.some.inj (Prod.mk.inj h).1
    have hmap : (EndpointSet.mk (.new first settings now)
        (others.map (Endpoint.new · settings now))).toList
          = (first :: others).map (Endpoint.new · settings now) := rfl
    refine ⟨?_, fun e he => ?_⟩
    · rw [EndpointSet.addresses, hmap, List.map_map]
      exact (List.map_id (first :: others)).symm ▸ ha
    · rw [hmap] at he
      obtain ⟨a, _, rfl⟩ := List.mem_map.1 he
      exact ⟨a, rfl⟩

/-- **A set for one endpoint has no alternates**, however many addresses there
are. -/
theorem alternates_ofAddresses? {addresses : List IpAddr} {settings : CommunicationSettings}
    {now : Instant} {r r' : Random} {set : EndpointSet}
    (h : ofAddresses? addresses settings now r = (some set, r'))
    (single : settings.supportsMultiEndpoint = false) : set.alternates = [] := by
  unfold ofAddresses? arrange at h
  rw [single] at h
  generalize distinct addresses = ds at h
  cases ds with
  | nil => cases h
  | cons first others =>
    obtain rfl := Option.some.inj (Prod.mk.inj h).1
    rfl

end EndpointSet

/-- What becomes of the addresses that were found for a host, or of the failure
to find any. -/
def Resolved.ofAnswer (settings : CommunicationSettings) (now : Instant) (r : Random)
    (name : String) (answer : Except Failure (List IpAddr)) (events : List Event) :
    Resolved :=
  match answer with
  | .error f => ⟨.error f, events, r⟩
  | .ok addresses =>
    match EndpointSet.ofAddresses? addresses settings now r with
    | (some set, r) => ⟨.ok set, events, r⟩
    | (none, r) => ⟨.error (.unknownHost name "no addresses resolved"), events, r⟩

section Resolve

variable (url : Url) (settings : CommunicationSettings) (resolver : Resolver)
  (now : Instant) (r : Random)

/-- **A resolution has no host to look for, or it goes by an answer**: that of
the host's own text, or that of one lookup. -/
theorem resolveEndpoints_cases :
    (url.host? = none ∧ resolveEndpoints url settings resolver now r
        = ⟨.error (.invalidUrl url.toString "missing host"), [], r⟩)
      ∨ ∃ host, url.host? = some host ∧
        ((∃ address, Url.literal? host.text = some address
            ∧ resolveEndpoints url settings resolver now r
              = .ofAnswer settings now r (String.ofList host.text) (.ok [address]) [])
          ∨ (Url.literal? host.text = none
            ∧ resolveEndpoints url settings resolver now r
              = .ofAnswer settings now r (String.ofList host.text)
                (resolver.lookup (String.ofList host.text) url.connectPort)
                [.lookup (String.ofList host.text) url.connectPort])) := by
  unfold resolveEndpoints
  cases hh : url.host? with
  | none => exact .inl ⟨rfl, rfl⟩
  | some host =>
    refine .inr ⟨host, rfl, ?_⟩
    dsimp only
    cases hl : Url.literal? host.text with
    | some address => exact .inl ⟨address, rfl, rfl⟩
    | none => exact .inr ⟨rfl, rfl⟩

variable {settings now r}

/-- **A set that comes of an answer is made of addresses.** -/
theorem Resolved.made_ofAnswer {name : String} {answer : Except Failure (List IpAddr)}
    {events : List Event} {set : EndpointSet}
    (h : (Resolved.ofAnswer settings now r name answer events).result = .ok set) :
    ∃ addresses r', EndpointSet.ofAddresses? addresses settings now r = (some set, r') := by
  unfold Resolved.ofAnswer at h
  cases answer with
  | error f => cases h
  | ok addresses =>
    dsimp only at h
    split at h
    · rename_i found
      cases h
      exact ⟨addresses, _, found⟩
    · cases h

/-- The events of a resolution are those that came with the answer. -/
theorem Resolved.events_ofAnswer (name : String) (answer : Except Failure (List IpAddr))
    (events : List Event) :
    (Resolved.ofAnswer settings now r name answer events).events = events := by
  unfold Resolved.ofAnswer
  split
  · rfl
  · split <;> rfl

variable {url resolver}

/-- **What a resolution finds is made of addresses.** -/
theorem resolveEndpoints_made {set : EndpointSet}
    (h : (resolveEndpoints url settings resolver now r).result = .ok set) :
    ∃ addresses r', EndpointSet.ofAddresses? addresses settings now r = (some set, r') := by
  obtain ⟨_, eq⟩ | ⟨host, _, ⟨_, _, eq⟩ | ⟨_, eq⟩⟩ :=
    resolveEndpoints_cases url settings resolver now r
  · rw [eq] at h
    cases h
  · exact Resolved.made_ofAnswer (eq ▸ h)
  · exact Resolved.made_ofAnswer (eq ▸ h)

/-- **What a resolution finds is a set of fresh endpoints with distinct
addresses.** -/
theorem resolveEndpoints_spec {set : EndpointSet}
    (h : (resolveEndpoints url settings resolver now r).result = .ok set) :
    set.addresses.Nodup ∧ ∀ e ∈ set.toList, ∃ a, e = .new a settings now :=
  let ⟨_, _, made⟩ := resolveEndpoints_made h
  EndpointSet.ofAddresses?_spec made

variable (url settings resolver now r)

/-- A resolution contacts nobody. -/
theorem told_resolveEndpoints :
    (resolveEndpoints url settings resolver now r).events.filterMap Event.told? = [] := by
  obtain ⟨_, eq⟩ | ⟨host, _, ⟨_, _, eq⟩ | ⟨_, eq⟩⟩ :=
    resolveEndpoints_cases url settings resolver now r
  · rw [eq]
    rfl
  · rw [eq, Resolved.events_ofAnswer]
    rfl
  · rw [eq, Resolved.events_ofAnswer]
    rfl

end Resolve

end Uplink
