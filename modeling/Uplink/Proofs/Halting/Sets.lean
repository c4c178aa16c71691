import Uplink.Proofs.Arrangement

/-!
# Making a set may halt

Carried out by a machine, an operation asks for things that need not be there: an instant
that the clock may not show, an element that a list may not have, a random number out of
none, a number that may not fit in a word. Nobody looks first. If one of them is missing,
everything halts in the middle of the operation.

Most of this cannot be seen in the operations as they are defined here. A set has a
preferred endpoint by its type, an order is gone through as a list and not by place, and
numbers have any size. So the operations are written down once more, as a machine carries
them out, and a step that asks for something that is not there ends with a `Halt`. What
each of them comes to is then compared with the operation it stands for.

Here this is done for the way from a URL to its endpoints. Addresses are shuffled where
they stand, the endpoints are a list at first, and their fail period is computed in a
word. Only the last of these can fail, and it depends on the settings alone
(`resolveEndpointsOrHalt_eq`).
-/

namespace Uplink

/-! ## Asking for what may be missing -/

/-- **Why an operation halts**: what it asks for is not there. -/
inductive Halt where
  /-- An instant that the clock cannot show. -/
  | instant
  /-- An element behind the end of a list. -/
  | element
  /-- A random number out of none. -/
  | choice
  /-- A number that does not fit in a word. -/
  | word
deriving DecidableEq, Repr

namespace Halt

variable {α : Type}

/-- Halts unless the clock shows the instant. -/
def unlessShown : Except ClockOverflow α → Except Halt α
  | .ok a => .ok a
  | .error _ => .error .instant

/-- Halts unless the list has the element. -/
def unlessThere : Option α → Except Halt α
  | some a => .ok a
  | none => .error .element

/-- Halts unless the number fits in a word of 64 bits. -/
def unlessFits (n : Nat) : Except Halt Nat :=
  if n < UInt64.size then .ok n else .error .word

theorem unlessFits_of_lt {n : Nat} (h : n < UInt64.size) : unlessFits n = .ok n :=
  if_pos h

end Halt

/-! ## Shuffling in place -/

namespace Random

/-- A number below `n`, if there is one. -/
def belowOrHalt (r : Random) (bits : Width) (n : Nat) : Except Halt (Nat × Random) :=
  if n = 0 then .error .choice else .ok (r.below bits n)

theorem belowOrHalt_of_pos (r : Random) (bits : Width) {n : Nat} (positive : 0 < n) :
    r.belowOrHalt bits n = .ok (r.below bits n) :=
  if_neg (Nat.ne_of_gt positive)

/-- A position below `m`. An empty supply draws a number for it. -/
def Positions.nextOrHalt (p : Positions) (m : Nat) : Except Halt (Nat × Positions) :=
  if p.left = 0 then do
    let _ ← p.random.belowOrHalt .bits32 (span m).1
    return p.next m
  else return p.next m

theorem Positions.nextOrHalt_eq (p : Positions) {m : Nat} (positive : 0 < m) :
    p.nextOrHalt m = .ok (p.next m) := by
  obtain ⟨c, _, reach, _⟩ := span_spec m
  obtain ⟨k, rfl⟩ := Nat.exists_eq_add_of_le' positive
  have some_ : 0 < (span (k + 1)).1 := by
    rw [reach]
    exact Nat.ascFactorial_pos k c
  unfold nextOrHalt
  rw [belowOrHalt_of_pos _ _ some_]
  split <;> rfl

variable {α : Type}

/-- So many elements, from a position on, traded in turn with the element at the next
position of a supply. -/
def tradeFromOrHalt (i : Nat) (p : Positions) : Nat → List α → Except Halt (List α × Positions)
  | 0, xs => return (xs, p)
  | count + 1, xs => do
    let (position, p) ← p.nextOrHalt (i + 1)
    let xs ← Halt.unlessThere (trade? xs i position)
    tradeFromOrHalt (i + 1) p count xs

/-- A list shuffled in place. -/
def shuffleOrHalt (r : Random) (xs : List α) : Except Halt (List α × Random) := do
  let (xs, p) ← tradeFromOrHalt 1 ⟨r, 0, 0⟩ (xs.length - 1) xs
  return (xs, p.random)

/-- **Trading in place asks for nothing that is not there**, and it places one element
after the other. -/
theorem tradeFromOrHalt_eq (xs front : List α) {p : Positions}
    (supply : p.Supplies (front.length + 1)) :
    tradeFromOrHalt front.length p xs.length (front ++ xs) = .ok (shuffleOnto front p xs) := by
  induction xs generalizing front p with
  | nil =>
    rw [List.append_nil]
    rfl
  | cons x xs ih =>
    obtain ⟨range, rest⟩ := supply.next (Nat.succ_pos _)
    have step := ih (place front x (p.next (front.length + 1)).1) (by rw [length_place]; exact rest)
    rw [length_place] at step
    have traded := trade?_append front x xs (Nat.le_of_lt_succ range)
    rw [List.length_cons, tradeFromOrHalt, p.nextOrHalt_eq (Nat.succ_pos _), shuffleOnto]
    generalize p.next (front.length + 1) = drawn at step traded
    show (Halt.unlessThere (trade? (front ++ x :: xs) front.length drawn.1) >>= _) = _
    rw [traded]
    exact step

/-- **A list is shuffled in place without a halt.** -/
theorem shuffleOrHalt_eq (r : Random) (xs : List α) : r.shuffleOrHalt xs = .ok (r.shuffle xs) := by
  cases xs with
  | nil => rfl
  | cons x xs =>
    show (tradeFromOrHalt 1 ⟨r, 0, 0⟩ xs.length (x :: xs) >>= _) = _
    rw [show tradeFromOrHalt 1 ⟨r, 0, 0⟩ xs.length (x :: xs) = .ok (shuffleOnto [x] ⟨r, 0, 0⟩ xs)
      from tradeFromOrHalt_eq xs [x] (.inl rfl)]
    rfl

end Random

/-! ## Making a set -/

/-- An endpoint as it starts. Its fail period is computed in a word. -/
def Endpoint.newOrHalt (address : IpAddr) (settings : CommunicationSettings) (now : Instant) :
    Except Halt Endpoint := do
  let failPeriod ← Halt.unlessFits (settings.failPeriodMinutes.toNat * 60)
  return { Endpoint.new address settings now with failPeriod }

theorem Endpoint.newOrHalt_eq {settings : CommunicationSettings}
    (fits : settings.failPeriod < UInt64.size) (address : IpAddr) (now : Instant) :
    newOrHalt address settings now = .ok (.new address settings now) := by
  show (Halt.unlessFits settings.failPeriod >>= _) = _
  rw [Halt.unlessFits_of_lt fits]
  rfl

namespace EndpointSet

/-- The order in which addresses are tried. What is behind the first one is shuffled where
it stands, if there is anything to shuffle. -/
def arrangeOrHalt (multi : Bool) (addresses : List IpAddr) (r : Random) :
    Except Halt (List IpAddr × Random) :=
  let kept := if multi then distinct addresses else (distinct addresses).take 1
  if 2 < kept.length then do
    let first ← Halt.unlessThere kept[0]?
    let (others, r) ← r.shuffleOrHalt kept.tail
    return (first :: others, r)
  else return (kept, r)

/-- **Addresses are arranged without a halt.** -/
theorem arrangeOrHalt_eq (multi : Bool) (addresses : List IpAddr) (r : Random) :
    arrangeOrHalt multi addresses r = .ok (arrange multi addresses r) := by
  unfold arrangeOrHalt arrange
  generalize distinct addresses = kept
  cases kept with
  | nil => cases multi <;> rfl
  | cons first others =>
    cases multi with
    | false => rfl
    | true =>
      dsimp only
      rw [if_pos rfl, if_pos rfl]
      by_cases long : 2 < (first :: others).length
      · rw [if_pos long]
        show (r.shuffleOrHalt others >>= _) = _
        rw [r.shuffleOrHalt_eq]
        rfl
      · rw [if_neg long]
        -- one alternate or none is shuffled without a draw, and it stays where it is
        match others, long with
        | [], _ => rfl
        | [_], _ => rfl
        | _ :: _ :: _, long => exact absurd (Nat.le_add_left 3 _) long

/-- The set of some addresses: a list of endpoints, of which the first one is preferred. -/
def ofAddressesOrHalt (addresses : List IpAddr) (settings : CommunicationSettings)
    (now : Instant) (r : Random) : Except Halt (EndpointSet × Random) := do
  let (arranged, r) ← arrangeOrHalt settings.supportsMultiEndpoint addresses r
  let endpoints ← arranged.mapM (Endpoint.newOrHalt · settings now)
  let preferred ← Halt.unlessThere endpoints[0]?
  return (⟨preferred, endpoints.tail⟩, r)

/-- **Addresses that make a set make it without a halt.** -/
theorem ofAddressesOrHalt_eq {addresses : List IpAddr} {settings : CommunicationSettings}
    {now : Instant} {r r' : Random} {set : EndpointSet}
    (fits : settings.failPeriod < UInt64.size)
    (made : ofAddresses? addresses settings now r = (some set, r')) :
    ofAddressesOrHalt addresses settings now r = .ok (set, r') := by
  have fresh : (Endpoint.newOrHalt · settings now)
      = fun a => (pure (Endpoint.new a settings now) : Except Halt Endpoint) :=
    funext fun a => Endpoint.newOrHalt_eq fits a now
  unfold ofAddresses? at made
  unfold ofAddressesOrHalt
  rw [arrangeOrHalt_eq, fresh]
  generalize arrange settings.supportsMultiEndpoint addresses r = arranged at made
  obtain ⟨_ | ⟨first, others⟩, rest⟩ := arranged
  · cases made
  · cases made
    show ((first :: others).mapM (fun a => (pure (Endpoint.new a settings now) :
      Except Halt Endpoint)) >>= _) = _
    rw [List.mapM_pure]
    rfl

end EndpointSet

/-- What becomes of an answer. Without addresses there is no set to make. -/
def Resolved.ofAnswerOrHalt (settings : CommunicationSettings) (now : Instant) (r : Random)
    (name : String) (answer : Except Failure (List IpAddr)) (events : List Event) :
    Except Halt Resolved :=
  match answer with
  | .error f => return ⟨.error f, events, r⟩
  | .ok [] => return ⟨.error (.unknownHost name "no addresses resolved"), events, r⟩
  | .ok addresses => do
    let (set, r) ← EndpointSet.ofAddressesOrHalt addresses settings now r
    return ⟨.ok set, events, r⟩

/-- Resolves a URL to its endpoints. -/
def resolveEndpointsOrHalt (url : Url) (settings : CommunicationSettings)
    (resolver : Resolver) (now : Instant) (r : Random) : Except Halt Resolved :=
  match url.host? with
  | none => return ⟨.error (.invalidUrl url.toString "missing host"), [], r⟩
  | some host =>
    let name := String.ofList host.text
    match Url.literal? host.text with
    | some address => Resolved.ofAnswerOrHalt settings now r name (.ok [address]) []
    | none =>
      Resolved.ofAnswerOrHalt settings now r name (resolver.lookup name url.connectPort)
        [.lookup name url.connectPort]

section Resolve

variable {settings : CommunicationSettings} (fits : settings.failPeriod < UInt64.size)
  (now : Instant) (r : Random)
include fits

theorem Resolved.ofAnswerOrHalt_eq (name : String) (answer : Except Failure (List IpAddr))
    (events : List Event) : ofAnswerOrHalt settings now r name answer events
      = .ok (.ofAnswer settings now r name answer events) := by
  cases answer with
  | error f => rfl
  | ok addresses =>
    cases addresses with
    | nil => rfl
    | cons first rest =>
      obtain ⟨set, r', made, _⟩ := EndpointSet.gathers_ofAddresses? settings now r first rest
      unfold ofAnswerOrHalt ofAnswer
      dsimp only
      rw [made, EndpointSet.ofAddressesOrHalt_eq fits made]
      rfl

/-- **A URL is resolved without a halt**, whatever the resolver answers. -/
theorem resolveEndpointsOrHalt_eq (url : Url) (resolver : Resolver) :
    resolveEndpointsOrHalt url settings resolver now r
      = .ok (resolveEndpoints url settings resolver now r) := by
  unfold resolveEndpointsOrHalt
  obtain ⟨none, eq⟩ | ⟨host, named, ⟨address, literal, eq⟩ | ⟨literal, eq⟩⟩ :=
    resolveEndpoints_cases url settings resolver now r
  · rw [eq, none]
    rfl
  · rw [eq, named]
    dsimp only
    rw [literal]
    exact Resolved.ofAnswerOrHalt_eq fits now r _ _ _
  · rw [eq, named]
    dsimp only
    rw [literal]
    exact Resolved.ofAnswerOrHalt_eq fits now r _ _ _

end Resolve

end Uplink
