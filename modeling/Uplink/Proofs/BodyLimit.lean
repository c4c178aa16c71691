import Mathlib.Logic.Relation
import Uplink.Http.Client
import Uplink.Proofs.History

/-!
# The limit on bodies

A body arrives in pieces, and how it is cut into them is up to the network: pieces may
be empty, and a read may fail at any point. Whether a body is accepted must depend on
none of this but on its bytes alone, and it does: a body is accepted if and only if all
of it can be read and it is no longer than the limit (`readBody_eq_ok_iff`). A body
that has exactly the length of the limit is accepted.

The limit is there for the sake of the buffer. So the loop that reads is told here turn
by turn (`Reading.next`), with the pieces it has not touched, and what a turn keeps is
that the buffer holds what has been read and is within the limit (`Reading.Within`).
That the loop never reads past the piece that is too much follows from the same
invariant, because whoever had read that piece would hold more than the limit.
-/

namespace Uplink.Http

/-! ## The bytes of a body -/

/-- The bytes that a read gives. -/
def Piece.bytes : Piece → List UInt8
  | .ok bs => bs
  | .error _ => []

/-- **The bytes of a body**, however it is cut. -/
def content (pieces : List Piece) : List UInt8 :=
  pieces.flatMap Piece.bytes

@[simp] theorem content_nil : content [] = [] := rfl

@[simp] theorem content_cons (piece : Piece) (pieces : List Piece) :
    content (piece :: pieces) = piece.bytes ++ content pieces := rfl

@[simp] theorem content_append (front rest : List Piece) :
    content (front ++ rest) = content front ++ content rest :=
  List.flatMap_append

/-! ## What is accepted -/

/-- **A piece is accepted if its read has not failed and there is room for it.** -/
theorem accept_eq_ok_iff {limit : Nat} {buffer more : List UInt8} {piece : Piece} :
    accept limit buffer piece = .ok more
      ↔ piece.isOk = true ∧ (buffer ++ piece.bytes).length ≤ limit
        ∧ more = buffer ++ piece.bytes := by
  cases piece with
  | error broken => exact iff_of_false nofun fun ⟨sound, _⟩ => nomatch sound
  | ok bs =>
    show (if limit < _ then Except.error _ else .ok _) = _ ↔ _
    rw [List.length_append]
    split
    · rename_i passed
      exact iff_of_false nofun fun ⟨_, fits, _⟩ => Nat.not_lt.2 fits passed
    · rename_i fits
      rw [Except.ok.injEq]
      exact ⟨fun same => ⟨rfl, Nat.not_lt.1 fits, same.symm⟩, fun h => h.2.2.symm⟩

/-- A size that is reported for a piece is over the limit. -/
theorem lt_of_accept {limit size : Nat} {buffer : List UInt8} {piece : Piece}
    (h : accept limit buffer piece = .error (.tooLong size)) : limit < size := by
  cases piece with
  | error broken => cases h
  | ok bs =>
    unfold accept at h
    dsimp only at h
    split at h
    · rename_i passed
      cases h
      exact passed
    · cases h

/-- **A body is read if no read fails and all of it is within the limit**, and then all
of its bytes are there. -/
theorem readBody_eq_ok_iff {limit : Nat} {pieces : List Piece} {buffer body : List UInt8}
    (room : buffer.length ≤ limit) :
    readBody limit buffer pieces = .ok body
      ↔ (∀ piece ∈ pieces, piece.isOk = true)
        ∧ (buffer ++ content pieces).length ≤ limit ∧ body = buffer ++ content pieces := by
  induction pieces generalizing buffer with
  | nil =>
    rw [readBody, content_nil, List.append_nil, Except.ok.injEq]
    exact ⟨fun same => ⟨by simp, room, same.symm⟩, fun h => h.2.2.symm⟩
  | cons piece rest ih =>
    rw [readBody, content_cons, ← List.append_assoc]
    cases accepted : accept limit buffer piece with
    | error e =>
      refine iff_of_false nofun fun ⟨sound, within, _⟩ => ?_
      have fits : (buffer ++ piece.bytes).length ≤ limit := by
        rw [List.length_append] at within
        omega
      exact nomatch accepted.symm.trans
        (accept_eq_ok_iff.2 ⟨sound piece List.mem_cons_self, fits, rfl⟩)
    | ok more =>
      obtain ⟨sound, fits, rfl⟩ := accept_eq_ok_iff.1 accepted
      show readBody limit (buffer ++ piece.bytes) rest = _ ↔ _
      rw [ih fits, List.forall_mem_cons]
      exact ⟨fun ⟨others, h⟩ => ⟨⟨sound, others⟩, h⟩, fun ⟨⟨_, others⟩, h⟩ => ⟨others, h⟩⟩

/-- **A size that is reported is over the limit.** -/
theorem lt_of_readBody {limit size : Nat} {pieces : List Piece} {buffer : List UInt8}
    (h : readBody limit buffer pieces = .error (.tooLong size)) : limit < size := by
  induction pieces generalizing buffer with
  | nil => cases h
  | cons piece rest ih =>
    rw [readBody] at h
    cases accepted : accept limit buffer piece with
    | error e =>
      rw [accepted] at h
      cases h
      exact lt_of_accept accepted
    | ok more =>
      rw [accepted] at h
      exact ih h

/-- A whole body is accepted if it is not announced as too long either. -/
theorem wholeBody_eq_ok_iff {limit : Nat} {announced : Option Nat} {pieces : List Piece}
    {body : List UInt8} :
    wholeBody limit announced pieces = .ok body
      ↔ (∀ n ∈ announced, n ≤ limit) ∧ (∀ piece ∈ pieces, piece.isOk = true)
        ∧ (content pieces).length ≤ limit ∧ body = content pieces := by
  have read : readBody limit [] pieces = .ok body ↔ _ := readBody_eq_ok_iff (Nat.zero_le limit)
  cases announced with
  | none => simpa [wholeBody] using read
  | some n =>
    unfold wholeBody
    by_cases passed : limit < n
    · simp [passed, Nat.not_le.2 passed]
    · simpa [passed, Nat.not_lt.1 passed] using read

theorem lt_of_wholeBody {limit size : Nat} {announced : Option Nat} {pieces : List Piece}
    (h : wholeBody limit announced pieces = .error (.tooLong size)) : limit < size := by
  cases announced with
  | none => exact lt_of_readBody h
  | some n =>
    unfold wholeBody at h
    dsimp only at h
    split at h
    · rename_i passed
      cases h
      exact passed
    · exact lt_of_readBody h

/-! ## The loop, turn by turn -/

/-- **A body that is being read**: what the buffer holds, and the pieces that have not
been read. -/
structure Reading where
  buffer : List UInt8
  unread : List Piece

namespace Reading

/-- **One turn of the loop**: it ends, and some pieces are left unread, or it goes
on. -/
def next (limit : Nat) (r : Reading) : Except BodyError (List UInt8) × List Piece ⊕ Reading :=
  match r.unread with
  | [] => .inl (.ok r.buffer, [])
  | piece :: rest =>
    match accept limit r.buffer piece with
    | .error e => .inl (.error e, rest)
    | .ok buffer => .inr ⟨buffer, rest⟩

/-- **The loop goes on if the next piece is accepted.** -/
theorem next_eq_inr_iff {limit : Nat} {r r' : Reading} :
    r.next limit = .inr r' ↔ ∃ piece, r.unread = piece :: r'.unread
      ∧ accept limit r.buffer piece = .ok r'.buffer := by
  obtain ⟨buffer, unread⟩ := r
  unfold next
  cases unread with
  | nil => exact iff_of_false nofun fun ⟨_, left, _⟩ => nomatch left
  | cons piece rest =>
    dsimp only
    constructor
    · intro turn
      split at turn
      · cases turn
      · rename_i accepted
        cases turn
        exact ⟨piece, rfl, accepted⟩
    · rintro ⟨_, same, accepted⟩
      obtain ⟨rfl, rfl⟩ := List.cons.inj same
      rw [accepted]

/-- What a turn that ends the loop leaves unread is all but the piece that it reads. -/
theorem tail_of_next {limit : Nat} {r : Reading} {result : Except BodyError (List UInt8)}
    {left : List Piece} (turn : r.next limit = .inl (result, left)) : left = r.unread.tail := by
  obtain ⟨buffer, unread⟩ := r
  unfold next at turn
  cases unread with
  | nil =>
    cases turn
    rfl
  | cons piece rest =>
    dsimp only at turn
    split at turn <;> cases turn
    rfl

/-- The turns that the loop makes, as many as there may be. -/
def Leads (limit : Nat) : Reading → Reading → Prop :=
  Relation.ReflTransGen fun r r' => r.next limit = .inr r'

/-- **The loop ends** with a result, and pieces are left unread. -/
def Ends (limit : Nat) (r : Reading) (result : Except BodyError (List UInt8))
    (left : List Piece) : Prop :=
  ∃ r', r.Leads limit r' ∧ r'.next limit = .inl (result, left)

/-- **The loop ends with what a body reads as.** -/
theorem exists_ends (limit : Nat) (pieces : List Piece) (buffer : List UInt8) :
    ∃ left, Ends limit ⟨buffer, pieces⟩ (readBody limit buffer pieces) left := by
  induction pieces generalizing buffer with
  | nil => exact ⟨[], _, .refl, rfl⟩
  | cons piece rest ih =>
    rw [readBody]
    cases accepted : accept limit buffer piece with
    | error e => exact ⟨rest, _, .refl, by simp only [next, accepted]; rfl⟩
    | ok more =>
      obtain ⟨left, last, leads, ends⟩ := ih more
      exact ⟨left, last, .head (next_eq_inr_iff.2 ⟨piece, rfl, accepted⟩) leads, ends⟩

/-- **What holds at every turn**: the buffer has the bytes that have been read, and they
are within the limit. -/
structure Within (limit : Nat) (pieces : List Piece) (r : Reading) : Prop where
  read : ∃ front, pieces = front ++ r.unread ∧ r.buffer = content front
  room : r.buffer.length ≤ limit

variable {limit : Nat} {pieces : List Piece} {r r' : Reading}

/-- A turn keeps it. -/
theorem Within.next (h : Within limit pieces r) (turn : r.next limit = .inr r') :
    Within limit pieces r' := by
  obtain ⟨⟨front, whole, buffer⟩, room⟩ := h
  obtain ⟨piece, unread, accepted⟩ := next_eq_inr_iff.1 turn
  obtain ⟨_, fits, more⟩ := accept_eq_ok_iff.1 accepted
  refine ⟨⟨front ++ [piece], ?_, ?_⟩, more ▸ fits⟩
  · rw [whole, unread, List.append_assoc]
    rfl
  · rw [more, buffer, content_append]
    exact congrArg (content front ++ ·) (List.append_nil piece.bytes).symm

/-- **So do all turns**, from the start on. -/
theorem Within.of_leads (leads : Leads limit ⟨[], pieces⟩ r) : Within limit pieces r := by
  induction leads with
  | refl => exact ⟨⟨[], rfl, rfl⟩, Nat.zero_le limit⟩
  | tail _ turn ih => exact ih.next turn

/-- **A piece with which the body passes the limit is the last to be read.** Before the
turn that reads it, it and all that follows it are unread. -/
theorem Within.suffix (h : Within limit pieces r) {front rest : List Piece} {piece : Piece}
    (whole : pieces = front ++ piece :: rest)
    (passes : limit < (content (front ++ [piece])).length) : piece :: rest <:+ r.unread := by
  obtain ⟨⟨read, split, buffer⟩, room⟩ := h
  obtain ⟨more, first, second⟩ | ⟨more, first, second⟩ :=
    List.append_eq_append_iff.1 (split.symm.trans whole)
  · exact ⟨more, second.symm⟩
  · cases more with
    | nil => exact ⟨[], second⟩
    | cons other more =>
      -- then the piece has been read, and the buffer holds more than the limit
      obtain ⟨rfl, rest⟩ := List.cons.inj second
      rw [buffer, first] at room
      simp only [content_append, content_cons, List.length_append] at room passes
      rw [content_nil, List.length_nil] at passes
      omega

end Reading

/-! ## Attempts -/

namespace Client

variable {τ : Type}

/-- The outcome of an attempt that is answered with a head. -/
theorem outcome_attempt (c : Client) (net : Network τ) {q : Request} {host : Host}
    (found : q.url.host? = some host) (sendable : unsendable? q = none) (address : IpAddr)
    (now : Instant) (p : Pool τ) {answer : Answer}
    (answered : (net.exchange
      ⟨address, q, (p.count (host.text, address)).1 % c.maxRequests == 0⟩ now p.network).1
        = answer) :
    (c.attempt net q address now p).1.outcome = c.outcome q address answer := by
  unfold attempt
  rw [found]
  dsimp only
  rw [sendable, ← answered]
  rfl

/-- **No body is larger than the limit, and none within it is refused.** Let a request be
sent to an address, and let a head come back and a body in whatever pieces. The attempt
gives a response if and only if the length that is announced, if any, is within the
limit, no read fails, and all bytes together are within the limit. The response then has
exactly these bytes. In every other case the connection to the address has failed, and a
size that the failure reports is over the limit. While the body is read the buffer is
within the limit at every turn. The reading comes to an end, and no piece is read after
the one with which the body passes the limit. -/
theorem body_within_limit (c : Client) (net : Network τ) (q : Request) (host : Host)
    (found : q.url.host? = some host) (sendable : unsendable? q = none) (address : IpAddr)
    (now : Instant) (p : Pool τ) (status : UInt16) (headers : List Header)
    (announced : Option Nat) (pieces : List Piece)
    (answered : (net.exchange
      ⟨address, q, (p.count (host.text, address)).1 % c.maxRequests == 0⟩ now p.network).1
        = .head status headers announced pieces) :
    let outcome := (c.attempt net q address now p).1.outcome
    let limit := c.maxResponseBytes
    (∀ response, outcome = .ok response
      ↔ (∀ n ∈ announced, n ≤ limit) ∧ (∀ piece ∈ pieces, piece.isOk = true)
        ∧ (content pieces).length ≤ limit ∧ response = ⟨status, headers, content pieces⟩)
    ∧ ((∃ response, outcome = .ok response)
      ∨ ∃ e, outcome = .error (.connection address.toString (c.bodyReason e))
        ∧ ∀ size, e = .tooLong size → limit < size)
    ∧ (∀ r, Reading.Leads limit ⟨[], pieces⟩ r → r.buffer.length ≤ limit)
    ∧ ∃ left, Reading.Ends limit ⟨[], pieces⟩ (readBody limit [] pieces) left
      ∧ ∀ front piece rest, pieces = front ++ piece :: rest →
        limit < (content (front ++ [piece])).length → rest <:+ left := by
  intro outcome limit
  have verdict : outcome = c.outcome q address (.head status headers announced pieces) :=
    c.outcome_attempt net found sendable address now p answered
  have accepted {body : List UInt8} : wholeBody limit announced pieces = .ok body ↔ _ :=
    wholeBody_eq_ok_iff
  unfold Client.outcome at verdict
  dsimp only at verdict
  refine ⟨fun response => ?_, ?_, fun r leads => (Reading.Within.of_leads leads).room, ?_⟩
  · cases body : wholeBody limit announced pieces with
    | ok bytes =>
      obtain ⟨short, sound, fits, rfl⟩ := accepted.1 body
      rw [verdict, body]
      simp only [Except.ok.injEq]
      exact ⟨fun same => ⟨short, sound, fits, same.symm⟩, fun h => h.2.2.2.symm⟩
    | error e =>
      rw [verdict, body]
      refine iff_of_false nofun fun ⟨short, sound, fits, _⟩ => ?_
      exact nomatch body.symm.trans (accepted.2 ⟨short, sound, fits, rfl⟩)
  · cases body : wholeBody limit announced pieces with
    | ok bytes => exact .inl ⟨_, verdict.trans (by rw [body])⟩
    | error e =>
      refine .inr ⟨e, verdict.trans (by rw [body]), ?_⟩
      rintro size rfl
      exact lt_of_wholeBody body
  · obtain ⟨left, last, leads, ends⟩ := Reading.exists_ends limit pieces []
    refine ⟨left, ⟨last, leads, ends⟩, fun front piece rest whole passes => ?_⟩
    obtain ⟨more, unread⟩ := (Reading.Within.of_leads leads).suffix whole passes
    rw [Reading.tail_of_next ends, ← unread]
    cases more with
    | nil => exact List.suffix_refl rest
    | cons other more => exact ⟨more ++ [piece], by simp⟩

/-- Five bytes in three pieces pass a limit of five. -/
theorem body_within_limit_rehearsed :
    let c : Client := ⟨100, 5⟩
    let pieces : List Piece := [.ok [1, 2], .ok [], .ok [3, 4, 5]]
    let net : Network Unit := ⟨fun _ _ n => (.head 200 [] (some 5) pieces, 0, n)⟩
    let outcome := (c.attempt net .rehearsed (.v4 ⟨10, 0, 0, 1⟩) 0 ⟨[], ()⟩).1.outcome
    Request.rehearsed.url.host? = some (.domain "server".toList)
      ∧ unsendable? .rehearsed = none
      ∧ outcome = .ok ⟨200, [], [1, 2, 3, 4, 5]⟩ := by
  intro c pieces net outcome
  refine ⟨by decide +kernel, by decide +kernel, ?_⟩
  obtain ⟨accepted, _⟩ := body_within_limit c net .rehearsed (.domain "server".toList)
    (by decide +kernel) (by decide +kernel) (.v4 ⟨10, 0, 0, 1⟩) 0 ⟨[], ()⟩ 200 [] (some 5)
    pieces rfl
  exact (accepted ⟨200, [], [1, 2, 3, 4, 5]⟩).2 (by decide +kernel)

end Client

end Uplink.Http
