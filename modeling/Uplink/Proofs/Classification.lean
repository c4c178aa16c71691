import Uplink.Proofs.Health
import Uplink.Proofs.Lossy

/-!
# What an answer means

An answer is one of three things: it says that the endpoint cannot serve, it denies
the agent, or it is what was asked for. A denial is the one that takes reading. It
has a status of success, and only a header announces an error that the body names.
The program looks for the name in the body as text, and the body is any bytes, so
the text is a lossy reading of them. Whether a denial is found depends on the bytes
alone nevertheless: the name is ASCII, and a search for ASCII does not notice what
is lost (`Utf8.infix_lossy_iff`).

The endpoint takes part only in what it was asked for. Then it has succeeded at the
instant at which the answer is there, and otherwise nothing about it changes.
-/

namespace Uplink

/-! ## Names of headers -/

namespace Ascii

/-- A letter that was made lower case is lower case. -/
theorem toLower_toLower (c : Char) : c.toLower.toLower = c.toLower := by
  unfold Char.toLower
  split
  · rename_i upper
    refine dif_neg fun again => ?_
    have low := UInt32.le_iff_toNat_le.1 upper.1
    have high := UInt32.le_iff_toNat_le.1 upper.2
    have above := UInt32.le_iff_toNat_le.1 again.2
    simp only [Char.reduceVal, UInt32.toNat_add, UInt32.reduceSub, UInt32.reduceToNat]
      at low high above
    omega
  · rfl

/-- So is a text. -/
@[simp] theorem lower_lower (cs : List Char) : lower (lower cs) = lower cs := by
  unfold lower
  rw [List.map_map]
  exact List.map_congr_left fun c _ => toLower_toLower c

end Ascii

/-- **A header has a name in any case** if they are the same in lower case. -/
def Header.Named (h : Header) (name : String) : Prop :=
  Ascii.lower h.name.toList = Ascii.lower name.toList

/-- A name in lower case is its own lower case. -/
theorem Header.lower_name (h : Header) : Ascii.lower h.name.toList = h.name.toList := by
  obtain ⟨spelling, same⟩ := h.lowered
  rw [same, String.toList_ofList, Ascii.lower_lower]

namespace Response

/-- **Looking a header up finds it** whatever its value, and whatever the case of
the name. -/
theorem hasHeader_iff (r : Response) (name : String) :
    r.hasHeader name = true ↔ ∃ h ∈ r.headers, h.Named name := by
  unfold hasHeader find?
  rw [List.find?_isSome]
  refine exists_congr fun h => and_congr_right fun _ => ?_
  unfold Header.Named
  rw [beq_iff_eq, h.lower_name, ← String.toList_inj, String.toList_ofList]

/-! ## Denials -/

/-- A search for a text finds it. -/
theorem containsText_iff (marker cs : List Char) :
    containsText marker cs = true ↔ marker <:+: cs := by
  induction cs with
  | nil =>
    show marker.isEmpty = true ↔ _
    rw [List.isEmpty_iff, List.infix_nil]
  | cons c cs ih =>
    show (marker.isPrefixOf (c :: cs) || containsText marker cs) = true ↔ _
    rw [Bool.or_eq_true, List.isPrefixOf_iff_prefix, ih, List.infix_cons_iff]

/-- **The answer says that the endpoint cannot serve.** -/
def Unreachable (r : Response) : Prop :=
  r.status = 503 ∨ r.status = 404

/-- **The answer denies the agent**: its status is that of a success, a header
announces an error, and the bytes of the body have those of the denial's name in one
piece. -/
def Denies (r : Response) : Prop :=
  r.status = 200 ∧ (∃ h ∈ r.headers, h.Named errorHeader)
    ∧ Utf8.encode denialMarker.toList <:+: r.body

theorem contains_unreachableStatuses_iff (r : Response) :
    unreachableStatuses.contains r.status = true ↔ r.Unreachable := by
  unfold unreachableStatuses Unreachable
  rw [List.contains_iff_mem, List.mem_cons, List.mem_singleton]

theorem plain_denialMarker : Utf8.Plain denialMarker.toList := by
  have plain : denialMarker.toList.all (fun c => c.toNat < 0x80) = true := by decide +kernel
  exact fun c mem => of_decide_eq_true (List.all_eq_true.1 plain c mem)

/-- **A denial is found in the bytes**, although it is looked for in the text. -/
theorem isDenial_iff (r : Response) : r.isDenial = true ↔ r.Denies := by
  unfold isDenial Denies
  rw [Bool.and_eq_true, Bool.and_eq_true, beq_iff_eq, hasHeader_iff, containsText_iff,
    Utf8.infix_lossy_iff plain_denialMarker, and_assoc]

/-- **What an answer can mean.** -/
inductive Judged (r : Response) (address : IpAddr) : Outcome → Prop
  | unreachable (h : r.Unreachable) :
      Judged r address (.error (.notReachable address.toString r.status))
  | denied (h : r.Denies) : Judged r address (.error (.unauthorized address.toString))
  | served (reachable : ¬ r.Unreachable) (admitted : ¬ r.Denies) : Judged r address (.ok r)

/-- **An answer means one of these things.** -/
theorem judged_judge (r : Response) (address : IpAddr) : Judged r address (r.judge address) := by
  unfold judge
  split
  · rename_i listed
    exact .unreachable (r.contains_unreachableStatuses_iff.1 listed)
  · rename_i unlisted
    split
    · rename_i denial
      exact .denied (r.isDenial_iff.1 denial)
    · rename_i clean
      exact .served (fun h => unlisted (r.contains_unreachableStatuses_iff.2 h))
        (fun h => clean (r.isDenial_iff.2 h))

/-- A denial has a status of success, and so it is no answer of an endpoint that
cannot serve. -/
theorem Denies.not_unreachable {r : Response} (h : r.Denies) : ¬ r.Unreachable := by
  unfold Unreachable
  rw [h.1]
  decide

end Response

/-! ## Sending -/

namespace Endpoint

/-- **What a request to an endpoint comes to.** An attempt without an answer fails
as it failed. An answer makes the endpoint not reachable if its status is 503 or 404
and nothing else does. It denies the agent if its status is 200, it has a header of
the error's name in whatever case and with whatever value, and the bytes of its body
have the name of the denial in one piece, whatever stands around it and whether that
is UTF-8 or not. Any other answer is handed on as it is. Only then the endpoint
changes: it is up, and it succeeded at the instant at which the answer was there. -/
theorem send_classifies {σ : Type} (t : Transport σ) (q : Request) (e : Endpoint)
    (w : World σ) :
    let sent := e.send t q w
    let attempt := t.run q e.address w
    sent.2.2 = attempt.2
      ∧ match attempt.1 with
        | .error f => sent.1 = .error f ∧ sent.2.1 = e
        | .ok r =>
          (sent.1 = .error (.notReachable e.address.toString r.status) ↔ r.Unreachable)
          ∧ (sent.1 = .error (.unauthorized e.address.toString) ↔ r.Denies)
          ∧ (sent.1 = .ok r ↔ ¬ r.Unreachable ∧ ¬ r.Denies)
          ∧ (sent.1 = .ok r
            → sent.2.1 = { e with lastSuccess := attempt.2.now, liveness := .up })
          ∧ (sent.1 ≠ .ok r → sent.2.1 = e) := by
  intro sent attempt
  refine ⟨world_send t q e w, ?_⟩
  have outcome : sent.1 = attempt.1.bind (·.judge e.address) := outcome_send t q e w
  have unchanged {f : Failure} (failed : sent.1 = .error f) : sent.2.1 = e :=
    send_eq_of_error failed
  cases answer : attempt.1 with
  | error f =>
    rw [answer] at outcome
    exact ⟨outcome, unchanged outcome⟩
  | ok r =>
    rw [answer] at outcome
    have judged : r.Judged e.address sent.1 := outcome ▸ r.judged_judge e.address
    have recorded (served : sent.1 = .ok r) :
        sent.2.1 = { e with lastSuccess := attempt.2.now, liveness := .up } := by
      obtain ⟨_, failed, _⟩ | ⟨_, _, recorded⟩ := send_cases t q e w
      · exact nomatch served.symm.trans failed
      · rw [world_send] at recorded
        exact recorded
    generalize sent.1 = o at judged recorded unchanged ⊢
    cases judged with
    | unreachable h =>
      exact ⟨iff_of_true rfl h, iff_of_false nofun fun denial => denial.not_unreachable h,
        iff_of_false nofun fun clean => clean.1 h, nofun, fun _ => unchanged rfl⟩
    | denied h =>
      exact ⟨iff_of_false nofun h.not_unreachable, iff_of_true rfl h,
        iff_of_false nofun fun clean => clean.2 h, nofun, fun _ => unchanged rfl⟩
    | served reachable admitted =>
      exact ⟨iff_of_false nofun reachable, iff_of_false nofun admitted,
        iff_of_true rfl ⟨reachable, admitted⟩, recorded, fun differ => absurd rfl differ⟩

end Endpoint

end Uplink
