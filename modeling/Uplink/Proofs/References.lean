import Uplink.Proofs.ServerUrl

/-!
# What a path can do to the server

A client resolves its paths against the URL of its server, and takes the slashes away
that a path starts with. That keeps `/ping` and `//ping` below the server's path. It does
not keep every path with the server: a text can name a server of its own in other ways,
by a scheme, or by two slashes that are no leading slashes for the client, because one of
them is a backslash or because a blank or a tab stands before them.

Whether a text does so can be read off it (`Url.namesServer`). If it does not, resolving
always succeeds, with the scheme and the authority of the base. If it does, the base has
no say but for its scheme: what comes out is the same for every server of that scheme.
-/

namespace Uplink

namespace Url

/-! ## Texts that name a server -/

/-- Whether a text starts with two slashes of either kind. -/
def twoSlashes : List Char → Bool
  | c :: d :: _ => isSlash c && isSlash d
  | _ => false

/-- **Whether a reference names a server of its own**, for bases of a scheme: it has
another scheme, or two slashes after the scheme or without one. Tabs and line breaks do
not count, and neither do blanks around the text. -/
def namesServer (scheme text : List Char) : Bool :=
  match scheme? (trimmed text) with
  | some (own, rest) => own ≠ scheme || twoSlashes (unbroken rest)
  | none => twoSlashes (unbroken (trimmed text))

theorem two_le_length_takeWhile_iff (cs : List Char) :
    (cs.takeWhile isSlash).length < 2 ↔ twoSlashes cs = false := by
  match cs with
  | [] => simp [twoSlashes]
  | [c] => cases h : isSlash c <;> simp [twoSlashes, h]
  | c :: d :: cs => cases h : isSlash c <;> cases h' : isSlash d <;> simp [twoSlashes, h, h']

/-! ## References without a scheme -/

section Relative

variable {base base' : Url} {cs : List Char}

/-- A reference within the path keeps scheme and authority. -/
theorem withinPath_keeps (base : Url) (cs : List Char) :
    (base.withinPath cs).scheme = base.scheme ∧ (base.withinPath cs).authority = base.authority := by
  unfold withinPath withinPage
  split
  · dsimp only
    split <;> exact ⟨rfl, rfl⟩
  · exact ⟨rfl, rfl⟩

/-- **Without two slashes a reference stays with the base.** -/
theorem relative_of_not_twoSlashes (base : Url) (h : twoSlashes cs = false) :
    ∃ u, relative base cs = .ok u ∧ u.scheme = base.scheme ∧ u.authority = base.authority := by
  unfold relative
  split
  · cases h
  · rename_i c rest _
    cases slash : isSlash c with
    | false => exact ⟨_, rfl, withinPath_keeps base (c :: rest)⟩
    | true =>
      have alone : rest.head?.any isSlash = false := by
        cases rest with
        | nil => rfl
        | cons d rest =>
          unfold twoSlashes at h
          simpa [slash] using h
      rw [alone]
      exact ⟨_, rfl, rfl, rfl⟩
  · exact ⟨_, rfl, withinPath_keeps base []⟩

/-- **With two slashes only the scheme of the base counts.** -/
theorem relative_of_twoSlashes (h : twoSlashes cs = true) :
    ∃ text, ∀ base : Url, relative base cs = afterSlashes base.scheme text := by
  match cs, h with
  | c :: d :: rest, h =>
    obtain ⟨first, second⟩ : isSlash c = true ∧ isSlash d = true := by simpa [twoSlashes] using h
    by_cases plain : c = '/' ∧ d = '/'
    · obtain ⟨rfl, rfl⟩ := plain
      exact ⟨rest, fun _ => rfl⟩
    · refine ⟨(d :: rest).dropWhile isSlash, fun base => ?_⟩
      unfold relative
      split
      · rename_i both
        obtain ⟨one, both⟩ := List.cons.inj both
        exact absurd ⟨one, (List.cons.inj both).1⟩ plain
      · rename_i same
        obtain ⟨rfl, rfl⟩ := List.cons.inj same
        simp [first, second]
      · rename_i none
        cases none

end Relative

/-! ## References to servers -/

section Join

variable {base base' : Url} {text own rest : List Char}

/-- A text with a scheme is read by its scheme. -/
theorem join_of_scheme (base : Url) (found : scheme? (trimmed text) = some (own, rest)) :
    base.join text = withScheme (some base) own rest := by
  unfold join read
  dsimp only
  rw [found]

/-- A text without a scheme is relative. -/
theorem IsServer.join_of_none (h : base.IsServer) (none : scheme? (trimmed text) = none) :
    base.join text = relative base (unbroken (trimmed text)) := by
  obtain ⟨segments, path, _⟩ := h.path
  unfold join read
  dsimp only
  rw [none]
  unfold reference
  rw [path, h.family]
  rfl

/-- Behind the scheme of the base a text is relative, unless it has two slashes. -/
theorem IsServer.withScheme_own (h : base.IsServer) (rest : List Char) :
    withScheme (some base) base.scheme rest
      = if twoSlashes (unbroken rest) then
          afterSlashes base.scheme ((unbroken rest).dropWhile isSlash)
        else relative base (unbroken rest) := by
  unfold withScheme
  rw [h.family]
  dsimp only
  cases two : twoSlashes (unbroken rest) with
  | true =>
    have many := mt (two_le_length_takeWhile_iff (unbroken rest)).1 (by simp [two])
    rw [if_neg fun few => many few.1]
    rfl
  | false =>
    rw [if_pos ⟨(two_le_length_takeWhile_iff (unbroken rest)).2 two, rfl⟩]
    rfl

/-- Behind another scheme a text stands alone. -/
theorem withScheme_other (other : own ≠ base.scheme) (rest : List Char) :
    withScheme (some base) own rest = withScheme none own rest := by
  have apart : ¬ base.scheme = own := Ne.symm other
  unfold withScheme
  split
  · simp [Option.filter, apart]
  · rfl
  · dsimp only
    rw [if_neg fun same => apart same.2]

/-- **A reference that names no server stays with the base**, and it is always
understood. -/
theorem IsServer.join_stays (h : base.IsServer) (stays : namesServer base.scheme text = false) :
    ∃ u, base.join text = .ok u ∧ u.scheme = base.scheme ∧ u.authority = base.authority := by
  unfold namesServer at stays
  split at stays
  · rename_i own rest found
    obtain ⟨rfl, few⟩ : own = base.scheme ∧ twoSlashes (unbroken rest) = false := by
      simpa using stays
    rw [join_of_scheme base found, h.withScheme_own, if_neg (by simp [few])]
    exact relative_of_not_twoSlashes base few
  · rename_i none
    rw [h.join_of_none none]
    exact relative_of_not_twoSlashes base stays

/-- **A reference that names a server is understood without the base**, but for its
scheme. -/
theorem IsServer.join_leaves (h : base.IsServer) (h' : base'.IsServer)
    (same : base'.scheme = base.scheme) (leaves : namesServer base.scheme text = true) :
    base'.join text = base.join text := by
  unfold namesServer at leaves
  split at leaves
  · rename_i own rest found
    rw [join_of_scheme base found, join_of_scheme base' found]
    by_cases another : own = base.scheme
    · have two : twoSlashes (unbroken rest) = true := by simpa [another] using leaves
      have own' := h'.withScheme_own rest
      rw [another, h.withScheme_own, if_pos two]
      rwa [same, if_pos two] at own'
    · rw [withScheme_other another, withScheme_other (fun same' => another (same'.trans same))]
  · rename_i none
    obtain ⟨t, named⟩ := relative_of_twoSlashes leaves
    rw [h.join_of_none none, h'.join_of_none none, named, named, same]

end Join

end Url

namespace Client

/-- **The URL of a path** is what the path, without its leading slashes, comes to as a
reference. -/
theorem urlFor_eq_ok_iff {c : Client} {path : String} {u : Url} :
    c.urlFor path = .ok u ↔ c.base.join (path.toList.dropWhile (· == '/')) = .ok u := by
  unfold urlFor
  cases c.base.join (path.toList.dropWhile (· == '/')) <;> simp

/-- The base of a client is its server, but for the end of the path. -/
theorem base_ofUrl {server : Url} (h : server.IsServer) (token : Option String) :
    (ofUrl server token).base.IsServer ∧ (ofUrl server token).base.scheme = server.scheme
      ∧ (ofUrl server token).base.authority = server.authority := by
  obtain ⟨directory, _, eq, _⟩ := h.exists_directory
  refine ⟨h.slashed, ?_, ?_⟩
  · show server.withTrailingSlash.scheme = _
    rw [eq]
  · show server.withTrailingSlash.authority = _
    rw [eq]

/-- **A path stays with the server unless it names one.** The URL of a path that names no
server exists, and it has the scheme and the authority of the server, so also its host and
port. A path that names a server is understood the same by the clients of all servers of a
scheme: whatever URL it has for one of them, it has for every other one, so the server
that a client is made for does not keep its requests. -/
theorem urlFor_stays_unless_named {text : String} {server : Url}
    (accepted : serverUrl text = .ok server) (token : Option String) (path : String) :
    let reference := path.toList.dropWhile (· == '/')
    (Url.namesServer server.scheme reference = false →
      ∃ u, (ofUrl server token).urlFor path = .ok u
        ∧ u.scheme = server.scheme ∧ u.authority = server.authority)
      ∧ (Url.namesServer server.scheme reference = true →
        ∀ text' server' token', serverUrl text' = .ok server' → server'.scheme = server.scheme →
          ∀ u, (ofUrl server' token').urlFor path = .ok u
            ↔ (ofUrl server token).urlFor path = .ok u) := by
  have served := Url.isServer_of_serverUrl accepted
  obtain ⟨based, scheme, authority⟩ := base_ofUrl served token
  refine ⟨fun stays => ?_, fun leaves text' server' token' accepted' same u => ?_⟩
  · obtain ⟨u, joined, scheme', authority'⟩ := based.join_stays (by rwa [scheme])
    exact ⟨u, urlFor_eq_ok_iff.2 joined, scheme'.trans scheme, authority'.trans authority⟩
  · have served' := Url.isServer_of_serverUrl accepted'
    obtain ⟨based', scheme', _⟩ := base_ofUrl served' token'
    have joined := based.join_leaves based' (scheme'.trans (same.trans scheme.symm))
      (by rwa [scheme])
    rw [urlFor_eq_ok_iff, urlFor_eq_ok_iff, joined]

/-- A path that starts with slashes is one of the rehearsed server. One that starts with
backslashes has the same URL for another server. -/
theorem urlFor_stays_unless_named_rehearsed :
    serverUrl "https://agent:pw@[::1]:7443/lather?x=1#top" = .ok .rehearsed
      ∧ (∃ u, (ofUrl .rehearsed none).urlFor "//ping" = .ok u
        ∧ u.scheme = Url.rehearsed.scheme ∧ u.authority = Url.rehearsed.authority)
      ∧ ∃ other u, serverUrl "https://[::3]/" = .ok other
        ∧ (ofUrl other none).urlFor "\\\\[::2]/ping" = .ok u
        ∧ (ofUrl .rehearsed none).urlFor "\\\\[::2]/ping" = .ok u := by
  have stays :
      Url.namesServer Url.rehearsed.scheme ("//ping".toList.dropWhile (· == '/')) = false := by
    decide +kernel
  have leaves : Url.namesServer Url.rehearsed.scheme
      ("\\\\[::2]/ping".toList.dropWhile (· == '/')) = true := by
    decide +kernel
  have other : serverUrl "https://[::3]/" = .ok
      { Url.rehearsed with
        authority := some ⟨[], [], .v6 ⟨#v[0, 0, 0, 0, 0, 0, 0, 3]⟩, none⟩
        path := .rooted [[]]
        query := none
        fragment := none } := by
    decide +kernel
  have named : ∃ u, (ofUrl .rehearsed none).urlFor "\\\\[::2]/ping" = .ok u :=
    ⟨{ Url.rehearsed with
        authority := some ⟨[], [], .v6 ⟨#v[0, 0, 0, 0, 0, 0, 0, 2]⟩, none⟩
        path := .rooted ["ping".toList]
        query := none
        fragment := none }, by decide +kernel⟩
  obtain ⟨u, named⟩ := named
  have both := (urlFor_stays_unless_named Url.serverUrl_rehearsed none "\\\\[::2]/ping").2 leaves
    _ _ none other rfl u
  exact ⟨Url.serverUrl_rehearsed,
    (urlFor_stays_unless_named Url.serverUrl_rehearsed none "//ping").1 stays,
    _, u, other, both.2 named, named⟩

/-- **A request can leave its server, and the token goes with it.** The path is a URL of
its own, so the request is for the host of the path, and it carries the token that is
meant for the server. -/
theorem token_leaves_server :
    serverUrl "https://agent:pw@[::1]:7443/lather?x=1#top" = .ok .rehearsed
      ∧ ∃ q, (ofUrl .rehearsed (some "secret")).request .get "https://[::2]/ping" = .ok q
        ∧ q.headers.get? tokenHeader = some "secret"
        ∧ q.url.host? ≠ Url.rehearsed.host? ∧ q.url.port? ≠ Url.rehearsed.port? := by
  refine ⟨Url.serverUrl_rehearsed, ⟨.get, ?_, Fields.empty.set tokenHeader "secret", ∅⟩, ?_⟩
  · exact
      { scheme := "https".toList
        authority := some ⟨[], [], .v6 ⟨#v[0, 0, 0, 0, 0, 0, 0, 2]⟩, none⟩
        path := .rooted ["ping".toList]
        query := none
        fragment := none }
  · exact ⟨by decide +kernel, by decide +kernel, by decide +kernel, by decide +kernel⟩

end Client

end Uplink
