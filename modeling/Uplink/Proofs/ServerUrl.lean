import Uplink.Client
import Uplink.Proofs.History
import Uplink.Proofs.Literal

/-!
# The URL of a server

A client is made for a URL of the web with a host (`Client.serverUrl`). Such a URL has
an authority and a rooted path, because text of the web is read no other way, and no
slash is left inside a segment: the path was split at its slashes, and an escape does
not bring one in. This is all that resolving a path needs to know about the URL
(`Url.IsServer`).

The last segment is empty just if the path ends with a slash. So a path that is made to
end with a slash has an empty last segment, and what is before it, the directory, is what
other paths are resolved in (`Url.IsServer.exists_directory`).
-/

namespace Uplink

/-! ## Pieces and escapes -/

/-- **What a piece is made of**: characters of the text that are no separators. -/
theorem Ascii.mem_of_mem_splitOn {isSep : Char → Bool} {cs piece : List Char} {c : Char}
    (h : piece ∈ splitOn isSep cs) (hc : c ∈ piece) : c ∈ cs ∧ isSep c = false := by
  induction cs generalizing piece with
  | nil =>
    obtain rfl := List.mem_singleton.1 h
    cases hc
  | cons d cs ih =>
    have later {p : List Char} (hp : p ∈ splitOn isSep cs) (hc : c ∈ p) :
        c ∈ d :: cs ∧ isSep c = false :=
      (ih hp hc).imp_left (List.mem_cons_of_mem d)
    rw [splitOn] at h
    cases sep : isSep d with
    | true =>
      rw [if_pos sep] at h
      obtain rfl | h := List.mem_cons.1 h
      · cases hc
      · exact later h hc
    | false =>
      rw [if_neg (by simp [sep])] at h
      cases pieces : splitOn isSep cs with
      | nil => exact absurd pieces (splitOn_ne_nil isSep cs)
      | cons p ps =>
        rw [pieces] at h later
        obtain rfl | h := List.mem_cons.1 h
        · obtain rfl | hc := List.mem_cons.1 hc
          · exact ⟨List.mem_cons_self, sep⟩
          · exact later List.mem_cons_self hc
        · exact later (List.mem_cons_of_mem p h) hc

namespace Url

/-- **What an escape brings in**: percent signs and digits. -/
theorem Percent.mem_encode {set : Percent.EscapeSet} {cs : List Char} {c : Char}
    (h : c ∈ encode set cs) : c ∈ cs ∨ c = '%' ∨ Ascii.isHexDigit c = true := by
  have digit : ∀ d < 16, Ascii.isHexDigit d.digitChar.toUpper = true := by decide
  obtain ⟨d, hd, hc⟩ := List.mem_flatMap.1 h
  unfold encodeChar at hc
  split at hc
  · obtain rfl := List.mem_singleton.1 hc
    exact .inl hd
  · obtain ⟨b, _, hc⟩ := List.mem_flatMap.1 hc
    have small := b.toNat_lt
    simp only [escape, List.mem_cons, List.not_mem_nil, or_false] at hc
    obtain rfl | rfl | rfl := hc
    · exact .inr (.inl rfl)
    · exact .inr (.inr (digit _ (by omega)))
    · exact .inr (.inr (digit _ (Nat.mod_lt _ (by decide))))

/-! ## Segments -/

/-- **Segments that no slash splits further.** -/
def Unsplit (segments : List (List Char)) : Prop :=
  ∀ s ∈ segments, '/' ∉ s

theorem Unsplit.append {ss ts : List (List Char)} (h : Unsplit ss) (h' : Unsplit ts) :
    Unsplit (ss ++ ts) :=
  fun s hs => (List.mem_append.1 hs).elim (h s) (h' s)

theorem Unsplit.up {segments : List (List Char)} (h : Unsplit segments) :
    Unsplit (up segments) := by
  unfold Url.up
  split
  · exact h
  · exact fun s hs => h s ((List.dropLast_sublist segments).subset hs)

theorem unsplit_afterDots (rest : List (List Char)) : Unsplit (afterDots rest) := by
  unfold afterDots Unsplit
  split <;> simp

/-- **Reading a path brings no slash into a segment.** -/
theorem Unsplit.walk {pieces before : List (List Char)} (h : Unsplit before)
    (h' : Unsplit pieces) : Unsplit (walk before pieces) := by
  induction pieces generalizing before with
  | nil => exact h
  | cons s rest ih =>
    have rest' : Unsplit rest := fun t ht => h' t (List.mem_cons_of_mem s ht)
    have written : Unsplit [Percent.encode Percent.inPath s] := by
      intro t ht slash
      obtain rfl := List.mem_singleton.1 ht
      obtain mem | digit := Percent.mem_encode slash
      · exact h' s List.mem_cons_self mem
      · exact absurd digit (by decide)
    rw [Url.walk]
    split
    · exact ih (h.up.append (unsplit_afterDots rest)) rest'
    · split
      · exact ih (h.append (unsplit_afterDots rest)) rest'
      · exact ih (h.append written) rest'

theorem unsplit_pathOnto (f : Family) {before : List (List Char)} (h : Unsplit before)
    (cs : List Char) : Unsplit (f.pathOnto before cs).1 := by
  refine h.walk fun piece hp slash => ?_
  have := (Ascii.mem_of_mem_splitOn hp slash).2
  unfold Family.isSeparator at this
  simp at this

theorem unsplit_pathAfterAuthority (f : Family) (cs : List Char) :
    Unsplit (f.pathAfterAuthority cs).1 := by
  have none : Unsplit [] := nofun
  unfold Family.pathAfterAuthority
  split
  · split <;> simp [Unsplit]
  · split
    · exact unsplit_pathOnto f none _
    · split
      · exact none
      · exact unsplit_pathOnto f none _

/-! ## URLs of the web -/

/-- **The URL of a server**: its scheme is `http` or `https`, it has an authority, and its
path is rooted and split at all its slashes. -/
structure IsServer (u : Url) : Prop where
  scheme : u.scheme = "http".toList ∨ u.scheme = "https".toList
  authority : ∃ a, u.authority = some a
  path : ∃ segments, u.path = .rooted segments ∧ Unsplit segments

theorem IsServer.family {u : Url} (h : u.IsServer) : Family.of u.scheme = .web := by
  obtain scheme | scheme := h.scheme <;> rw [scheme] <;> decide

/-- What is read from after the slashes on has its authority and a path of its own. -/
theorem afterSlashes_spec {scheme cs : List Char} {u : Url}
    (h : afterSlashes scheme cs = .ok u) : u.scheme = scheme ∧ (∃ a, u.authority = some a)
      ∧ ∃ segments, u.path = .rooted segments ∧ Unsplit segments := by
  unfold afterSlashes at h
  dsimp only at h
  cases read : authorityOf scheme cs with
  | error e =>
    rw [read] at h
    cases h
  | ok found =>
    obtain ⟨a, rest⟩ := found
    rw [read] at h
    obtain rfl := Except.ok.inj h
    exact ⟨rfl, ⟨a, rfl⟩, _, rfl, unsplit_pathAfterAuthority _ rest⟩

theorem File.scheme_afterSlashes {cs : List Char} {u : Url}
    (h : File.afterSlashes cs = .ok u) : u.scheme = File.scheme := by
  unfold File.afterSlashes at h
  dsimp only at h
  split at h
  · cases h
    rfl
  · cases host : File.host? (unbroken (Ascii.cut (fun c => isSlash c || endsPath c) cs).1) with
    | error e =>
      rw [host] at h
      cases h
    | ok name =>
      rw [host] at h
      cases name with
      | none =>
        cases h
        rfl
      | some name =>
        cases h
        rfl

/-- A file is read as a file. -/
theorem File.scheme_read {cs : List Char} {u : Url} (h : File.read none cs = .ok u) :
    u.scheme = File.scheme := by
  unfold File.read at h
  split at h
  · split at h
    · cases h
      rfl
    · split at h
      · split at h
        · exact File.scheme_afterSlashes h
        · cases h
          rfl
      · cases h
        rfl
  · cases h
    rfl

/-- Text outside the web keeps its scheme. -/
theorem scheme_plain {scheme cs : List Char} {u : Url} (h : plain scheme cs = .ok u) :
    u.scheme = scheme := by
  unfold plain at h
  split at h
  · exact (afterSlashes_spec h).1
  · cases h
    rfl
  · cases h
    rfl

/-- **What is accepted as the URL of a server is one.** -/
theorem isServer_of_serverUrl {text : String} {u : Url} (h : Client.serverUrl text = .ok u) :
    u.IsServer := by
  unfold Client.serverUrl at h
  split at h
  · cases h
  · rename_i v read_
    split at h
    · rename_i accepted
      cases h
      unfold ofText read at read_
      dsimp only at read_
      split at read_
      · rename_i scheme rest _
        unfold withScheme at read_
        split at read_
        · -- a file, and so neither of the schemes
          have file := File.scheme_read read_
          rw [file] at accepted
          exact absurd accepted.1 (by decide)
        · rename_i other
          have same := scheme_plain read_
          rw [← same] at other
          obtain web | web := accepted.1 <;> rw [web] at other <;> exact absurd other (by decide)
        · obtain ⟨_, authority, path⟩ := afterSlashes_spec read_
          exact ⟨accepted.1, authority, path⟩
      · cases read_
    · cases h

/-! ## The slash at the end -/

/-- **Segments are read back from the text of their path.** -/
theorem splitOn_text_rooted {segments : List (List Char)} (h : Unsplit segments) :
    Ascii.splitOn (· == '/') (UrlPath.rooted segments).text = [] :: segments := by
  induction segments with
  | nil => rfl
  | cons s rest ih =>
    have rest_ := ih fun t ht => h t (List.mem_cons_of_mem s ht)
    have plain : ∀ c ∈ s, (c == '/') = false := fun c hc =>
      beq_eq_false_iff_ne.2 fun same => h s List.mem_cons_self (same ▸ hc)
    rw [UrlPath.text_rooted_cons, List.cons_append, Ascii.splitOn, if_pos (beq_self_eq_true '/')]
    cases rest with
    | nil =>
      rw [UrlPath.text_rooted_nil, List.append_nil, Ascii.splitOn_of_not plain]
    | cons t rest =>
      rw [UrlPath.text_rooted_cons, List.cons_append] at rest_ ⊢
      rw [Ascii.splitOn, if_pos (beq_self_eq_true '/')] at rest_
      rw [Ascii.splitOn_append plain (beq_self_eq_true '/'), (List.cons.inj rest_).2]

/-- **A rooted path is determined by its text.** -/
theorem Unsplit.eq_of_text {ss ts : List (List Char)} (h : Unsplit ss) (h' : Unsplit ts)
    (same : (UrlPath.rooted ss).text = (UrlPath.rooted ts).text) : ss = ts := by
  have := splitOn_text_rooted h
  rw [same, splitOn_text_rooted h'] at this
  exact (List.cons.inj this).2.symm

/-- A path with a slash ensured at its end. -/
def slashed (path : List Char) : List Char :=
  if path.getLast? = some '/' then path else path ++ ['/']

/-- **A path that ends with a slash has an empty last segment.** -/
theorem Unsplit.exists_of_slash {segments : List (List Char)} (h : Unsplit segments)
    (ends : (UrlPath.rooted segments).text.getLast? = some '/') :
    ∃ before, segments = before ++ [[]] := by
  obtain rfl | ⟨before, last, rfl⟩ := List.eq_nil_or_concat segments
  · cases ends
  refine ⟨before, ?_⟩
  rw [List.concat_eq_append] at h ends ⊢
  have slash : ('/' :: last).getLast? = some '/' := by
    obtain ⟨c, hc⟩ : ∃ c, ('/' :: last).getLast? = some c :=
      ⟨_, List.getLast?_eq_some_getLast (List.cons_ne_nil _ _)⟩
    have text : (UrlPath.rooted [last]).text = '/' :: last := by simp
    rw [UrlPath.text_rooted_append, text, List.getLast?_append, hc] at ends
    exact hc.trans ends
  cases last with
  | nil => rfl
  | cons c cs =>
    -- the last character would be the slash, inside the segment
    rw [List.getLast?_cons_cons] at slash
    exact absurd (List.mem_of_getLast? slash) (h _ (by simp))

/-- **The URL with a slash at the end of its path** has a directory and an empty segment
behind it. -/
theorem IsServer.exists_directory {u : Url} (h : u.IsServer) :
    ∃ directory, Unsplit directory
      ∧ u.withTrailingSlash = { u with path := .rooted (directory ++ [[]]) }
      ∧ (UrlPath.rooted directory).text ++ ['/'] = slashed u.path.text := by
  obtain ⟨segments, path, unsplit⟩ := h.path
  have family := h.family
  unfold withTrailingSlash slashed
  rw [path]
  by_cases ends : (UrlPath.rooted segments).text.getLast? = some '/'
  · obtain ⟨directory, rfl⟩ := unsplit.exists_of_slash ends
    refine ⟨directory, fun s hs => unsplit s (List.mem_append_left _ hs), ?_, ?_⟩
    · rw [if_pos ends, ← path]
    · rw [if_pos ends, UrlPath.text_rooted_append]
      rfl
  · refine ⟨segments, unsplit, ?_, ?_⟩
    · rw [if_neg ends]
      simp [family]
    · rw [if_neg ends]

theorem getLast?_slashed (path : List Char) : (Url.slashed path).getLast? = some '/' := by
  unfold Url.slashed
  split
  · assumption
  · exact List.getLast?_concat

/-- **The slash at the end is ensured once and for all.** -/
theorem IsServer.withTrailingSlash_idem {u : Url} (h : u.IsServer) :
    u.withTrailingSlash.withTrailingSlash = u.withTrailingSlash := by
  obtain ⟨directory, _, ending, written⟩ := h.exists_directory
  have ends : u.withTrailingSlash.path.text.getLast? = some '/' := by
    rw [ending, ← getLast?_slashed u.path.text, ← written]
    exact congrArg List.getLast? (UrlPath.text_rooted_append directory [[]])
  rw [Url.withTrailingSlash.eq_1 u.withTrailingSlash, if_pos ends]

/-- The URL with a slash at the end of its path is the URL of the same server. -/
theorem IsServer.slashed {u : Url} (h : u.IsServer) : u.withTrailingSlash.IsServer := by
  obtain ⟨directory, unsplit, eq, _⟩ := h.exists_directory
  rw [eq]
  exact ⟨h.scheme, h.authority, _, rfl, unsplit.append (by simp [Unsplit])⟩

/-! ## A server to rehearse with -/

/-- **The URL of a server** with everything that a URL can have. -/
def rehearsed : Url where
  scheme := "https".toList
  authority := some ⟨"agent".toList, "pw".toList, .v6 ⟨#v[0, 0, 0, 0, 0, 0, 0, 1]⟩, some 7443⟩
  path := .rooted ["lather".toList]
  query := some "x=1".toList
  fragment := some "top".toList

theorem serverUrl_rehearsed :
    Client.serverUrl "https://agent:pw@[::1]:7443/lather?x=1#top" = .ok rehearsed := by
  decide +kernel

end Url

end Uplink
