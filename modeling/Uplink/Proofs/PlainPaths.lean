import Mathlib.Data.List.TakeDrop
import Mathlib.Data.List.TakeWhile
import Uplink.Proofs.References

/-!
# Plain paths

Most paths that a client is asked for are plain: letters, digits, a few marks and slashes,
and no segment of dots (`Url.PlainPath`). Reading a reference does many things to a text,
but nothing of it applies to such a path. It has no blanks to trim and no breaks to drop,
it opens no scheme, and ends in no query. Its segments are no dot segments, and they are
written as they are. So its segments go behind the directory of the base
(`Url.IsServer.join_plain`), and the URL has the text that one would write by hand.

The leading slashes are gone by then, and dropping them drops empty segments only. Empty
segments further inside stay.
-/

namespace Uplink

/-! ## Texts without the characters looked for -/

namespace Ascii

variable {isSep isSep' : Char → Bool} {cs : List Char}

/-- A text is split by what separates its own characters. -/
theorem splitOn_congr (h : ∀ c ∈ cs, isSep c = isSep' c) :
    splitOn isSep cs = splitOn isSep' cs := by
  induction cs with
  | nil => rfl
  | cons c cs ih =>
    rw [splitOn, splitOn, h c List.mem_cons_self, ih fun d hd => h d (List.mem_cons_of_mem c hd)]

/-- **Dropping separators at the start drops empty pieces only.** -/
theorem splitOn_dropWhile_subset (isSep : Char → Bool) (cs : List Char) :
    splitOn isSep (cs.dropWhile isSep) ⊆ splitOn isSep cs := by
  induction cs with
  | nil => exact List.Subset.refl _
  | cons c cs ih =>
    cases sep : isSep c with
    | true =>
      rw [List.dropWhile_cons_of_pos sep, splitOn, if_pos sep]
      exact fun piece hp => List.mem_cons_of_mem _ (ih hp)
    | false =>
      rw [List.dropWhile_cons_of_neg (by simp [sep])]
      exact List.Subset.refl _

theorem cut_of_not (h : ∀ c ∈ cs, isSep c = false) : cut isSep cs = (cs, []) := by
  have all : ∀ c ∈ cs, (!isSep c) = true := fun c hc => by simp [h c hc]
  rw [cut, List.span_eq_takeWhile_dropWhile, List.takeWhile_eq_self_iff.2 all,
    List.dropWhile_eq_nil_iff.2 all]

theorem trim_of_not (h : ∀ c ∈ cs, isSep c = false) : trim isSep cs = cs := by
  rw [trim, dropWhile_of_not h, dropWhile_of_not fun c hc => h c (List.mem_reverse.1 hc),
    List.reverse_reverse]

end Ascii

namespace Url

/-! ## Plain characters -/

/-- **Characters that mean nothing in a URL**: letters, digits and four marks. -/
def isUnreserved (c : Char) : Bool :=
  c.isAlphanum || "-._~".toList.contains c

/-- What holds of the ASCII characters, one by one. -/
theorem forall_ascii {P : Char → Prop} (h : ∀ n < 0x80, P (Char.ofNat n)) (c : Char)
    (ascii : c.toNat < 0x80) : P c :=
  Char.ofNat_toNat c ▸ h c.toNat ascii

theorem toNat_lt_of_isUnreserved {c : Char} (h : isUnreserved c = true) : c.toNat < 0x80 := by
  have upTo (last : Char) (small : last.toNat < 0x80) (le : c.val ≤ last.val) : c.toNat < 0x80 :=
    Nat.lt_of_le_of_lt (UInt32.le_iff_toNat_le.1 le) small
  unfold isUnreserved at h
  obtain alphanum | mark := Bool.or_eq_true_iff.1 h
  · obtain letter | digit := Bool.or_eq_true_iff.1 alphanum
    · obtain upper | lower := Bool.or_eq_true_iff.1 letter
      · exact upTo 'Z' (by decide) (of_decide_eq_true upper).2
      · exact upTo 'z' (by decide) (of_decide_eq_true (Bool.and_eq_true_iff.1 lower).2)
    · exact upTo '9' (by decide) (of_decide_eq_true (Bool.and_eq_true_iff.1 digit).2)
  · obtain rfl | rfl | rfl | rfl : c = '-' ∨ c = '.' ∨ c = '_' ∨ c = '~' := by simpa using mark
    all_goals decide

/-- **How the reader of a URL takes an unreserved character or a slash**: it is no blank
and no break, opens no scheme, and ends no path. -/
theorem plain_character {c : Char} (h : isUnreserved c = true ∨ c = '/') :
    ¬ c.toNat ≤ 0x20 ∧ (c == ':') = false ∧ isBreak c = false ∧ endsPath c = false
      ∧ Family.web.isSeparator c = (c == '/') := by
  refine forall_ascii (P := fun c => isUnreserved c = true ∨ c = '/' →
    ¬ c.toNat ≤ 0x20 ∧ (c == ':') = false ∧ isBreak c = false ∧ endsPath c = false
      ∧ Family.web.isSeparator c = (c == '/')) (by decide +kernel) c ?_ h
  obtain unreserved | rfl := h
  · exact toNat_lt_of_isUnreserved unreserved
  · decide

/-- An unreserved character is written as it is, and it is no slash. It is no part of an
escape, and no other one has a dot for its lower case. -/
theorem unreserved_character {c : Char} (h : isUnreserved c = true) :
    Percent.inPath c = false ∧ isSlash c = false ∧ c.toLower ≠ '%'
      ∧ (c.toLower = '.' → c = '.') :=
  forall_ascii (P := fun c => isUnreserved c = true →
    Percent.inPath c = false ∧ isSlash c = false ∧ c.toLower ≠ '%'
      ∧ (c.toLower = '.' → c = '.'))
    (by decide +kernel) c (toNat_lt_of_isUnreserved h) h

/-! ## Plain segments -/

section Segment

variable {s : List Char}

theorem percent_not_mem_lower (h : ∀ c ∈ s, isUnreserved c = true) : '%' ∉ Ascii.lower s := by
  intro percent
  obtain ⟨c, hc, same⟩ := List.mem_map.1 percent
  exact (unreserved_character (h c hc)).2.2.1 same

/-- Only dots have dots for their lower case. -/
theorem eq_replicate_of_lower (h : ∀ c ∈ s, isUnreserved c = true) {n : Nat}
    (dots : Ascii.lower s = List.replicate n '.') : s = List.replicate n '.' := by
  obtain ⟨length, all⟩ := List.eq_replicate_iff.1 dots
  refine List.eq_replicate_iff.2 ⟨by simpa [Ascii.lower] using length, fun c hc => ?_⟩
  exact (unreserved_character (h c hc)).2.2.2 (all _ (List.mem_map_of_mem hc))

/-- **A segment without escapes is a dot segment only if it is dots.** -/
theorem isDot_eq_false (h : ∀ c ∈ s, isUnreserved c = true) (undotted : s ≠ ['.']) :
    isDot s = false := by
  refine decide_eq_false fun dot => ?_
  obtain dot | dot : Ascii.lower s = ".".toList ∨ Ascii.lower s = "%2e".toList := by
    simpa using dot
  · exact undotted (eq_replicate_of_lower (n := 1) h dot)
  · exact percent_not_mem_lower h (dot ▸ by decide)

theorem isDotDot_eq_false (h : ∀ c ∈ s, isUnreserved c = true) (undotted : s ≠ ['.', '.']) :
    isDotDot s = false := by
  refine decide_eq_false fun dots => ?_
  obtain dots | escaped := List.mem_cons.1 dots
  · exact undotted (eq_replicate_of_lower (n := 2) h dots)
  · have percent : ∀ t ∈ [".%2e", "%2e.", "%2e%2e"].map String.toList, '%' ∈ t := by decide
    exact percent_not_mem_lower h (percent _ escaped)

end Segment

/-- **Plain segments are read as they are.** -/
theorem walk_of_plain {pieces : List (List Char)}
    (h : ∀ s ∈ pieces, (∀ c ∈ s, isUnreserved c = true) ∧ s ≠ ['.'] ∧ s ≠ ['.', '.'])
    (before : List (List Char)) : walk before pieces = before ++ pieces := by
  induction pieces generalizing before with
  | nil => exact (List.append_nil before).symm
  | cons s rest ih =>
    obtain ⟨unreserved, dot, dotDot⟩ := h s List.mem_cons_self
    have written : Percent.encode Percent.inPath s = s := Percent.encode_of_plain fun c hc =>
      ⟨toNat_lt_of_isUnreserved (unreserved c hc), (unreserved_character (unreserved c hc)).1⟩
    rw [walk, written, isDotDot_eq_false unreserved dotDot, isDot_eq_false unreserved dot,
      if_neg Bool.false_ne_true, if_neg Bool.false_ne_true,
      ih fun t ht => h t (List.mem_cons_of_mem s ht)]
    exact List.append_assoc before [s] rest

/-- **A text is the path of its pieces**, but for the slash that every path starts with. -/
theorem text_rooted_splitOn (cs : List Char) :
    (UrlPath.rooted (Ascii.splitOn (· == '/') cs)).text = '/' :: cs := by
  induction cs with
  | nil => rfl
  | cons c cs ih =>
    cases slash : c == '/' with
    | true =>
      rw [Ascii.splitOn, if_pos slash, UrlPath.text_rooted_cons, ih, beq_iff_eq.1 slash]
      rfl
    | false =>
      rw [Ascii.splitOn, if_neg (by simp [slash])]
      cases pieces : Ascii.splitOn (· == '/') cs with
      | nil => exact absurd pieces (Ascii.splitOn_ne_nil _ cs)
      | cons p ps =>
        rw [pieces, UrlPath.text_rooted_cons, List.cons_append] at ih
        show '/' :: c :: (p ++ (UrlPath.rooted ps).text) = _
        rw [(List.cons.inj ih).2]

/-! ## Plain paths -/

/-- **A plain path**: unreserved characters and slashes, not slashes alone, and no segment
that is one dot or two. -/
structure PlainPath (path : List Char) : Prop where
  characters : ∀ c ∈ path, isUnreserved c = true ∨ c = '/'
  named : ∃ c ∈ path, c ≠ '/'
  undotted : ∀ s ∈ Ascii.splitOn (· == '/') path, s ≠ ['.'] ∧ s ≠ ['.', '.']

instance (path : List Char) : Decidable (PlainPath path) :=
  decidable_of_iff (path.all (fun c => isUnreserved c || c == '/') ∧ path.any (· != '/')
      ∧ (Ascii.splitOn (· == '/') path).all fun s => s ≠ ['.'] ∧ s ≠ ['.', '.'])
    ⟨fun ⟨characters, named, undotted⟩ =>
      ⟨by simpa using characters, by simpa using named, by simpa using undotted⟩,
    fun h => ⟨by simpa using h.characters, by simpa using h.named, by simpa using h.undotted⟩⟩

namespace PlainPath

variable {path : List Char}

/-- **A plain path is a plain path without its leading slashes**, and it starts with a
character of its first name. -/
theorem stripped (h : PlainPath path) : PlainPath (path.dropWhile (· == '/'))
    ∧ ∃ c rest, path.dropWhile (· == '/') = c :: rest ∧ isUnreserved c = true := by
  have characters : ∀ c ∈ path.dropWhile (· == '/'), isUnreserved c = true ∨ c = '/' :=
    fun c hc => h.characters c ((List.dropWhile_sublist _).subset hc)
  obtain ⟨c, hc, name⟩ := h.named
  cases left : path.dropWhile (· == '/') with
  | nil => exact absurd (List.dropWhile_eq_nil_iff.1 left c hc) (by simpa using name)
  | cons d rest =>
    have first : d ≠ '/' := by
      have := List.head?_dropWhile_not (· == '/') path
      rw [left] at this
      simpa using this
    rw [left] at characters
    refine ⟨⟨characters, ⟨d, List.mem_cons_self, first⟩, fun s hs => ?_⟩, d, rest, rfl,
      (characters d List.mem_cons_self).resolve_right first⟩
    exact h.undotted s (Ascii.splitOn_dropWhile_subset _ path (left ▸ hs))

/-- Any number of slashes more at the start is dropped with them. -/
theorem dropWhile_more (h : PlainPath path) (n : Nat) :
    (List.replicate n '/' ++ path.dropWhile (· == '/')).dropWhile (· == '/')
      = path.dropWhile (· == '/') := by
  have slashes : ∀ c ∈ List.replicate n '/', (c == '/') = true := fun c hc =>
    beq_iff_eq.2 (List.eq_of_mem_replicate hc)
  obtain ⟨_, c, rest, left, first⟩ := h.stripped
  have name : ¬ (c == '/') = true := fun slash =>
    absurd (beq_iff_eq.1 slash ▸ first) (by decide)
  rw [List.dropWhile_append_of_pos slashes, left]
  exact List.dropWhile_cons_of_neg name

/-- The segments of a plain path are plain. -/
theorem segments (h : PlainPath path) : ∀ s ∈ Ascii.splitOn (· == '/') path,
    (∀ c ∈ s, isUnreserved c = true) ∧ s ≠ ['.'] ∧ s ≠ ['.', '.'] := by
  refine fun s hs => ⟨fun c hc => ?_, h.undotted s hs⟩
  obtain ⟨mem, sep⟩ := Ascii.mem_of_mem_splitOn hs hc
  exact (h.characters c mem).resolve_right (by simpa using sep)

/-- Nothing is trimmed from a plain path, and nothing dropped. -/
theorem unbroken_trimmed (h : PlainPath path) : unbroken (trimmed path) = path := by
  have plain := fun c hc => plain_character (h.characters c hc)
  rw [trimmed, Ascii.trim_of_not fun c hc => decide_eq_false (plain c hc).1, unbroken]
  exact List.filter_eq_self.2 fun c hc => by simp [(plain c hc).2.2.1]

/-- A plain path opens no scheme. -/
theorem scheme?_trimmed (h : PlainPath path) : scheme? (trimmed path) = none := by
  have plain := fun c hc => plain_character (h.characters c hc)
  rw [trimmed, Ascii.trim_of_not fun c hc => decide_eq_false (plain c hc).1]
  unfold scheme?
  rw [Ascii.cut_of_not fun c hc => (plain c hc).2.1]
  dsimp only
  split
  · rename_i colon
    cases colon
  · rfl

/-- **A plain path is read segment by segment**, and nothing is left of it. -/
theorem pathOnto (h : PlainPath path) (before : List (List Char)) :
    Family.web.pathOnto before path = (before ++ Ascii.splitOn (· == '/') path, []) := by
  have plain := fun c hc => plain_character (h.characters c hc)
  unfold Family.pathOnto
  rw [Ascii.cut_of_not fun c hc => (plain c hc).2.2.2.1]
  dsimp only
  rw [Ascii.splitOn_congr fun c hc => (plain c hc).2.2.2.2, walk_of_plain h.segments]

end PlainPath

/-- A reference that starts with no slash is one within the path. -/
theorem relative_of_not_isSlash (base : Url) {c : Char} (h : isSlash c = false)
    (rest : List Char) : relative base (c :: rest) = .ok (base.withinPath (c :: rest)) := by
  unfold relative
  split
  · rename_i slashes
    obtain ⟨rfl, _⟩ := List.cons.inj slashes
    cases h
  · rename_i same
    obtain ⟨rfl, _⟩ := List.cons.inj same
    rw [h]
    rfl
  · rename_i none
    cases none

/-- **A plain path goes behind the directory of the base.** -/
theorem IsServer.join_plain {base : Url} (h : base.IsServer) {directory : List (List Char)}
    (inside : base.path = .rooted (directory ++ [[]])) {path : List Char}
    (plain : PlainPath path) :
    base.join (path.dropWhile (· == '/')) = .ok
      { scheme := base.scheme
        authority := base.authority
        path := .rooted (directory ++ Ascii.splitOn (· == '/') (path.dropWhile (· == '/')))
        query := none
        fragment := none } := by
  obtain ⟨stripped, c, rest, left, first⟩ := plain.stripped
  have before : base.segments.dropLast = directory := by
    unfold segments
    rw [inside]
    exact List.dropLast_concat
  have onto := stripped.pathOnto directory
  rw [h.join_of_none stripped.scheme?_trimmed, stripped.unbroken_trimmed]
  rw [left] at onto ⊢
  have names : (c :: rest).head?.all endsPath = false := (plain_character (.inl first)).2.2.2.1
  rw [relative_of_not_isSlash base (unreserved_character first).2.1]
  unfold withinPath withPath
  rw [if_neg (ne_true_of_eq_false names), h.family, before]
  dsimp only
  rw [onto]
  rfl

end Url

namespace Client

/-- A plain path's URL, by the directory of the server. -/
theorem urlFor_of_directory {server : Url} (served : server.IsServer)
    {directory : List (List Char)}
    (ending : server.withTrailingSlash = { server with path := .rooted (directory ++ [[]]) })
    (token : Option String) {path : String} (plain : Url.PlainPath path.toList) :
    (ofUrl server token).urlFor path = .ok
      { scheme := server.scheme
        authority := server.authority
        path := .rooted
          (directory ++ Ascii.splitOn (· == '/') (path.toList.dropWhile (· == '/')))
        query := none
        fragment := none } := by
  obtain ⟨based, scheme, authority⟩ := base_ofUrl served token
  have inside : (ofUrl server token).base.path = .rooted (directory ++ [[]]) := by
    show server.withTrailingSlash.path = _
    rw [ending]
  rw [urlFor_eq_ok_iff, based.join_plain inside plain, scheme, authority]

/-- **The URL of a plain path is the server's with the path behind its own.** It has the
scheme, the credentials, the host and the port of the server, and neither query nor
fragment. Its path is the server's with one slash at the end, and then the path without
its leading slashes. So it does not matter whether the server's path ends with a slash
already, nor with how many slashes the path starts, and the slash at the end is ensured
once and for all. -/
theorem urlFor_plain {text : String} {server : Url} (accepted : serverUrl text = .ok server)
    (token : Option String) {path : String} (plain : Url.PlainPath path.toList) :
    ∃ u, (ofUrl server token).urlFor path = .ok u
      ∧ u.scheme = server.scheme ∧ u.authority = server.authority
      ∧ u.query = none ∧ u.fragment = none
      ∧ u.path.text = Url.slashed server.path.text ++ path.toList.dropWhile (· == '/')
      ∧ (∀ text' server' token', serverUrl text' = .ok server' →
        server'.scheme = server.scheme → server'.authority = server.authority →
        Url.slashed server'.path.text = Url.slashed server.path.text →
        (ofUrl server' token').urlFor path = .ok u)
      ∧ (∀ n, (ofUrl server token).urlFor
        (String.ofList (List.replicate n '/' ++ path.toList.dropWhile (· == '/'))) = .ok u)
      ∧ server.withTrailingSlash.withTrailingSlash = server.withTrailingSlash := by
  have served := Url.isServer_of_serverUrl accepted
  obtain ⟨directory, unsplit, ending, written⟩ := served.exists_directory
  have found := urlFor_of_directory served ending token plain
  refine ⟨_, found, rfl, rfl, rfl, rfl, ?_, ?_, fun n => ?_, ?_⟩
  · rw [← written, UrlPath.text_rooted_append, Url.text_rooted_splitOn, List.append_assoc]
    rfl
  · intro text' server' token' accepted' scheme authority same
    have served' := Url.isServer_of_serverUrl accepted'
    obtain ⟨directory', unsplit', ending', written'⟩ := served'.exists_directory
    -- the directories have the same text, so they are the same
    obtain rfl : directory' = directory :=
      unsplit'.eq_of_text unsplit
        (List.append_cancel_right (written'.trans (same.trans written.symm)))
    rw [urlFor_of_directory served' ending' token' plain, scheme, authority]
  · rw [urlFor_eq_ok_iff] at found ⊢
    rwa [String.toList_ofList, plain.dropWhile_more]
  · exact served.withTrailingSlash_idem

/-- The rehearsed server, whose path has no slash at its end, and another one that has
one and differs in nothing else that counts. -/
theorem urlFor_plain_rehearsed :
    serverUrl "https://agent:pw@[::1]:7443/lather?x=1#top" = .ok .rehearsed
      ∧ Url.PlainPath "//a//b.c/".toList
      ∧ ∃ u, (ofUrl .rehearsed none).urlFor "//a//b.c/" = .ok u
        ∧ u.path.text = "/lather/a//b.c/".toList
        ∧ (ofUrl { Url.rehearsed with path := .rooted ["lather".toList, []] } none).urlFor
          "//a//b.c/" = .ok u := by
  have plain : Url.PlainPath "//a//b.c/".toList := by decide +kernel
  obtain ⟨u, found, _, _, _, _, written, others, _⟩ :=
    urlFor_plain Url.serverUrl_rehearsed none plain
  refine ⟨Url.serverUrl_rehearsed, plain, u, found, written.trans (by decide), ?_⟩
  exact others "https://agent:pw@[::1]:7443/lather/?x=1#top" _ none (by decide +kernel) rfl rfl rfl

end Client

end Uplink
