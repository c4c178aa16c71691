import Uplink.Proofs.Json.Writing
import Uplink.Settings.Json

/-!
# Settings that are given in part

A configuration names what it changes. Everything that it does not name has its
default, in a section as well as outside of it, and a section may be missing as a
whole. What it names may stand in any order and be spelled in any way that JSON has,
and names that mean nothing here are passed over with whatever they have for a value.

So which settings a text gives is a question of two things only: the settings, and the
fields that are left out (`Omission`). The theorem says that the text is read as the
settings without these fields (`ClientSettings.without`), whatever the settings and
whatever the fields. With nothing left out it is a round trip: what is written for
settings is read as the same settings.

The readers of the fields come from the schema, and it is here that each is matched
with the field it is for. A reader that changes another field than its own, a default
that is missing and a bound that is too narrow would all show in the `Partition` of
their record.
-/

namespace Uplink

open Json (Content ObjectOf Spells)

/-! ## Settings of which some fields are given -/

/-- **Some of the settings**, and defaults elsewhere. -/
def CommunicationSettings.only (s : CommunicationSettings) (given : String → Bool) :
    CommunicationSettings where
  supportsMultiEndpoint :=
    if given "supports_multi_endpoint" then s.supportsMultiEndpoint
    else ({} : CommunicationSettings).supportsMultiEndpoint
  failPeriodMinutes :=
    if given "fail_period_minutes" then s.failPeriodMinutes
    else ({} : CommunicationSettings).failPeriodMinutes
  downPeriodIntervalMinutes :=
    if given "down_period_interval_minutes" then s.downPeriodIntervalMinutes
    else ({} : CommunicationSettings).downPeriodIntervalMinutes
  minDownPeriodMinutes :=
    if given "min_down_period_minutes" then s.minDownPeriodMinutes
    else ({} : CommunicationSettings).minDownPeriodMinutes
  maxRequestsPerConnection :=
    if given "max_requests_per_connection" then s.maxRequestsPerConnection
    else ({} : CommunicationSettings).maxRequestsPerConnection

/-- Some of the settings, and defaults elsewhere. -/
def HttpSettings.only (s : HttpSettings) (given : String → Bool) : HttpSettings where
  connectTimeoutSeconds :=
    if given "connect_timeout_seconds" then s.connectTimeoutSeconds
    else ({} : HttpSettings).connectTimeoutSeconds
  socketTimeoutSeconds :=
    if given "socket_timeout_seconds" then s.socketTimeoutSeconds
    else ({} : HttpSettings).socketTimeoutSeconds
  userAgent := if given "user_agent" then s.userAgent else ({} : HttpSettings).userAgent
  proxyUrl := if given "proxy_url" then s.proxyUrl else ({} : HttpSettings).proxyUrl
  maxResponseBytes :=
    if given "max_response_bytes" then s.maxResponseBytes
    else ({} : HttpSettings).maxResponseBytes

/-- Some of the settings, and defaults elsewhere. A section counts as one of them. -/
def ClientSettings.only (s : ClientSettings) (given : String → Bool) : ClientSettings where
  communication :=
    if given "communication" then s.communication else ({} : ClientSettings).communication
  http := if given "http" then s.http else ({} : ClientSettings).http
  agentToken := if given "agent_token" then s.agentToken else ({} : ClientSettings).agentToken

/-- **Fields that are left out**, in the sections and outside of them. A section can be
left out as a whole. -/
structure Omission where
  own : List String
  communication : List String
  http : List String

/-- **Settings without some fields**: these have their defaults. -/
def ClientSettings.without (s : ClientSettings) (o : Omission) : ClientSettings :=
  ClientSettings.only
    { communication := s.communication.only (!o.communication.contains ·)
      http := s.http.only (!o.http.contains ·)
      agentToken := s.agentToken }
    (!o.own.contains ·)

/-! ## What their JSON texts hold -/

/-- What stands for a text or for null. -/
inductive SpellsOption : Option String → List UInt8 → Prop
  | null : SpellsOption none (Utf8.encode "null".toList)
  | text {s : String} {bs : List UInt8} (h : Spells s.toList bs) : SpellsOption (some s) bs

/-- What stands for a truth value. -/
def IsBool (b : Bool) (text : List UInt8) : Prop :=
  text = Utf8.encode (Json.Text.bool b)

/-- What stands for a natural number. -/
def IsNat (n : Nat) (text : List UInt8) : Prop :=
  text = Utf8.encode (Json.Text.nat n)

/-- The fields of communication settings. -/
def CommunicationSettings.contents (s : CommunicationSettings) : List Content :=
  [ ("supports_multi_endpoint", IsBool s.supportsMultiEndpoint),
    ("fail_period_minutes", IsNat s.failPeriodMinutes.toNat),
    ("down_period_interval_minutes", IsNat s.downPeriodIntervalMinutes.toNat),
    ("min_down_period_minutes", IsNat s.minDownPeriodMinutes.toNat),
    ("max_requests_per_connection", IsNat s.maxRequestsPerConnection.toNat) ]

/-- The fields of HTTP settings. -/
def HttpSettings.contents (s : HttpSettings) : List Content :=
  [ ("connect_timeout_seconds", IsNat s.connectTimeoutSeconds.toNat),
    ("socket_timeout_seconds", IsNat s.socketTimeoutSeconds.toNat),
    ("user_agent", Spells s.userAgent.toList),
    ("proxy_url", SpellsOption s.proxyUrl),
    ("max_response_bytes", IsNat s.maxResponseBytes.toNat) ]

/-- **The fields of a client's settings**, with some fields left out in the sections. -/
def ClientSettings.contents (s : ClientSettings) (o : Omission) : List Content :=
  [ ("communication", ObjectOf s.communication.contents o.communication),
    ("http", ObjectOf s.http.contents o.http),
    ("agent_token", SpellsOption s.agentToken) ]

/-- **A JSON text gives a client's settings** but for the fields that are left out. -/
inductive ClientSettings.GivenBut (s : ClientSettings) (o : Omission) : List UInt8 → Prop
  | padded {before object after : List UInt8} (before_ : Json.Blank before)
      (object_ : ObjectOf (s.contents o) o.own object) (after_ : Json.Blank after) :
      GivenBut s o (before ++ (object ++ after))

theorem ClientSettings.GivenBut.of_object {s : ClientSettings} {o : Omission}
    {text : List UInt8} (h : ObjectOf (s.contents o) o.own text) : s.GivenBut o text := by
  have padded : s.GivenBut o ([] ++ (text ++ [])) := .padded nofun h nofun
  rwa [List.nil_append, List.append_nil] at padded

/-! ## What is written for them -/

/-- Communication settings as they are written. -/
def CommunicationSettings.json (s : CommunicationSettings) : List Char :=
  Json.Text.object
    [ ("supports_multi_endpoint", Json.Text.bool s.supportsMultiEndpoint),
      ("fail_period_minutes", Json.Text.nat s.failPeriodMinutes.toNat),
      ("down_period_interval_minutes", Json.Text.nat s.downPeriodIntervalMinutes.toNat),
      ("min_down_period_minutes", Json.Text.nat s.minDownPeriodMinutes.toNat),
      ("max_requests_per_connection", Json.Text.nat s.maxRequestsPerConnection.toNat) ]

/-- A text or null as it is written. -/
def optionJson (s : Option String) : List Char :=
  Json.Text.option (s.map (Json.Text.string ·.toList))

/-- HTTP settings as they are written. -/
def HttpSettings.json (s : HttpSettings) : List Char :=
  Json.Text.object
    [ ("connect_timeout_seconds", Json.Text.nat s.connectTimeoutSeconds.toNat),
      ("socket_timeout_seconds", Json.Text.nat s.socketTimeoutSeconds.toNat),
      ("user_agent", Json.Text.string s.userAgent.toList),
      ("proxy_url", optionJson s.proxyUrl),
      ("max_response_bytes", Json.Text.nat s.maxResponseBytes.toNat) ]

/-- **A client's settings as they are written.** -/
def ClientSettings.json (s : ClientSettings) : List Char :=
  Json.Text.object
    [ ("communication", s.communication.json),
      ("http", s.http.json),
      ("agent_token", optionJson s.agentToken) ]

namespace Settings

open Json

/-! ## Fields -/

section Leaves

variable {ρ : Type} {part : (String → Bool) → ρ} {name : String} {text : List UInt8}

theorem supplies_flag {set : Bool → ρ → ρ} {b : Bool} (h : IsBool b text)
    (gives : ∀ given, set b (part given) = part fun n => n == name || given n) :
    (Leaf.jsonField { name, kind := .flag set }).Supplies part text := by
  obtain rfl := h
  refine ⟨set b, fun rest _ => ?_, gives⟩
  rw [tokens_bool]
  rfl

theorem supplies_number {bound : Nat} {set : Nat → ρ → ρ} {n : Nat} (h : IsNat n text)
    (fits : n < bound) (small : bound ≤ UInt64.size)
    (gives : ∀ given, set n (part given) = part fun n => n == name || given n) :
    (Leaf.jsonField { name, kind := .number bound set }).Supplies part text := by
  obtain rfl := h
  refine ⟨set n, fun rest delimited => ?_, gives⟩
  have read : readNat bound (.number (some (.int n)) :: tokens rest) = .ok (n, tokens rest) :=
    if_pos ⟨Int.natCast_nonneg n, Int.ofNat_lt.2 fits⟩
  rw [tokens_nat (Nat.lt_of_lt_of_le fits small) delimited]
  show (readNat bound _ >>= fun p => .ok (set p.1, p.2)) = _
  rw [read]
  rfl

theorem supplies_word64 {set : UInt64 → ρ → ρ} {x : UInt64} (h : IsNat x.toNat text)
    (gives : ∀ given, set x (part given) = part fun n => n == name || given n) :
    (Leaf.jsonField { name, kind := word64 set }).Supplies part text :=
  supplies_number h x.toNat_lt (Nat.le_refl _) (by simpa using gives)

theorem supplies_word32 {set : UInt32 → ρ → ρ} {x : UInt32} (h : IsNat x.toNat text)
    (gives : ∀ given, set x (part given) = part fun n => n == name || given n) :
    (Leaf.jsonField { name, kind := word32 set }).Supplies part text :=
  supplies_number h x.toNat_lt (by decide) (by simpa using gives)

theorem supplies_text {set : String → ρ → ρ} {s : String} (h : Spells s.toList text)
    (gives : ∀ given, set s (part given) = part fun n => n == name || given n) :
    (Leaf.jsonField { name, kind := .text set }).Supplies part text := by
  refine ⟨set s, fun rest _ => ?_, gives⟩
  rw [tokens_spells h]
  show Except.ok (set (String.ofList s.toList), tokens rest) = _
  rw [String.ofList_toList]

theorem supplies_optionalText {set : Option String → ρ → ρ} {s : Option String}
    (h : SpellsOption s text)
    (gives : ∀ given, set s (part given) = part fun n => n == name || given n) :
    (Leaf.jsonField { name, kind := .optionalText set }).Supplies part text := by
  refine ⟨set s, fun rest _ => ?_, gives⟩
  cases h with
  | null =>
    rw [tokens_null]
    rfl
  | @text s bs h =>
    rw [tokens_spells h]
    show Except.ok (set (some (String.ofList s.toList)), tokens rest) = _
    rw [String.ofList_toList]

/-- **A section is read** from an object with the fields that are not left out. -/
theorem supplies_part {τ : Type} {leaves : List (Leaf τ)} {contents : List Content} {default_ : τ}
    {inner : (String → Bool) → τ} {omitted : List String} {set : τ → ρ → ρ}
    (h : Partition (leaves.map Leaf.jsonField) contents default_ inner)
    (object : ObjectOf contents omitted text)
    (gives : ∀ given, set (inner (!omitted.contains ·)) (part given)
      = part fun n => n == name || given n) :
    (Member.jsonField (.part name leaves default_ set)).Supplies part text := by
  refine ⟨set (inner (!omitted.contains ·)), fun rest _ => ?_, gives⟩
  show (readRecord (leaves.map Leaf.jsonField) default_ _ >>= fun p => .ok (set p.1, p.2)) = _
  rw [readRecord_objectOf h object]
  rfl

end Leaves

/-! ## Records -/

theorem partition_communication (s : CommunicationSettings) :
    Partition (communicationLeaves.map Leaf.jsonField) s.contents {} s.only where
  nothing := rfl
  local_ := by
    intro given given' same
    simp [communicationLeaves, Leaf.jsonField] at same
    simp [CommunicationSettings.only, same]
  supplies := by
    refine .cons ⟨rfl, fun _ h => supplies_flag h fun _ => ?_⟩ <|
      .cons ⟨rfl, fun _ h => supplies_word64 h fun _ => ?_⟩ <|
      .cons ⟨rfl, fun _ h => supplies_word64 h fun _ => ?_⟩ <|
      .cons ⟨rfl, fun _ h => supplies_word64 h fun _ => ?_⟩ <|
      .cons ⟨rfl, fun _ h => supplies_word32 h fun _ => ?_⟩ .nil
    all_goals simp [CommunicationSettings.only]
  optional := by decide

theorem partition_http (s : HttpSettings) :
    Partition (httpLeaves.map Leaf.jsonField) s.contents {} s.only where
  nothing := rfl
  local_ := by
    intro given given' same
    simp [httpLeaves, Leaf.jsonField] at same
    simp [HttpSettings.only, same]
  supplies := by
    refine .cons ⟨rfl, fun _ h => supplies_word64 h fun _ => ?_⟩ <|
      .cons ⟨rfl, fun _ h => supplies_word64 h fun _ => ?_⟩ <|
      .cons ⟨rfl, fun _ h => supplies_text h fun _ => ?_⟩ <|
      .cons ⟨rfl, fun _ h => supplies_optionalText h fun _ => ?_⟩ <|
      .cons ⟨rfl, fun _ h => supplies_word64 h fun _ => ?_⟩ .nil
    all_goals simp [HttpSettings.only]
  optional := by decide

/-- **A client's settings are taken apart** into two sections and a token. The sections
are those without the fields that are left out. -/
theorem partition_client (s : ClientSettings) (o : Omission) :
    Partition (clientMembers.map Member.jsonField) (s.contents o) {}
      (ClientSettings.only
        { communication := s.communication.only (!o.communication.contains ·)
          http := s.http.only (!o.http.contains ·)
          agentToken := s.agentToken }) where
  nothing := rfl
  local_ := by
    intro given given' same
    simp [clientMembers, Member.jsonField, Leaf.jsonField] at same
    simp [ClientSettings.only, same]
  supplies := by
    refine .cons ⟨rfl, fun _ h => supplies_part (partition_communication _) h fun _ => ?_⟩ <|
      .cons ⟨rfl, fun _ h => supplies_part (partition_http _) h fun _ => ?_⟩ <|
      .cons ⟨rfl, fun _ h => supplies_optionalText h fun _ => ?_⟩ .nil
    all_goals simp [ClientSettings.only]
  optional := by decide

/-! ## Written settings -/

theorem isValue_bool {b : Bool} {text : List UInt8} (h : IsBool b text) : IsValue text :=
  h ▸ .bool b

theorem isValue_nat {n : Nat} {text : List UInt8} (h : IsNat n text) : IsValue text :=
  h ▸ .number (isNumber_nat n)

theorem isValue_option {s : Option String} {text : List UInt8} (h : SpellsOption s text) :
    IsValue text := by
  cases h with
  | null => exact .null
  | text h => exact .string h.isString

theorem spellsOption_optionJson (s : Option String) :
    SpellsOption s (Utf8.encode (optionJson s)) := by
  cases s with
  | none => exact .null
  | some s => exact .text (spells_string s.toList)

/-- What is written holds every field. -/
theorem objectOf_communication (s : CommunicationSettings) :
    ObjectOf s.contents [] (Utf8.encode s.json) := by
  refine objectOf_object ?_ ?_ (by simp)
  · exact .cons ⟨rfl, rfl⟩ <| .cons ⟨rfl, rfl⟩ <| .cons ⟨rfl, rfl⟩ <| .cons ⟨rfl, rfl⟩ <|
      .cons ⟨rfl, rfl⟩ .nil
  · simp only [List.forall_mem_cons]
    exact ⟨isValue_bool rfl, isValue_nat rfl, isValue_nat rfl, isValue_nat rfl, isValue_nat rfl,
      nofun⟩

theorem objectOf_http (s : HttpSettings) : ObjectOf s.contents [] (Utf8.encode s.json) := by
  refine objectOf_object ?_ ?_ (by simp)
  · exact .cons ⟨rfl, rfl⟩ <| .cons ⟨rfl, rfl⟩ <| .cons ⟨rfl, spells_string _⟩ <|
      .cons ⟨rfl, spellsOption_optionJson _⟩ <| .cons ⟨rfl, rfl⟩ .nil
  · simp only [List.forall_mem_cons]
    exact ⟨isValue_nat rfl, isValue_nat rfl, .string (spells_string _).isString,
      isValue_option (spellsOption_optionJson _), isValue_nat rfl, nofun⟩

/-- **What is written for a client's settings gives them**, and nothing is left out. -/
theorem givenBut_json (s : ClientSettings) : s.GivenBut ⟨[], [], []⟩ (Utf8.encode s.json) := by
  refine .of_object (objectOf_object ?_ ?_ (by simp))
  · exact .cons ⟨rfl, objectOf_communication _⟩ <| .cons ⟨rfl, objectOf_http _⟩ <|
      .cons ⟨rfl, spellsOption_optionJson _⟩ .nil
  · simp only [List.forall_mem_cons]
    exact ⟨(objectOf_communication _).isValue, (objectOf_http _).isValue,
      isValue_option (spellsOption_optionJson _), nofun⟩

/-- Settings without nothing are all settings. -/
theorem without_nothing (s : ClientSettings) : s.without ⟨[], [], []⟩ = s := rfl

/-! ## Reading -/

/-- **Partial settings override the defaults.** A JSON text that gives a client's
settings but for some fields, in any order and spelling and with whatever else in it, is
read as the settings without these fields. What is written for settings is read as
these settings. -/
theorem clientOfJson_of_part (s : ClientSettings) :
    (∀ o text, s.GivenBut o text → clientOfJson text = .ok (s.without o))
      ∧ clientOfJson (Utf8.encode s.json) = .ok s := by
  have reads (o : Omission) (text : List UInt8) (h : s.GivenBut o text) :
      clientOfJson text = .ok (s.without o) := by
    obtain ⟨before_, object, after_⟩ := h
    have nothing := tokens_blank after_ []
    rw [List.append_nil] at nothing
    unfold clientOfJson ofBytes
    rw [tokens_blank before_, readRecord_objectOf (partition_client s o) object, nothing]
    rfl
  refine ⟨reads, ?_⟩
  rw [reads _ _ (givenBut_json s), without_nothing]

/-- A text with one setting, an escape in it and something unknown before it. -/
theorem clientOfJson_of_part_rehearsed :
    clientOfJson (Utf8.encode
        "\x7b\"later\":[null],\"http\":\x7b\"user_agent\":\"\\u0041\"\x7d\x7d".toList)
      = .ok { http := { userAgent := "A" } } := by
  let s : ClientSettings := { http := { userAgent := "A" }, agentToken := some "token" }
  let o : Omission :=
    { own := ["communication", "agent_token"]
      communication := []
      http := ["connect_timeout_seconds", "socket_timeout_seconds", "proxy_url",
        "max_response_bytes"] }
  have digits : Hex4 0x41 [0x30, 0x30, 0x34, 0x31] :=
    .digits (w := 0) (x := 0) (y := 4) (z := 1) rfl rfl rfl rfl
  have agent : Spells "A".toList (Utf8.encode "\"\\u0041\"".toList) :=
    .quoted (.cons (.unit (c := 'A') digits) .nil)
  have http : ObjectOf s.http.contents o.http
      (Utf8.encode "\x7b\"user_agent\":\"\\u0041\"\x7d".toList) := by
    refine .entries (isObject_object [("user_agent", "\"\\u0041\"".toList)]) ?_ ?_ ?_
    · simpa using .string agent.isString
    · simp [s, o, HttpSettings.contents]
    · simpa [s, o, HttpSettings.contents] using agent
  have items : Enclosed Eq 0x5B 0x5D [Utf8.encode "null".toList]
      (Utf8.encode "[null]".toList) := .some (.singleton rfl)
  have later : IsValue (Utf8.encode "[null]".toList) := .array (by simpa using .null) items
  have object : ObjectOf (s.contents o) o.own (Utf8.encode
      "\x7b\"later\":[null],\"http\":\x7b\"user_agent\":\"\\u0041\"\x7d\x7d".toList) := by
    refine .entries (isObject_object [("later", "[null]".toList),
      ("http", "\x7b\"user_agent\":\"\\u0041\"\x7d".toList)]) ?_ ?_ ?_
    · simpa using ⟨later, http.isValue⟩
    · simp [s, o, ClientSettings.contents]
    · simpa [s, o, ClientSettings.contents] using http
  exact (clientOfJson_of_part s).1 o _ (.of_object object)

end Settings

end Uplink
