import SocketServer.Collaboration.Config
import SocketServer.Library.Decimal
import SocketServer.Library.JsMap

/-!
# Configurations and environments

`loadConfig` reads a configuration from the environment of the process.  Here it is written back.

* `loadConfig_eq_ok`: what an environment has to satisfy for a configuration to be loaded from it;
* `CollaborationConfig.environment`: a configuration, written as an environment;
* `loadConfig_range`: the configurations that some environment has are the valid ones, and each of
  them is loaded back from the environment it is written as;
* `loadConfig_error`: a refusal begins with the name of the variable that it is about.
-/

namespace SocketServer.Collaboration

open SocketServer.Text SocketServer.Js SocketServer.Checks

/-! ### The variables -/

/-- A variable with its default, and the field it is read into. -/
structure Variable (α : Type) where
  name : String
  fallback : α
  field : CollaborationConfig → α

/-- The variables that hold a positive integer. -/
def limitVariables : List (Variable ℕ) :=
  [⟨"COLLABORATION_MAX_DOCUMENT_BYTES", 6 * 1024 * 1024, (·.maxDocumentBytes)⟩,
    ⟨"COLLABORATION_MAX_WEBSOCKET_MESSAGE_BYTES", 6 * 1024 * 1024, (·.maxWebSocketMessageBytes)⟩,
    ⟨"COLLABORATION_AUTHENTICATION_TIMEOUT_MS", 60000, (·.authenticationTimeout)⟩,
    ⟨"COLLABORATION_DEPENDENCY_TIMEOUT_MS", 2000, (·.dependencyTimeout)⟩,
    ⟨"COLLABORATION_MAX_AUTHENTICATED_QUEUE_BYTES", 12 * 1024 * 1024,
      (·.maxAuthenticatedQueueBytes)⟩,
    ⟨"COLLABORATION_MAX_AUTHENTICATED_QUEUE_MESSAGES", 64, (·.maxAuthenticatedQueueMessages)⟩,
    ⟨"COLLABORATION_MAX_BACKPRESSURE_BYTES", 8 * 1024 * 1024, (·.maxBackpressureBytes)⟩,
    ⟨"COLLABORATION_MAX_PENDING_DOCUMENTS", 1, (·.maxPendingDocuments)⟩,
    ⟨"COLLABORATION_MAX_PERSISTENCE_RESPONSE_BYTES", 16 * 1024 * 1024,
      (·.maxPersistenceResponseBytes)⟩,
    ⟨"COLLABORATION_MAX_UNAUTHENTICATED_QUEUE_BYTES", 256 * 1024, (·.maxUnauthenticatedQueueBytes)⟩,
    ⟨"COLLABORATION_MAX_UNAUTHENTICATED_QUEUE_MESSAGES", 64, (·.maxUnauthenticatedQueueMessages)⟩,
    ⟨"COLLABORATION_PERSISTENCE_DEBOUNCE_MS", 2000, (·.persistenceDebounce)⟩,
    ⟨"COLLABORATION_PERSISTENCE_MAX_DEBOUNCE_MS", 10000, (·.persistenceMaxDebounce)⟩]

/-- The variables that are taken as they are. -/
def textVariables : List (Variable JsString) :=
  [⟨"COLLABORATION_HOST", js "0.0.0.0", (·.address)⟩,
    ⟨"COLLABORATION_SERVICE_SECRET", defaultCollaborationServiceSecret,
      (·.collaborationServiceSecret)⟩,
    ⟨"CORE_API_INTERNAL_URL", js "http://127.0.0.1:8080", (·.coreAPIURL)⟩,
    ⟨"REDIS_URL", js "redis://127.0.0.1:6379/0", (·.redisURL)⟩,
    ⟨"JWT_SECRET", defaultTicketSecret, (·.ticketSecret)⟩]

/-- The relations between limits. -/
structure CollaborationConfig.Related (config : CollaborationConfig) : Prop where
  message : config.maxDocumentBytes ≤ config.maxWebSocketMessageBytes
  response : base64Length config.maxDocumentBytes ≤ config.maxPersistenceResponseBytes
  debounce : config.persistenceDebounce ≤ config.persistenceMaxDebounce

/-- Every field is what its variable is read as. -/
structure Loaded (environment : Environment) (config : CollaborationConfig) : Prop where
  limits : ∀ v ∈ limitVariables, readLimit environment v.name v.fallback = .ok (v.field config)
  texts : ∀ v ∈ textVariables, (environment v.name).getD v.fallback = v.field config
  origins : readOrigins (environment "SOCKET_ALLOWED_ORIGINS") = .ok config.allowedOrigins
  port : readPort (environment "COLLABORATION_PORT") = .ok config.port

/-- **What `loadConfig` accepts.** -/
theorem loadConfig_eq_ok {environment : Environment} {config : CollaborationConfig} :
    loadConfig environment = .ok config ↔ Loaded environment config ∧ config.Related := by
  constructor
  · intro h
    unfold loadConfig at h
    simp only [bind_eq_ok, rejectIf_eq_ok, not_lt] at h
    obtain ⟨maxDocumentBytes, h1, maxWebSocketMessageBytes, h2, -, hmessage, allowedOrigins,
      horigins, authenticationTimeout, h3, dependencyTimeout, h4, maxAuthenticatedQueueBytes, h5,
      maxAuthenticatedQueueMessages, h6, maxBackpressureBytes, h7, maxPendingDocuments, h8,
      maxPersistenceResponseBytes, h9, maxUnauthenticatedQueueBytes, h10,
      maxUnauthenticatedQueueMessages, h11, persistenceDebounce, h12, persistenceMaxDebounce, h13,
      port, hport, -, hresponse, -, hdebounce, hreturn⟩ := h
    cases hreturn
    refine ⟨⟨?_, ?_, horigins, hport⟩, hmessage, hresponse, hdebounce⟩
    · simp only [limitVariables, List.forall_mem_cons]
      exact ⟨h1, h2, h3, h4, h5, h6, h7, h8, h9, h10, h11, h12, h13, nofun⟩
    · simp only [textVariables, List.forall_mem_cons]
      exact ⟨trivial, trivial, trivial, trivial, trivial, nofun⟩
  · rintro ⟨⟨hlimits, htexts, horigins, hport⟩, hmessage, hresponse, hdebounce⟩
    simp only [limitVariables, List.forall_mem_cons] at hlimits
    obtain ⟨h1, h2, h3, h4, h5, h6, h7, h8, h9, h10, h11, h12, h13, -⟩ := hlimits
    simp only [textVariables, List.forall_mem_cons] at htexts
    obtain ⟨hhost, hservice, hcore, hredis, hticket, -⟩ := htexts
    unfold loadConfig
    simp only [bind_eq_ok, rejectIf_eq_ok, not_lt]
    refine ⟨_, h1, _, h2, (), hmessage, _, horigins, _, h3, _, h4, _, h5, _, h6, _, h7, _, h8, _,
      h9, _, h10, _, h11, _, h12, _, h13, _, hport, (), hresponse, (), hdebounce, ?_⟩
    rw [hhost, hservice, hcore, hredis, hticket]
    rfl

/-! ### What is accepted -/

/-- What a text for a positive integer has to be. -/
theorem readPositiveInteger_some {text : JsString} {name : String} {fallback n : ℕ} :
    readPositiveInteger (some text) name fallback = .ok n ↔
      number text = .finite n ∧ 0 < n ∧ n < 2 ^ 53 := by
  constructor
  · intro h
    unfold readPositiveInteger at h
    dsimp only at h
    split at h
    · rename_i parsed hnumber
      split at h
      · cases h
      · rename_i hok
        cases h
        obtain ⟨hsafe, hpos⟩ := not_or.mp hok
        rw [not_not] at hsafe
        obtain ⟨hvalue, hnum⟩ :=
          eq_natCast_of_isInteger (isSafeInteger_iff.mp hsafe).1 (not_le.mp hpos)
        rw [hvalue] at hsafe
        exact ⟨hnumber.trans (congrArg JsNumber.finite hvalue), hnum,
          isSafeInteger_natCast.mp hsafe⟩
    · cases h
  · rintro ⟨hnumber, hpos, hsmall⟩
    unfold readPositiveInteger
    dsimp only
    rw [hnumber]
    dsimp only
    rw [if_neg (not_or.mpr ⟨not_not.mpr (isSafeInteger_natCast.mpr hsmall),
      not_le.mpr (Nat.cast_pos.mpr hpos)⟩), Rat.num_natCast, Int.toNat_natCast]

theorem readPort_some {text : JsString} {n : ℕ} :
    readPort (some text) = .ok n ↔ number text = .finite n ∧ 1 ≤ n ∧ n ≤ 65535 := by
  constructor
  · intro h
    unfold readPort at h
    dsimp only at h
    split at h
    · rename_i port hnumber
      split at h
      · cases h
      · rename_i hok
        cases h
        obtain ⟨hinteger, hrange⟩ := not_or.mp hok
        obtain ⟨hlow, hhigh⟩ := not_or.mp hrange
        have hpos : 0 < port := one_pos.trans_le (not_lt.mp hlow)
        obtain ⟨hvalue, hnum⟩ := eq_natCast_of_isInteger (not_not.mp hinteger) hpos
        rw [hvalue, not_lt] at hhigh
        exact ⟨hnumber.trans (congrArg JsNumber.finite hvalue), hnum, by exact_mod_cast hhigh⟩
    · cases h
  · rintro ⟨hnumber, hlow, hhigh⟩
    have hone : (1 : ℚ) ≤ n := by exact_mod_cast hlow
    have hlast : (n : ℚ) ≤ 65535 := by exact_mod_cast hhigh
    unfold readPort
    dsimp only
    rw [hnumber]
    dsimp only
    rw [if_neg (not_or.mpr ⟨not_not.mpr (isInteger_natCast n),
      not_or.mpr ⟨not_lt.mpr hone, not_lt.mpr hlast⟩⟩), Rat.num_natCast, Int.toNat_natCast]

/-- An entry of the list of origins, as it is kept. -/
structure IsOrigin (origin : JsString) : Prop where
  nonempty : origin ≠ []
  trimmed : trim origin = origin
  comma : unit ',' ∉ origin

theorem readOrigins_some {text : JsString} {origins : List JsString} :
    readOrigins (some text) = .ok origins ↔
      origins = ((split ',' text).map trim).filter (· ≠ []) ∧ origins ≠ [] := by
  unfold readOrigins
  dsimp only
  split
  · rename_i hempty
    refine ⟨nofun, fun h => absurd (h.1.trans hempty) h.2⟩
  · rename_i hne
    constructor
    · intro h
      cases h
      exact ⟨rfl, hne⟩
    · intro h
      rw [h.1]

theorem isOrigin_of_read {value : Option JsString} {origins : List JsString}
    (h : readOrigins value = .ok origins) :
    origins ≠ [] ∧ ∀ origin ∈ origins, IsOrigin origin := by
  cases value with
  | none =>
      cases h
      have hall : ∀ origin ∈ defaultAllowedOrigins,
          origin ≠ [] ∧ trim origin = origin ∧ unit ',' ∉ origin := by decide +kernel
      refine ⟨List.cons_ne_nil _ _, fun origin horigin => ?_⟩
      obtain ⟨hne, htrim, hcomma⟩ := hall origin horigin
      exact ⟨hne, htrim, hcomma⟩
  | some text =>
      obtain ⟨rfl, hne⟩ := readOrigins_some.mp h
      refine ⟨hne, fun origin horigin => ?_⟩
      obtain ⟨hmem, hnonempty⟩ := List.mem_filter.mp horigin
      obtain ⟨piece, hpiece, rfl⟩ := List.mem_map.mp hmem
      exact ⟨of_decide_eq_true hnonempty, trim_trim piece,
        fun hcomma => separator_not_mem hpiece (mem_of_mem_trim hcomma)⟩

/-- **A list of origins is read back** from its entries with commas between them. -/
theorem readOrigins_intercalate {origins : List JsString} (hne : origins ≠ [])
    (h : ∀ origin ∈ origins, IsOrigin origin) :
    readOrigins (some ([unit ','].intercalate origins)) = .ok origins := by
  have hsplit : split ',' ([unit ','].intercalate origins) = origins :=
    List.splitOn_intercalate _ (fun origin horigin => (h origin horigin).comma) hne
  have htrim : origins.map trim = origins := by
    conv_rhs => rw [← List.map_id origins]
    exact List.map_congr_left fun origin horigin => (h origin horigin).trimmed
  have hfilter : origins.filter (· ≠ []) = origins :=
    List.filter_eq_self.mpr fun origin horigin => decide_eq_true (h origin horigin).nonempty
  rw [readOrigins_some, hsplit, htrim, hfilter]
  exact ⟨rfl, hne⟩

/-! ### The configurations there are -/

/-- A configuration that can be loaded. -/
structure CollaborationConfig.Valid (config : CollaborationConfig) : Prop where
  limits : ∀ v ∈ limitVariables, 0 < v.field config ∧ v.field config < 2 ^ 53
  origins : config.allowedOrigins ≠ [] ∧ ∀ origin ∈ config.allowedOrigins, IsOrigin origin
  port : 1 ≤ config.port ∧ config.port ≤ 65535
  related : config.Related

/-- Every default passes the check of its variable. -/
theorem fallback_bounds : ∀ v ∈ limitVariables, 0 < v.fallback ∧ v.fallback < 2 ^ 53 := by
  simp only [limitVariables, List.forall_mem_cons]
  refine ⟨?_, ?_, ?_, ?_, ?_, ?_, ?_, ?_, ?_, ?_, ?_, ?_, ?_, nofun⟩ <;> decide

theorem valid_of_loaded {environment : Environment} {config : CollaborationConfig}
    (h : loadConfig environment = .ok config) : config.Valid := by
  obtain ⟨hloaded, hrelated⟩ := loadConfig_eq_ok.mp h
  refine ⟨fun v hv => ?_, isOrigin_of_read hloaded.origins, ?_, hrelated⟩
  · have hread := hloaded.limits v hv
    rw [readLimit] at hread
    cases hvalue : environment v.name with
    | none =>
        rw [hvalue] at hread
        rw [← Except.ok.inj hread]
        exact fallback_bounds v hv
    | some text =>
        rw [hvalue] at hread
        exact (readPositiveInteger_some.mp hread).2
  · have hread := hloaded.port
    cases hvalue : environment "COLLABORATION_PORT" with
    | none =>
        rw [hvalue] at hread
        rw [← Except.ok.inj hread]
        exact ⟨by decide, by decide⟩
    | some text =>
        rw [hvalue] at hread
        exact (readPort_some.mp hread).2

/-! ### Writing a configuration -/

def CollaborationConfig.variables (config : CollaborationConfig) : JsMap String JsString :=
  limitVariables.map (fun v => (v.name, utf16 (Nat.toDigits 10 (v.field config)))) ++
    textVariables.map (fun v => (v.name, v.field config)) ++
    [("SOCKET_ALLOWED_ORIGINS", [unit ','].intercalate config.allowedOrigins),
      ("COLLABORATION_PORT", utf16 (Nat.toDigits 10 config.port))]

/-- The environment that sets these variables and no other. -/
def CollaborationConfig.environment (config : CollaborationConfig) : Environment :=
  config.variables.get

/-- The names of the variables, in the order of `variables`. -/
def variableNames : List String :=
  limitVariables.map (·.name) ++ textVariables.map (·.name) ++
    ["SOCKET_ALLOWED_ORIGINS", "COLLABORATION_PORT"]

theorem variableNames_nodup : variableNames.Nodup := by decide +kernel

theorem CollaborationConfig.environment_of_mem {config : CollaborationConfig} {name : String}
    {value : JsString} (h : (name, value) ∈ config.variables) :
    config.environment name = some value := by
  have hdistinct : JsMap.Distinct config.variables := by
    rw [JsMap.Distinct, JsMap.keys, CollaborationConfig.variables, List.map_append,
      List.map_append, List.map_map, List.map_map]
    exact variableNames_nodup
  exact (JsMap.get_eq_some hdistinct).mpr h

theorem loaded_environment {config : CollaborationConfig} (h : config.Valid) :
    Loaded config.environment config where
  limits v hv := by
    have hmem : (v.name, utf16 (Nat.toDigits 10 (v.field config))) ∈ config.variables :=
      List.mem_append_left _ (List.mem_append_left _ (List.mem_map_of_mem hv))
    obtain ⟨hpos, hsmall⟩ := h.limits v hv
    rw [readLimit, CollaborationConfig.environment_of_mem hmem, readPositiveInteger_some,
      number_toDigits, toDouble_nat hsmall.le]
    exact ⟨rfl, hpos, hsmall⟩
  texts v hv := by
    have hmem : (v.name, v.field config) ∈ config.variables :=
      List.mem_append_left _ (List.mem_append_right _ (List.mem_map_of_mem hv))
    rw [CollaborationConfig.environment_of_mem hmem]
    rfl
  origins := by
    have hmem : ("SOCKET_ALLOWED_ORIGINS", [unit ','].intercalate config.allowedOrigins) ∈
        config.variables := List.mem_append_right _ List.mem_cons_self
    rw [CollaborationConfig.environment_of_mem hmem]
    exact readOrigins_intercalate h.origins.1 h.origins.2
  port := by
    have hmem : ("COLLABORATION_PORT", utf16 (Nat.toDigits 10 config.port)) ∈ config.variables :=
      List.mem_append_right _ (List.mem_cons_of_mem _ List.mem_cons_self)
    obtain ⟨hlow, hhigh⟩ := h.port
    rw [CollaborationConfig.environment_of_mem hmem, readPort_some, number_toDigits,
      toDouble_nat (by omega)]
    exact ⟨rfl, hlow, hhigh⟩

/-- **The configurations of the server.**  A configuration is loaded from some environment exactly
when it is valid: its limits are safe integers above zero and keep to the three relations, its port
is one, and its origins are trimmed texts without commas, at least one of them.  Every valid
configuration is loaded from the environment it is written as. -/
theorem loadConfig_range (config : CollaborationConfig) :
    ((∃ environment, loadConfig environment = .ok config) ↔ config.Valid) ∧
      (loadConfig config.environment = .ok config ↔ config.Valid) := by
  have hwritten : config.Valid → loadConfig config.environment = .ok config :=
    fun h => loadConfig_eq_ok.mpr ⟨loaded_environment h, h.related⟩
  refine ⟨⟨?_, fun h => ⟨_, hwritten h⟩⟩, valid_of_loaded, hwritten⟩
  intro h
  obtain ⟨environment, hload⟩ := h
  exact valid_of_loaded hload

/-! ### Refusals -/

/-- A step whose errors begin with the name of a variable. -/
def NamesVariable {α : Type} (step : Except String α) : Prop :=
  ∀ message, step = .error message → ∃ name ∈ variableNames, name.toList <+: message.toList

theorem NamesVariable.bind {α β : Type} {step : Except String α} {next : α → Except String β}
    (h : NamesVariable step) (hnext : ∀ a, NamesVariable (next a)) : NamesVariable (step >>= next) := by
  intro message herror
  obtain hfirst | ⟨a, -, hlater⟩ := bind_eq_error.mp herror
  · exact h message hfirst
  · exact hnext a message hlater

theorem namesVariable_rejectIf {p : Prop} [Decidable p] {message : String} (name : String)
    (hname : name ∈ variableNames) (h : name.toList <+: message.toList) :
    NamesVariable (rejectIf p message) := by
  intro message' herror
  unfold rejectIf at herror
  split at herror
  · cases herror
    exact ⟨name, hname, h⟩
  · cases herror

theorem namesVariable_readLimit {environment : Environment} {name : String} {fallback : ℕ}
    (hname : name ∈ variableNames) : NamesVariable (readLimit environment name fallback) := by
  intro message herror
  have hmessage : message = name ++ " must be a positive integer" := by
    unfold readLimit readPositiveInteger at herror
    split at herror
    · cases herror
    · split at herror
      · split at herror
        · exact (Except.error.inj herror).symm
        · cases herror
      · exact (Except.error.inj herror).symm
  refine ⟨name, hname, ?_⟩
  rw [hmessage, String.toList_append]
  exact List.prefix_append _ _

theorem namesVariable_readOrigins (value : Option JsString) : NamesVariable (readOrigins value) := by
  intro message herror
  refine ⟨"SOCKET_ALLOWED_ORIGINS", by decide +kernel, ?_⟩
  unfold readOrigins at herror
  split at herror
  · cases herror
  · dsimp only at herror
    split at herror
    · cases herror
      decide +kernel
    · cases herror

theorem namesVariable_readPort (value : Option JsString) : NamesVariable (readPort value) := by
  intro message herror
  refine ⟨"COLLABORATION_PORT", by decide +kernel, ?_⟩
  unfold readPort at herror
  split at herror
  · cases herror
  · split at herror
    · split at herror
      · cases herror
        decide +kernel
      · cases herror
    · cases herror
      decide +kernel

/-- **A refusal begins with the name of a variable.** -/
theorem loadConfig_error {environment : Environment} {message : String}
    (h : loadConfig environment = .error message) :
    ∃ name ∈ variableNames, name.toList <+: message.toList := by
  have hlimit : ∀ v ∈ limitVariables, NamesVariable (readLimit environment v.name v.fallback) :=
    fun v hv => namesVariable_readLimit (List.mem_append_left _ (List.mem_append_left _
      (List.mem_map_of_mem hv)))
  simp only [limitVariables, List.forall_mem_cons] at hlimit
  obtain ⟨h1, h2, h3, h4, h5, h6, h7, h8, h9, h10, h11, h12, h13, -⟩ := hlimit
  have hnames : NamesVariable (loadConfig environment) := by
    unfold loadConfig
    refine h1.bind fun _ => h2.bind fun _ => ?_
    refine (namesVariable_rejectIf "COLLABORATION_MAX_WEBSOCKET_MESSAGE_BYTES"
      (by decide +kernel) (by decide +kernel)).bind fun _ => ?_
    refine (namesVariable_readOrigins _).bind fun _ => ?_
    refine h3.bind fun _ => h4.bind fun _ => h5.bind fun _ => h6.bind fun _ => h7.bind fun _ => ?_
    refine h8.bind fun _ => h9.bind fun _ => h10.bind fun _ => h11.bind fun _ => ?_
    refine h12.bind fun _ => h13.bind fun _ => ?_
    refine (namesVariable_readPort _).bind fun _ => ?_
    refine (namesVariable_rejectIf "COLLABORATION_MAX_PERSISTENCE_RESPONSE_BYTES"
      (by decide +kernel) (by decide +kernel)).bind fun _ => ?_
    refine (namesVariable_rejectIf "COLLABORATION_PERSISTENCE_MAX_DEBOUNCE_MS"
      (by decide +kernel) (by decide +kernel)).bind fun _ => ?_
    exact fun _ => nofun
  exact hnames message h

end SocketServer.Collaboration
