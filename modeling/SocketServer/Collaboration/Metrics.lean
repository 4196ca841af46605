import SocketServer.Collaboration.IdentityTables
import SocketServer.Collaboration.Server
import SocketServer.Library.Exposition

/-!
# What the metrics say

The hooks of `createCollaborationServer` report what happens to `CollaborationObservability`, and
`/metrics` prints its counters.  `metricValue` is the reader of
`collaboration/scripts/capacity-exercise.ts`, a multi-line regular expression and `Number`.

* `metricValue_render`: the reader gets every printed value back;
* `metrics_truthful`: after any reports in any order, it reads how many there were of each kind;
* `render_hides_rooms`: no Document Room name occurs in the text.
-/

namespace SocketServer.Collaboration

open SocketServer.Text SocketServer.Js SocketServer.Exposition

/-! ### The text as a list of metrics -/

def fullName (name : String) : List Char := "corta_collaboration_".toList ++ name.toList

/-- The metrics that `render` prints. -/
def CollaborationObservability.metrics (o : CollaborationObservability) (inst : Instance) :
    List Metric :=
  let gauge (name help : String) (value : ℕ) : Metric :=
    ⟨"gauge".toList, fullName name, help.toList, value⟩
  let counter (name help : String) (value : ℕ) : Metric :=
    ⟨"counter".toList, fullName (name ++ "_total"), help.toList, value⟩
  [gauge "active_rooms" "Active Document Rooms" inst.documentsCount,
    gauge "active_editing_sessions" "Active Editing Sessions" inst.connectionsCount,
    gauge "healthy" "Most recent collaboration dependency health result" o.healthy,
    counter "authentication_failures" "Rejected collaboration authentications"
      (o.counters .authenticationFailures),
    counter "load_failures" "Failed Document state loads" (o.counters .loadFailures),
    counter "store_failures" "Failed Document state stores" (o.counters .storeFailures),
    counter "reconnects" "Successful Editing Session reconnections" (o.counters .reconnects),
    counter "slow_editing_sessions" "Editing Sessions closed for excessive backpressure"
      (o.counters .slowEditingSessions),
    counter "health_checks" "Collaboration health checks" (o.counters .healthChecks),
    counter "health_failures" "Failed collaboration health checks"
      (o.counters .healthFailures)]

/-- The text of one metric, in terms of its full name. -/
theorem metric_def (type name help : String) (value : ℕ) :
    metric type name help value =
      "# HELP ".toList ++ fullName name ++ " ".toList ++ help.toList ++ "\n# TYPE ".toList ++
        fullName name ++ " ".toList ++ type.toList ++ "\n".toList ++ fullName name ++ " ".toList ++
        Nat.toDigits 10 value ++ "\n".toList := by
  delta metric
  exact rfl

theorem metric_eq (type name help : String) (value : ℕ) :
    metric type name help value =
      unlines (Metric.lines ⟨type.toList, fullName name, help.toList, value⟩) := by
  have htype : "\n# TYPE ".toList = ['\n'] ++ "# TYPE ".toList := rfl
  rw [metric_def, htype, show " ".toList = [' '] from rfl, show "\n".toList = ['\n'] from rfl]
  simp [unlines, Metric.lines]

/-- **`render` prints its metrics**, each in its lines. -/
theorem render_eq (o : CollaborationObservability) (inst : Instance) :
    o.render inst = text (o.metrics inst) := by
  simp only [CollaborationObservability.render, gauge, counter, metric_eq, text,
    CollaborationObservability.metrics, unlines, List.flatMap_cons, List.flatMap_nil,
    List.flatMap_append, List.flatten_cons, List.flatten_nil]

/-! ### Reading a value back -/

/-- `metricValue`; `none` is the error that the metric is missing. -/
def metricValue (body : List Char) (name : List Char) : Option JsNumber :=
  (findSample name body).map fun digits => number (utf16 digits)

/-- The names, types and helps of the metrics are fixed texts. -/
theorem metrics_labels (o : CollaborationObservability) (inst : Instance) :
    (o.metrics inst).map (fun m => (m.type, m.name, m.help)) =
      (CollaborationObservability.initial.metrics ⟨0, 0⟩).map (fun m => (m.type, m.name, m.help)) :=
  rfl

def plainLabel (label : List Char × List Char × List Char) : Bool :=
  !label.2.1.contains ' ' && label.2.1.head? == some 'c' &&
    (label.1 ++ label.2.1 ++ label.2.2).all fun c => !isLineTerminator c && c != ':'

theorem labels_plain : ((CollaborationObservability.initial.metrics ⟨0, 0⟩).map
    fun m => (m.type, m.name, m.help)).all plainLabel = true := by decide +kernel

theorem labels_nodup : ((CollaborationObservability.initial.metrics ⟨0, 0⟩).map
    fun m => (m.type, m.name, m.help)).map (·.2.1) |>.Nodup := by decide +kernel

theorem plainLabel_of_mem {o : CollaborationObservability} {inst : Instance} {m : Metric}
    (h : m ∈ o.metrics inst) : plainLabel (m.type, m.name, m.help) = true := by
  refine List.all_eq_true.mp labels_plain _ ?_
  rw [← metrics_labels o inst]
  exact List.mem_map_of_mem h

theorem metrics_plain {o : CollaborationObservability} {inst : Instance} {m : Metric}
    (h : m ∈ o.metrics inst) : m.Plain := by
  have hlabel := plainLabel_of_mem h
  simp only [plainLabel, Bool.and_eq_true, Bool.not_eq_true', List.contains_eq_mem,
    decide_eq_false_iff_not, beq_iff_eq, List.all_eq_true, bne_iff_ne] at hlabel
  obtain ⟨⟨hblank, hhead⟩, hline⟩ := hlabel
  obtain ⟨rest, hrest⟩ := List.head?_eq_some_iff.mp hhead
  exact ⟨⟨'c', rest, hrest, by decide⟩, hblank, fun c hc => (hline c hc).1⟩

theorem metrics_names_nodup (o : CollaborationObservability) (inst : Instance) :
    ((o.metrics inst).map (·.name)).Nodup := by
  have hnames := labels_nodup
  rw [← metrics_labels o inst, List.map_map] at hnames
  exact hnames

/-- The entry with a key that no other entry has. -/
theorem find?_of_nodup {α β : Type*} [DecidableEq β] {key : α → β} {as : List α}
    (h : (as.map key).Nodup) {a : α} (ha : a ∈ as) :
    (as.find? fun x => key x = key a) = some a := by
  induction as with
  | nil => exact absurd ha List.not_mem_nil
  | cons x as ih =>
      obtain ⟨hx, hrest⟩ := List.nodup_cons.mp h
      rw [List.find?_cons]
      rcases List.mem_cons.mp ha with rfl | hmem
      · rw [decide_eq_true rfl]
      · have hne : key x ≠ key a := fun heq => hx (heq ▸ List.mem_map_of_mem hmem)
        rw [decide_eq_false hne]
        exact ih hrest hmem

/-- **Every printed value is read back**, as the double nearest to it. -/
theorem metricValue_render (o : CollaborationObservability) (inst : Instance) {m : Metric}
    (h : m ∈ o.metrics inst) : metricValue (o.render inst) m.name = some (toDouble m.value) := by
  have hplain := metrics_plain h
  rw [metricValue, render_eq, findSample_text (fun n hn => metrics_plain hn) hplain.blank
    hplain.first, find?_of_nodup (metrics_names_nodup o inst) h, Option.map_some, Option.map_some,
    number_toDigits]

/-! ### What the hooks report -/

inductive Report where
  /-- `onAuthenticate`, `onLoadDocument` and `onStoreDocument` in their `catch` blocks. -/
  | authenticationFailed
  | loadFailed
  | storeFailed
  /-- The callback of `protectSlowEditingSession`. -/
  | slowSession
  /-- `refreshHealth`. -/
  | health (healthy : Bool)
  /-- `connected` and `onDisconnect`. -/
  | session (call : SessionCall)

def CollaborationObservability.report (o : CollaborationObservability) :
    Report → CollaborationObservability
  | .authenticationFailed => o.increment .authenticationFailures
  | .loadFailed => o.increment .loadFailures
  | .storeFailed => o.increment .storeFailures
  | .slowSession => o.increment .slowEditingSessions
  | .health healthy => o.healthResult healthy
  | .session call => o.call call

/-- The observability of a server after these reports. -/
def afterReports (reports : List Report) : CollaborationObservability :=
  reports.foldl CollaborationObservability.report .initial

/-- The reports that a counter counts; reconnections are told from the tables. -/
def Counter.counts : Counter → Report → Bool
  | .authenticationFailures, .authenticationFailed => true
  | .loadFailures, .loadFailed => true
  | .storeFailures, .storeFailed => true
  | .slowEditingSessions, .slowSession => true
  | .healthChecks, .health _ => true
  | .healthFailures, .health healthy => !healthy
  | _, _ => false

/-- The name under which a counter is printed. -/
def Counter.metricName : Counter → String
  | .authenticationFailures => "authentication_failures_total"
  | .healthChecks => "health_checks_total"
  | .healthFailures => "health_failures_total"
  | .loadFailures => "load_failures_total"
  | .reconnects => "reconnects_total"
  | .slowEditingSessions => "slow_editing_sessions_total"
  | .storeFailures => "store_failures_total"

def Report.healthy : Report → Option Bool
  | .health healthy => some healthy
  | _ => none

def Report.call : Report → Option SessionCall
  | .session call => some call
  | _ => none

theorem increment_counters (o : CollaborationObservability) (counter other : Counter) :
    (o.increment counter).counters other =
      o.counters other + if other = counter then 1 else 0 := by
  by_cases h : other = counter
  · rw [h, CollaborationObservability.increment_self, if_pos rfl]
  · rw [CollaborationObservability.increment_of_ne o h, if_neg h]
    rfl

/-- The calls of a session count reconnections only. -/
theorem call_counters (o : CollaborationObservability) (call : SessionCall) {counter : Counter}
    (h : counter ≠ .reconnects) : (o.call call).counters counter = o.counters counter := by
  cases call with
  | authenticated claims now =>
      rw [CollaborationObservability.call, CollaborationObservability.authenticated]
      dsimp only
      split
      · split
        · exact CollaborationObservability.increment_of_ne _ h
        · rfl
      · rfl
  | disconnected claims disconnectedAt now =>
      rw [CollaborationObservability.call, CollaborationObservability.disconnected]
      dsimp only
      split <;> rfl

theorem report_counters (o : CollaborationObservability) (report : Report) {counter : Counter}
    (h : counter ≠ .reconnects) :
    (o.report report).counters counter =
      o.counters counter + if counter.counts report then 1 else 0 := by
  cases report with
  | authenticationFailed =>
      rw [CollaborationObservability.report, increment_counters]
      cases counter <;> rfl
  | loadFailed =>
      rw [CollaborationObservability.report, increment_counters]
      cases counter <;> rfl
  | storeFailed =>
      rw [CollaborationObservability.report, increment_counters]
      cases counter <;> rfl
  | slowSession =>
      rw [CollaborationObservability.report, increment_counters]
      cases counter <;> rfl
  | health healthy =>
      rw [CollaborationObservability.report, CollaborationObservability.healthResult]
      cases healthy with
      | true =>
          show (o.increment .healthChecks).counters counter = _
          rw [increment_counters]
          cases counter <;> rfl
      | false =>
          show (CollaborationObservability.increment
            { o.increment .healthChecks with healthy := 0 } .healthFailures).counters counter = _
          rw [increment_counters, increment_counters]
          cases counter <;> rfl
  | session call =>
      rw [CollaborationObservability.report, call_counters o call h]
      cases counter <;> rfl

/-- **The counters count.** -/
theorem afterReports_counters (reports : List Report) {counter : Counter}
    (h : counter ≠ .reconnects) :
    (afterReports reports).counters counter = reports.countP counter.counts := by
  induction reports using List.reverseRecOn with
  | nil => rfl
  | append_singleton reports report ih =>
      rw [afterReports, List.foldl_append, List.foldl_cons, List.foldl_nil, ← afterReports,
        report_counters _ _ h, ih, List.countP_append, List.countP_cons, List.countP_nil,
        Nat.zero_add]

theorem afterReports_healthy (reports : List Report) :
    (afterReports reports).healthy =
      if (reports.reverse.findSome? Report.healthy).getD false then 1 else 0 := by
  induction reports using List.reverseRecOn with
  | nil => rfl
  | append_singleton reports report ih =>
      rw [afterReports, List.foldl_append, List.foldl_cons, List.foldl_nil, ← afterReports,
        List.reverse_append, List.reverse_singleton, List.singleton_append, List.findSome?_cons]
      have hcall : ∀ (o : CollaborationObservability) (call : SessionCall),
          (o.call call).healthy = o.healthy := by
        intro o call
        cases call with
        | authenticated claims now =>
            rw [CollaborationObservability.call, CollaborationObservability.authenticated]
            dsimp only
            split
            · split <;> rfl
            · rfl
        | disconnected claims disconnectedAt now =>
            rw [CollaborationObservability.call, CollaborationObservability.disconnected]
            dsimp only
            split <;> rfl
      cases report with
      | health healthy => cases healthy <;> rfl
      | session call => exact (hcall _ call).trans ih
      | authenticationFailed => exact ih
      | loadFailed => exact ih
      | storeFailed => exact ih
      | slowSession => exact ih

/-! ### Reconnections among the other reports -/

/-- The two agree on the tables and on what is told from them. -/
structure SameTables (o o' : CollaborationObservability) : Prop where
  active : o.activeIdentities = o'.activeIdentities
  recent : o.recentDisconnects = o'.recentDisconnects
  reconnects : o.counters .reconnects = o'.counters .reconnects

theorem SameTables.call {o o' : CollaborationObservability} (h : SameTables o o')
    (call : SessionCall) : SameTables (o.call call) (o'.call call) := by
  obtain ⟨counters, active, recent, healthy⟩ := o
  obtain ⟨counters', active', recent', healthy'⟩ := o'
  obtain ⟨rfl, rfl, hreconnects⟩ := h
  cases call with
  | authenticated claims now =>
      simp only [CollaborationObservability.call, CollaborationObservability.authenticated,
        CollaborationObservability.expireReconnects]
      by_cases hactive : (JsMap.get active (editingIdentity claims)).getD 0 = 0
      · by_cases hrecent : JsMap.has (expireFrom (now - 5 * 60000) recent)
            (editingIdentity claims) = true
        · simp only [if_pos hactive, hrecent, if_true]
          refine ⟨rfl, rfl, ?_⟩
          rw [increment_counters, increment_counters]
          exact congrArg (· + 1) hreconnects
        · simp only [if_pos hactive, hrecent, if_false, Bool.false_eq_true]
          exact ⟨rfl, rfl, hreconnects⟩
      · simp only [if_neg hactive]
        exact ⟨rfl, rfl, hreconnects⟩
  | disconnected claims disconnectedAt now =>
      simp only [CollaborationObservability.call, CollaborationObservability.disconnected,
        CollaborationObservability.expireReconnects]
      by_cases hlast : (JsMap.get active (editingIdentity claims)).getD 0 ≤ 1
      · simp only [if_pos hlast]
        exact ⟨rfl, rfl, hreconnects⟩
      · simp only [if_neg hlast]
        exact ⟨rfl, rfl, hreconnects⟩

/-- Reports from elsewhere leave the sessions' part alone. -/
theorem sameTables_afterReports (reports : List Report) :
    SameTables (afterReports reports) (observe (reports.filterMap Report.call)) := by
  have hincrement : ∀ {o o' : CollaborationObservability} (counter : Counter),
      counter ≠ .reconnects → SameTables o o' → SameTables (o.increment counter) o' :=
    fun counter hne h => ⟨h.active, h.recent,
      (CollaborationObservability.increment_of_ne _ hne.symm).trans h.reconnects⟩
  induction reports using List.reverseRecOn with
  | nil => exact ⟨rfl, rfl, rfl⟩
  | append_singleton reports report ih =>
      rw [afterReports, List.foldl_append, List.foldl_cons, List.foldl_nil, ← afterReports,
        List.filterMap_append]
      cases report with
      | session call =>
          rw [show [Report.session call].filterMap Report.call = [call] from rfl, observe_snoc]
          exact ih.call call
      | health healthy =>
          rw [show [Report.health healthy].filterMap Report.call = [] from rfl, List.append_nil]
          have hchecked := hincrement .healthChecks (by decide) ih
          cases healthy with
          | true => exact ⟨hchecked.active, hchecked.recent, hchecked.reconnects⟩
          | false =>
              exact hincrement .healthFailures (by decide)
                ⟨hchecked.active, hchecked.recent, hchecked.reconnects⟩
      | authenticationFailed =>
          exact (List.append_nil (reports.filterMap Report.call)).symm ▸
            hincrement .authenticationFailures (by decide) ih
      | loadFailed =>
          exact (List.append_nil (reports.filterMap Report.call)).symm ▸
            hincrement .loadFailures (by decide) ih
      | storeFailed =>
          exact (List.append_nil (reports.filterMap Report.call)).symm ▸
            hincrement .storeFailures (by decide) ih
      | slowSession =>
          exact (List.append_nil (reports.filterMap Report.call)).symm ▸
            hincrement .slowEditingSessions (by decide) ih

/-! ### What a reader of the metrics learns -/

theorem exists_metric (o : CollaborationObservability) (inst : Instance) (counter : Counter) :
    ∃ m ∈ o.metrics inst, m.name = fullName counter.metricName ∧ m.value = o.counters counter := by
  have hat : ∀ n (h : n < (o.metrics inst).length), (o.metrics inst)[n] ∈ o.metrics inst :=
    fun n h => List.getElem_mem h
  cases counter with
  | authenticationFailures => exact ⟨_, hat 3 (show 3 < 10 from by decide), rfl, rfl⟩
  | loadFailures => exact ⟨_, hat 4 (show 4 < 10 from by decide), rfl, rfl⟩
  | storeFailures => exact ⟨_, hat 5 (show 5 < 10 from by decide), rfl, rfl⟩
  | reconnects => exact ⟨_, hat 6 (show 6 < 10 from by decide), rfl, rfl⟩
  | slowEditingSessions => exact ⟨_, hat 7 (show 7 < 10 from by decide), rfl, rfl⟩
  | healthChecks => exact ⟨_, hat 8 (show 8 < 10 from by decide), rfl, rfl⟩
  | healthFailures => exact ⟨_, hat 9 (show 9 < 10 from by decide), rfl, rfl⟩

/-- **The metrics tell the truth.**  After any reports in any order, fewer than the integers that a
double counts exactly: a reader of the text finds under each counter's name the number of reports
of its kind, for reconnections those that the sessions' calls amount to, under `healthy` the last
health result, and the numbers of rooms and sessions of the instance. -/
theorem metrics_truthful {reports : List Report} (hcount : reports.length ≤ 2 ^ 53)
    (inst : Instance) :
    (∀ counter : Counter, counter ≠ .reconnects →
      metricValue ((afterReports reports).render inst) (fullName counter.metricName) =
        some (.finite (reports.countP counter.counts))) ∧
    metricValue ((afterReports reports).render inst) (fullName "reconnects_total") =
      some (toDouble ((observe (reports.filterMap Report.call)).counters .reconnects)) ∧
    metricValue ((afterReports reports).render inst) (fullName "healthy") =
      some (.finite (if (reports.reverse.findSome? Report.healthy).getD false then 1 else 0)) ∧
    metricValue ((afterReports reports).render inst) (fullName "active_rooms") =
      some (toDouble inst.documentsCount) ∧
    metricValue ((afterReports reports).render inst) (fullName "active_editing_sessions") =
      some (toDouble inst.connectionsCount) := by
  have hread : ∀ counter : Counter, metricValue ((afterReports reports).render inst)
      (fullName counter.metricName) = some (toDouble ((afterReports reports).counters counter)) := by
    intro counter
    obtain ⟨m, hm, hname, hvalue⟩ := exists_metric (afterReports reports) inst counter
    rw [← hname, metricValue_render _ _ hm, hvalue]
  have hat : ∀ n (h : n < ((afterReports reports).metrics inst).length),
      ((afterReports reports).metrics inst).get ⟨n, h⟩ ∈ (afterReports reports).metrics inst :=
    fun n h => List.getElem_mem h
  refine ⟨fun counter hne => ?_, ?_, ?_, ?_, ?_⟩
  · have hle : reports.countP counter.counts ≤ 2 ^ 53 := List.countP_le_length.trans hcount
    rw [hread, afterReports_counters reports hne, toDouble_nat hle]
  · rw [← (sameTables_afterReports reports).reconnects]
    exact hread .reconnects
  · have hvalue := metricValue_render (afterReports reports) inst
      (hat 2 (show 2 < 10 from by decide))
    refine hvalue.trans (congrArg some ?_)
    show toDouble ((afterReports reports).healthy : ℚ) = _
    rw [afterReports_healthy]
    split <;> decide +kernel
  · exact metricValue_render (afterReports reports) inst (hat 0 (show 0 < 10 from by decide))
  · exact metricValue_render (afterReports reports) inst (hat 1 (show 1 < 10 from by decide))

/-- A rejected authentication, a failed and a successful health check. -/
def sampleReports : List Report := [.authenticationFailed, .health false, .health true]

theorem metrics_truthful_sample :
    metricValue ((afterReports sampleReports).render ⟨3, 5⟩)
        (fullName "authentication_failures_total") = some (.finite 1) ∧
      metricValue ((afterReports sampleReports).render ⟨3, 5⟩) (fullName "healthy") =
        some (.finite 1) := by
  obtain ⟨hcounters, -, hhealthy, -, -⟩ := @metrics_truthful sampleReports (by decide) ⟨3, 5⟩
  exact ⟨hcounters .authenticationFailures (by decide), hhealthy⟩

/-! ### No identities -/

theorem colon_not_mem_render (o : CollaborationObservability) (inst : Instance) :
    ':' ∉ o.render inst := by
  rw [render_eq]
  intro h
  obtain ⟨line, hline, hc⟩ := List.mem_flatMap.mp h
  obtain ⟨m, hm, hmem⟩ := List.mem_flatMap.mp hline
  have hlabel := plainLabel_of_mem hm
  simp only [plainLabel, Bool.and_eq_true, List.all_eq_true, bne_iff_ne] at hlabel
  have hpart : ∀ c, c ∈ m.type ∨ c ∈ m.name ∨ c ∈ m.help → c ≠ ':' := by
    intro c hc
    exact (hlabel.2 c (by simpa [or_assoc] using hc)).2
  have hdigit : ∀ c ∈ Nat.toDigits 10 m.value, c ≠ ':' := by
    rintro c hc rfl
    exact absurd (isDigit_toDigits hc) (by decide)
  have hhelp : ':' ∉ "# HELP ".toList := by decide
  have htype : ':' ∉ "# TYPE ".toList := by decide
  simp only [Metric.lines, List.mem_cons, List.not_mem_nil, or_false] at hmem
  rcases hmem with rfl | rfl | rfl
  · simp only [List.mem_append, List.mem_cons, List.not_mem_nil, or_false] at hc
    rcases hc with ((hc | hc) | hc | hc) | hc
    · exact hhelp hc
    · exact hpart ':' (Or.inr (Or.inl hc)) rfl
    · cases hc
    · exact hpart ':' (Or.inr (Or.inr hc)) rfl
    · cases hc
  · simp only [List.mem_append, List.mem_cons, List.not_mem_nil, or_false] at hc
    rcases hc with ((hc | hc) | hc | hc) | hc
    · exact htype hc
    · exact hpart ':' (Or.inr (Or.inl hc)) rfl
    · cases hc
    · exact hpart ':' (Or.inl hc) rfl
    · cases hc
  · simp only [List.mem_append, List.mem_cons, List.not_mem_nil, or_false] at hc
    rcases hc with (hc | hc | hc) | hc
    · exact hpart ':' (Or.inr (Or.inl hc)) rfl
    · cases hc
    · exact hdigit ':' hc rfl
    · cases hc

/-- **The metrics name no room**, nor any other identity with a colon in it. -/
theorem render_hides_rooms (o : CollaborationObservability) (inst : Instance)
    (room : DocumentRoom) : ¬ documentRoomName room <:+: utf16 (o.render inst) := by
  intro h
  have hcolon : unit ':' ∈ documentRoomName room :=
    List.mem_append_left _ (List.mem_append_right _ (by decide))
  exact colon_not_mem_render o inst (mem_of_unit_mem_utf16 (by decide) (h.subset hcolon))

end SocketServer.Collaboration
