import LogQuery.Proofs.DatasetRows

/-!
# Invariants of the practice dataset

What every practice dataset shows, whatever its seed (`hasInvariants_ofSeed`): its tables with the
numbers of their rows, the columns of each table, and for the columns with drawn values what these
values can be. All of it follows from what the rows of each table are.
-/

namespace LogQuery.Dataset

open LogQuery.Random

/-! ## Shown values -/

/-- A row shows an instant before the present, at most so many milliseconds before it. -/
def IsTimedWithin (window : Nat) (row : Record) : Prop :=
  ∃ instant, instant < present ∧ present ≤ instant + window ∧
    row.get? "TimeGenerated" = some (.string (String.ofList (Time.isoText instant)))

/-- A row shows the outcome of a sign-in: success or the one failure. -/
def ShowsResultType (row : Record) : Prop :=
  row.get? "ResultType" = some (.integer 0) ∨ row.get? "ResultType" = some (.integer 50126)

/-- A row shows an identifier of version four. -/
def ShowsIdentifier (row : Record) : Prop :=
  ∃ text : String, row.get? "CorrelationId" = some (.string text) ∧ text.length = 36 ∧
    IsIdentifier text.toList

/-- A time that was drawn back from the present lies in the window it was drawn from. -/
theorem isTimedWithin_of_timeBefore {window back : Nat} {row : Record} (hback : back < window)
    (hwindow : window ≤ present)
    (h : row.get? "TimeGenerated" = some (.string (timeBefore back))) :
    IsTimedWithin window row := by
  refine ⟨present - (back + 1), ?_, ?_, h⟩
  all_goals omega

/-! ## Sign-ins -/

/-- The columns of every sign-in. -/
def signinColumns : List String :=
  ["TimeGenerated", "UserPrincipalName", "ResultType", "IPAddress", "UserAgent", "AppDisplayName",
    "CorrelationId"]

section

variable {rows : List Record}

theorem AreSignins.names_eq (h : AreSignins rows) : ∀ row ∈ rows, row.names = signinColumns := by
  obtain ⟨drawn, -, -, hshown⟩ := h
  refine forall_mem_of_forall₂ hshown ?_
  rintro s _ ⟨correlation, -, rfl⟩
  rfl

theorem AreSignins.showsIdentifier (h : AreSignins rows) : ∀ row ∈ rows, ShowsIdentifier row := by
  obtain ⟨drawn, -, -, hshown⟩ := h
  refine forall_mem_of_forall₂ hshown ?_
  rintro s _ ⟨correlation, hcorrelation, rfl⟩
  exact ⟨correlation, rfl, by rw [← String.length_toList, hcorrelation.length_eq], hcorrelation⟩

theorem AreSignins.showsResultType (h : AreSignins rows) : ∀ row ∈ rows, ShowsResultType row := by
  obtain ⟨drawn, -, hdrawn, hshown⟩ := h
  have hfixed : ∀ s ∈ fixedSignins, s.resultType = 0 ∨ s.resultType = 50126 := by decide
  have hall : ∀ s ∈ fixedSignins ++ drawn, s.resultType = 0 ∨ s.resultType = 50126 :=
    List.forall_mem_append.mpr ⟨hfixed, fun s hs => (hdrawn s hs).resultType⟩
  refine forall_mem_of_forall₂ ((List.forall₂_and_left _ _).mpr ⟨hall, hshown⟩) ?_
  rintro s _ ⟨hs, correlation, -, rfl⟩
  rcases hs with hs | hs
  · exact .inl (congrArg (fun n => some (Value.integer n)) hs)
  · exact .inr (congrArg (fun n => some (Value.integer n)) hs)

/-- The sign-ins behind those placed by hand lie in the week before the present. -/
theorem AreSignins.isTimedWithin_drop (h : AreSignins rows) :
    ∀ row ∈ rows.drop 8, IsTimedWithin week row := by
  obtain ⟨drawn, -, hdrawn, hshown⟩ := h
  have hrest : List.Forall₂ Signin.ShownBy drawn (rows.drop 8) := List.forall₂_drop 8 hshown
  refine forall_mem_of_forall₂ ((List.forall₂_and_left _ _).mpr ⟨hdrawn, hrest⟩) ?_
  rintro s _ ⟨hs, correlation, -, rfl⟩
  obtain ⟨back, hback, htime⟩ := hs.time
  refine isTimedWithin_of_timeBefore hback (by decide) ?_
  rw [← htime]
  rfl

/-! ## Security events -/

/-- The columns of every security event. -/
def eventColumns : List String := ["TimeGenerated", "EventID", "Activity", "Computer", "Account"]

theorem AreSecurityEvents.length_eq (h : AreSecurityEvents rows) : rows.length = 100 := by
  obtain ⟨drawn, hlength, -, rfl⟩ := h
  rw [List.length_append, hlength]
  rfl

theorem AreSecurityEvents.names_eq (h : AreSecurityEvents rows) :
    ∀ row ∈ rows, row.names = eventColumns := by
  obtain ⟨drawn, -, hdrawn, rfl⟩ := h
  rw [List.forall_mem_append]
  refine ⟨by decide, fun row hrow => ?_⟩
  obtain ⟨back, -, kind, -, computer, -, account, -, rfl⟩ := hdrawn row hrow
  rfl

/-- All events but the fixed ones lie in the last week. -/
theorem AreSecurityEvents.isTimedWithin_drop (h : AreSecurityEvents rows) :
    ∀ row ∈ rows.drop 4, IsTimedWithin week row := by
  obtain ⟨drawn, -, hdrawn, rfl⟩ := h
  intro row hrow
  obtain ⟨back, hback, kind, -, computer, -, account, -, rfl⟩ := hdrawn row hrow
  exact isTimedWithin_of_timeBefore hback (by decide) rfl

/-! ## Network flows -/

/-- The columns of every network flow. -/
def flowColumns : List String :=
  ["TimeGenerated", "SrcIP_s", "DestIP_s", "SrcPort_d", "DestPort_d", "FlowStatus_s",
    "FlowDirection_s"]

/-- The flows of the port scan: those from the address of the scanner. -/
def scanFlows (rows : List Record) : List Record :=
  rows.filter (Record.text · "SrcIP_s" == "192.168.100.50")

theorem AreNetworkFlows.length_eq (h : AreNetworkFlows rows) : rows.length = 446 := by
  obtain ⟨scan, hscan, rfl⟩ := h
  rw [List.length_append, List.length_append, ← hscan.length_eq, List.length_range]
  rfl

theorem AreNetworkFlows.names_eq (h : AreNetworkFlows rows) :
    ∀ row ∈ rows, row.names = flowColumns := by
  obtain ⟨scan, hscan, rfl⟩ := h
  have hnames : ∀ row ∈ scan, row.names = flowColumns := by
    refine forall_mem_of_forall₂ hscan ?_
    rintro i _ ⟨back, -, rfl⟩
    rfl
  rw [List.forall_mem_append, List.forall_mem_append]
  exact ⟨⟨by decide, hnames⟩, by decide⟩

/-- The flows from the address of the scanner are those to the ports one after the other. -/
theorem AreNetworkFlows.forall₂_scanFlows (h : AreNetworkFlows rows) :
    List.Forall₂ IsScanFlow (List.range 443) (scanFlows rows) := by
  obtain ⟨scan, hscan, rfl⟩ := h
  have hall : ∀ row ∈ scan, (Record.text row "SrcIP_s" == "192.168.100.50") = true := by
    refine forall_mem_of_forall₂ hscan ?_
    rintro i _ ⟨back, -, rfl⟩
    exact beq_self_eq_true _
  have hfirst : firstFlows.filter (Record.text · "SrcIP_s" == "192.168.100.50") = [] := by decide
  have hlast : [lastFlow].filter (Record.text · "SrcIP_s" == "192.168.100.50") = [] := by decide
  rw [scanFlows, List.filter_append, List.filter_append, hfirst, hlast,
    List.filter_eq_self.mpr hall, List.nil_append, List.append_nil]
  exact hscan

/-- All flows of the port scan lie in the last hour. -/
theorem AreNetworkFlows.isTimedWithin_scanFlows (h : AreNetworkFlows rows) :
    ∀ row ∈ scanFlows rows, IsTimedWithin hour row := by
  refine forall_mem_of_forall₂ h.forall₂_scanFlows ?_
  rintro i _ ⟨back, hback, rfl⟩
  exact isTimedWithin_of_timeBefore hback (by decide) rfl

/-- The port scan goes through the ports in order, from a port of its own for each. -/
theorem AreNetworkFlows.map_ports (h : AreNetworkFlows rows) :
    (scanFlows rows).map (fun row => (row.get? "SrcPort_d", row.get? "DestPort_d")) =
      (List.range' 1 443).map fun port =>
        (some (.integer (.ofNat (40000 + port))), some (.integer (.ofNat port))) := by
  have hports : (scanFlows rows).map (fun row => (row.get? "SrcPort_d", row.get? "DestPort_d")) =
      (List.range 443).map fun i =>
        (some (.ofCount (40000 + (i + 1))), some (.ofCount (i + 1))) :=
    map_eq_map_of_forall₂ h.forall₂_scanFlows fun _ _ ⟨_, _, hrow⟩ => hrow ▸ rfl
  rw [hports, List.range'_eq_map_range, List.map_map]
  refine List.map_congr_left fun i hi => ?_
  have hlt := List.mem_range.mp hi
  rw [Value.ofCount_of_le (by omega), Value.ofCount_of_le (by omega), Nat.add_comm i 1]
  rfl

end

/-! ## The store -/

/-- The columns of the tables, in the order in which the tables are registered. -/
def tableColumns : List (List String) :=
  [signinColumns, eventColumns, ["TimeGenerated", "OperationName", "Caller", "Resource"],
    flowColumns, ["TimeGenerated", "AlertName", "AlertSeverity", "Description"]]

/-- A store has the tables of a practice dataset, three of which are given, and what every practice
dataset shows holds of their rows. -/
structure HasInvariants (store : Store) (signins events flows : List Record) : Prop where
  entries_eq : store.entries =
    [("SigninLogs", signins), ("SecurityEvent", events), ("AzureActivity", operations),
      ("AzureNetworkAnalytics_CL", flows), ("SecurityAlert", alerts)]
  tables_eq : store.tables =
    [⟨"SigninLogs", 1337⟩, ⟨"SecurityEvent", 100⟩, ⟨"AzureActivity", 5⟩,
      ⟨"AzureNetworkAnalytics_CL", 446⟩, ⟨"SecurityAlert", 5⟩]
  names_eq : List.Forall₂ (fun columns table => ∀ row ∈ table.2, row.names = columns)
    tableColumns store.entries
  /-- The present, before which the drawn times lie. -/
  present_eq : String.ofList (Time.isoText present) = "2024-01-22T00:00:00.000Z"
  signin_times : ∀ row ∈ signins.drop 8, IsTimedWithin week row
  event_times : ∀ row ∈ events.drop 4, IsTimedWithin week row
  scan_times : ∀ row ∈ scanFlows flows, IsTimedWithin hour row
  resultTypes : ∀ row ∈ signins, ShowsResultType row
  identifiers : ∀ row ∈ signins, ShowsIdentifier row
  /-- The port scan goes through the ports in order, from a port of its own for each. -/
  scan_ports : (scanFlows flows).map (fun row => (row.get? "SrcPort_d", row.get? "DestPort_d")) =
    (List.range' 1 443).map fun port =>
      (some (.integer (.ofNat (40000 + port))), some (.integer (.ofNat port)))

/-- The store that is made of drawn tables has what every practice dataset shows. -/
theorem hasInvariants_storeOf {signins events flows : List Record} (hsignins : AreSignins signins)
    (hevents : AreSecurityEvents events) (hflows : AreNetworkFlows flows) :
    HasInvariants (storeOf signins events flows) signins events flows where
  entries_eq := rfl
  tables_eq := by
    show [TableInfo.mk _ signins.length, ⟨_, events.length⟩, _, ⟨_, flows.length⟩, _] = _
    rw [hsignins.length_eq, hevents.length_eq, hflows.length_eq]
    rfl
  names_eq := by
    refine .cons hsignins.names_eq (.cons hevents.names_eq (.cons ?_ (.cons hflows.names_eq
      (.cons ?_ .nil))))
    · decide
    · decide
  present_eq := by rw [isoText_present, String.ofList_toList]
  signin_times := hsignins.isTimedWithin_drop
  event_times := hevents.isTimedWithin_drop
  scan_times := hflows.isTimedWithin_scanFlows
  resultTypes := hsignins.showsResultType
  identifiers := hsignins.showsIdentifier
  scan_ports := hflows.map_ports

/-- The practice dataset of every seed has the invariants. -/
theorem hasInvariants_ofSeed (seed : UInt64) :
    ∃ signins events flows, HasInvariants (ofSeed seed) signins events flows := by
  obtain ⟨signins, events, flows, hsignins, hevents, hflows, hstore⟩ :=
    exists_storeOf_eq_ofSeed seed
  rw [← hstore]
  exact ⟨signins, events, flows, hasInvariants_storeOf hsignins hevents hflows⟩

end LogQuery.Dataset
