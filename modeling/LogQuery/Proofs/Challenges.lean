import LogQuery.Proofs.DatasetRows

/-!
# The challenges are solvable

Every challenge asks for a query whose answer shows a flag or a fact about an attack. On the
practice dataset of every seed the queries of this module have the answers that the challenges
expect (`solvable_ofSeed`). Every query is read once, as its table and its stages; what the stages
make of the rows follows from what all datasets have in common (`solvable_of_isDataset`).
-/

namespace LogQuery.Challenges

open Condition Query Dataset

/-! ## Queries -/

/-- The query of the first steps. -/
def firstStepsQuery : String := "SecurityEvent\n| where Activity contains \"FLAG\""

/-- The query that counts the sign-ins. -/
def signinCountQuery : String := "SigninLogs\n| count"

/-- The query for flagged users after a projection. -/
def projectedFlagsQuery : String :=
  "SigninLogs\n| project TimeGenerated, UserPrincipalName, ResultType, IPAddress\n" ++
    "| where UserPrincipalName contains \"FLAG\""

/-- The query for the latest inbound flow that was denied. -/
def latestDeniedFlowQuery : String :=
  "AzureNetworkAnalytics_CL\n| where FlowStatus_s == \"D\" and FlowDirection_s == \"I\"\n" ++
    "| order by TimeGenerated desc\n| limit 1\n| project DestIP_s"

/-- The query for flagged users, each once. -/
def distinctFlagsQuery : String :=
  "SigninLogs\n| distinct UserPrincipalName\n| where UserPrincipalName contains \"FLAG\""

/-- The query for flagged alerts on credentials. The line that does not start with a bar is
skipped. -/
def credentialAlertsQuery : String :=
  "SecurityAlert\n| where AlertName contains \"credential\"\n" ++
    "     or Description contains \"credential\"\n| where AlertName contains \"FLAG\"\n" ++
    "| distinct AlertName"

/-- The query for flagged sign-ins at night. -/
def midnightSigninsQuery : String :=
  "SigninLogs\n| where hourofday(TimeGenerated)<6\n| where AppDisplayName contains \"FLAG\""

/-- The query that counts the failed sign-ins of flagged programs. -/
def bruteForceQuery : String :=
  "SigninLogs\n| where ResultType == 50126 and UserAgent contains \"FLAG\"\n" ++
    "| summarize Attempts = count() by UserAgent"

/-- The query for flagged operations. -/
def insidersQuery : String :=
  "AzureActivity | where OperationName contains \"flag\" | project Caller"

/-- The query for the address that has tried the most ports. -/
def portScannerQuery : String :=
  "AzureNetworkAnalytics_CL | summarize UniquePortsScanned = dcount(DestPort_d), " ++
    "TotalConnections = count() by SrcIP_s | order by UniquePortsScanned desc | take 1"

/-- The columns that the flagged users are shown with. -/
def projectedColumns : List String :=
  ["TimeGenerated", "UserPrincipalName", "ResultType", "IPAddress"]

/-- What is summarized of the flows of each address. -/
def scannerPlan : SummaryPlan where
  count := "TotalConnections"
  distinctCount := some ⟨"UniquePortsScanned", "DestPort_d"⟩
  groupBy := "SrcIP_s"

/-- What is summarized of the sign-ins of each program. -/
def attemptsPlan : SummaryPlan where
  count := "Attempts"
  groupBy := "UserAgent"

theorem pipeline?_firstSteps :
    pipeline? firstStepsQuery = some ("SecurityEvent",
      [.filter (.contains "Activity" "FLAG")]) := by
  rfl

theorem pipeline?_signinCount : pipeline? signinCountQuery = some ("SigninLogs", [.count]) := by
  rfl

set_option maxRecDepth 4000 in
theorem pipeline?_projectedFlags :
    pipeline? projectedFlagsQuery = some ("SigninLogs",
      [.project projectedColumns, .filter (.contains "UserPrincipalName" "FLAG")]) := by
  rfl

set_option maxRecDepth 4000 in
theorem pipeline?_latestDeniedFlow :
    pipeline? latestDeniedFlowQuery = some ("AzureNetworkAnalytics_CL",
      [.filter (.all [.equals "FlowStatus_s" "D", .equals "FlowDirection_s" "I"]),
        .sort "TimeGenerated" .descending, .limit 1, .project ["DestIP_s"]]) := by
  rfl

theorem pipeline?_distinctFlags :
    pipeline? distinctFlagsQuery = some ("SigninLogs",
      [.distinct "UserPrincipalName", .filter (.contains "UserPrincipalName" "FLAG")]) := by
  rfl

set_option maxRecDepth 4000 in
theorem pipeline?_credentialAlerts :
    pipeline? credentialAlertsQuery = some ("SecurityAlert",
      [.filter (.contains "AlertName" "credential"), .filter (.contains "AlertName" "FLAG"),
        .distinct "AlertName"]) := by
  rfl

theorem pipeline?_midnightSignins :
    pipeline? midnightSigninsQuery = some ("SigninLogs",
      [.filter (.hourOfDay "TimeGenerated" .lessThan 6),
        .filter (.contains "AppDisplayName" "FLAG")]) := by
  rfl

set_option maxRecDepth 4000 in
theorem pipeline?_bruteForce :
    pipeline? bruteForceQuery = some ("SigninLogs",
      [.filter (.all [.equals "ResultType" "50126", .contains "UserAgent" "FLAG"]),
        .summarize attemptsPlan]) := by
  rfl

theorem pipeline?_insiders :
    pipeline? insidersQuery = some ("AzureActivity",
      [.filter (.contains "OperationName" "flag"), .project ["Caller"]]) := by
  rfl

set_option maxRecDepth 4000 in
theorem pipeline?_portScanner :
    pipeline? portScannerQuery = some ("AzureNetworkAnalytics_CL",
      [.summarize scannerPlan, .sort "UniquePortsScanned" .descending, .limit 1]) := by
  rfl

/-! ## Solutions -/

/-- A store answers a query, without an error, and the answer has the property, however long it
takes to find it. -/
def Answers (store : Store) (query : String) (P : QueryResult → Prop) : Prop :=
  ∀ elapsed, (execute store query elapsed).error = none ∧ P (execute store query elapsed)

/-- A store has the answers that solve the challenges. -/
structure Solvable (store : Store) : Prop where
  /-- One security event has a flag as its activity. -/
  firstSteps : Answers store firstStepsQuery fun result =>
    result.texts "Activity" = ["FLAG\x7bkql_kung_fu_first_steps\x7d"]
  /-- There are 1337 sign-ins. -/
  signinCount : Answers store signinCountQuery fun result =>
    result.columns = ["Count"] ∧ result.rows = [.ofPairs [("Count", .integer 1337)]]
  /-- Two sign-ins have a flagged user, and are shown with the named columns. -/
  projectedFlags : Answers store projectedFlagsQuery fun result =>
    result.columns = ["TimeGenerated", "UserPrincipalName", "ResultType", "IPAddress"] ∧
      result.texts "UserPrincipalName" = flaggedUsers
  /-- The latest denied inbound flow goes to this address. -/
  latestDeniedFlow : Answers store latestDeniedFlowQuery fun result =>
    result.texts "DestIP_s" = ["10.13.37.100"]
  /-- Two different users are flagged. -/
  distinctFlags : Answers store distinctFlagsQuery fun result =>
    result.rowCount = 2 ∧ result.texts "UserPrincipalName" = flaggedUsers
  /-- One alert on credentials has a flag in its name. -/
  credentialAlerts : Answers store credentialAlertsQuery fun result =>
    result.texts "AlertName" = ["FLAG\x7bkql_kung_fu_str1ng_n1nja\x7d - Credential Alert"]
  /-- One user signs in to a flagged application at night. -/
  midnightSignins : Answers store midnightSigninsQuery fun result =>
    result.texts "UserPrincipalName" = ["hacker@evil.com"]
  /-- One flagged program fails to sign in, three times. -/
  bruteForce : Answers store bruteForceQuery fun result =>
    result.rowCount = 1 ∧ result.rows =
      [.ofPairs [("UserAgent", .string bruteForceAgent), ("Attempts", .integer 3)]]
  /-- One caller has a flagged operation. -/
  insiders : Answers store insidersQuery fun result =>
    result.texts "Caller" = ["sarah.jones@yourcompany.com"]
  /-- One address has tried the most ports, each with a flow of its own. -/
  portScanner : Answers store portScannerQuery fun result =>
    result.columns = ["SrcIP_s", "TotalConnections", "UniquePortsScanned"] ∧ result.rows =
      [.ofPairs [("SrcIP_s", .string "192.168.100.50"), ("TotalConnections", .integer 443),
        ("UniquePortsScanned", .integer 443)]]

theorem answers_of_pipeline? {store : Store} {query table : String} {stages : List Stage}
    {rows answer : List Record} {P : QueryResult → Prop}
    (hquery : pipeline? query = some (table, stages)) (hrows : store.get? table = some rows)
    (hanswer : Stage.runAll stages rows = answer) (h : ∀ elapsed, P (.ofRows answer elapsed)) :
    Answers store query P := by
  intro elapsed
  rw [execute_of_pipeline? hquery hrows, hanswer]
  exact ⟨rfl, h elapsed⟩

section Rows

variable {rows : List Record}

/-! ### Sign-ins -/

theorem run_count (h : AreSignins rows) :
    Stage.count.run rows = [.ofPairs [("Count", .integer 1337)]] := by
  rw [Stage.run, h.length_eq]
  rfl

theorem names_projectRows (h : AreSignins rows) :
    ∀ row ∈ Stage.projectRows projectedColumns rows, row.names = projectedColumns := by
  obtain ⟨drawn, -, -, hshown⟩ := h
  refine List.forall_mem_map.mpr (Random.forall_mem_of_forall₂ hshown ?_)
  rintro s _ ⟨correlation, -, rfl⟩
  rfl

/-- The flagged users are those of the four fixed sign-ins. -/
theorem texts_projectedFlags (h : AreSignins rows) :
    ((contains "UserPrincipalName" "FLAG").filter
      (Stage.projectRows projectedColumns rows)).map (Record.text · "UserPrincipalName") =
        flaggedUsers := by
  rw [map_text_filter_contains, Stage.map_text_projectRows (by decide), h.filter_users]

theorem columns_projectedFlags (h : AreSignins rows) (elapsed : Float) :
    (QueryResult.ofRows ((contains "UserPrincipalName" "FLAG").filter
      (Stage.projectRows projectedColumns rows)) elapsed).columns = projectedColumns := by
  have htexts := texts_projectedFlags h
  refine QueryResult.columns_ofRows (fun he => ?_) (fun row hrow => ?_) elapsed
  · rw [he] at htexts
    exact List.cons_ne_nil _ _ htexts.symm
  · exact names_projectRows h row (filter_subset _ _ hrow)

/-- No flagged user occurs twice, and no drawn one is flagged. -/
theorem texts_distinctFlags (h : AreSignins rows) :
    ((contains "UserPrincipalName" "FLAG").filter
      (Stage.distinctRows "UserPrincipalName" rows)).map (Record.text · "UserPrincipalName") =
        flaggedUsers := by
  rw [Stage.map_text_filter_contains_distinctRows, h.filter_users]
  decide +kernel

/-- Of the sign-ins before six only the fixed one has a flagged application. -/
theorem texts_midnightSignins (h : AreSignins rows) :
    ((contains "AppDisplayName" "FLAG").filter
      ((hourOfDay "TimeGenerated" .lessThan 6).filter rows)).map
        (Record.text · "UserPrincipalName") = ["hacker@evil.com"] := by
  rw [filter_of_isSimple rfl, filter_of_isSimple rfl, List.filter_filter]
  simp only [holds_contains, holds_hourOfDay]
  rw [h.map_filter (fun _ _ => rfl) (fun _ _ => rfl) fun s hs => ?_]
  · decide +kernel
  · show (containsText "FLAG" s.app && _) = false
    rw [hs.containsText_app, Bool.false_and]

/-- The failed sign-ins of flagged programs. -/
def bruteForceRows (rows : List Record) : List Record :=
  (all [equals "ResultType" "50126", contains "UserAgent" "FLAG"]).filter rows

/-- The failed sign-ins with a flagged agent all have the same one. -/
theorem agents_bruteForceRows (h : AreSignins rows) :
    (bruteForceRows rows).map (Record.text · "UserAgent") = List.replicate 3 bruteForceAgent := by
  rw [bruteForceRows, filter_all (by decide)]
  simp only [allHold, holds_equals, holds_contains, Bool.and_true]
  rw [h.map_filter (fun _ _ => rfl) (fun _ _ => rfl) fun s hs => ?_]
  · decide +kernel
  · show (_ && containsText "FLAG" s.agent) = false
    rw [hs.containsText_agent, Bool.and_false]

theorem summarizeRows_bruteForceRows (h : AreSignins rows) :
    Stage.summarizeRows attemptsPlan (bruteForceRows rows) =
      [.ofPairs [("UserAgent", .string bruteForceAgent), ("Attempts", .integer 3)]] := by
  have hagents := agents_bruteForceRows h
  have hlength : (bruteForceRows rows).length = 3 := by
    rw [← List.length_map (Record.text · "UserAgent"), hagents, List.length_replicate]
  rw [Stage.summarizeRows_of_map_eq_replicate rfl hagents, Stage.groupRow, hlength]
  rfl

/-! ### Network flows -/

/-- The latest denied inbound flow is the fixed one, as its time is the present. -/
theorem limitRows_latestDeniedFlow (h : AreNetworkFlows rows) :
    Stage.limitRows 1 (Stage.sortRows "TimeGenerated" .descending
      ((all [equals "FlowStatus_s" "D", equals "FlowDirection_s" "I"]).filter rows)) =
        [lastFlow] := by
  refine Stage.limitRows_one_sortRows ?_ fun row hrow => h.text_lt row (filter_subset _ _ hrow)
  rw [filter_all (by decide), List.mem_filter]
  exact ⟨h.lastFlow_mem, by decide +kernel⟩

theorem texts_latestDeniedFlow (h : AreNetworkFlows rows) :
    (Stage.projectRows ["DestIP_s"] (Stage.limitRows 1 (Stage.sortRows "TimeGenerated" .descending
      ((all [equals "FlowStatus_s" "D", equals "FlowDirection_s" "I"]).filter rows)))).map
        (Record.text · "DestIP_s") = ["10.13.37.100"] := by
  rw [limitRows_latestDeniedFlow h]
  decide +kernel

/-- The row that a summary shows of an address that has tried so many ports, each once. -/
def scannerRow (source : String) (n : Nat) : Record :=
  .ofPairs [("SrcIP_s", .string source), ("TotalConnections", .ofCount n),
    ("UniquePortsScanned", .ofCount n)]

/-- A source with different ports is shown with their number. -/
theorem groupRow_scannerPlan {members : List Record} {ports : List String} (source : String)
    (hports : members.map (Record.text · "DestPort_d") = ports) (hnodup : ports.Nodup) :
    Stage.groupRow scannerPlan "SrcIP_s" source members = scannerRow source ports.length := by
  subst hports
  rw [List.length_map]
  show OrderedMap.ofPairs [_, _, (_, Value.ofCount (Stage.distinctTexts "DestPort_d" members))] = _
  rw [Stage.distinctTexts_of_nodup hnodup]
  rfl

theorem summarizeRows_scannerPlan (h : AreNetworkFlows rows) :
    Stage.summarizeRows scannerPlan rows =
      [scannerRow "10.0.1.50" 1, scannerRow "185.234.72.100" 2,
        scannerRow "192.168.100.50" 443] := by
  have hfirst : (rows.filter (Record.text · "SrcIP_s" == "10.0.1.50")).map
      (Record.text · "DestPort_d") = ["443"] := by
    rw [h.map_filter_source, if_neg (by decide)]
    decide +kernel
  have hsecond : (rows.filter (Record.text · "SrcIP_s" == "185.234.72.100")).map
      (Record.text · "DestPort_d") = ["22", "3389"] := by
    rw [h.map_filter_source, if_neg (by decide)]
    decide +kernel
  have hscan : (rows.filter (Record.text · "SrcIP_s" == "192.168.100.50")).map
      (Record.text · "DestPort_d") = scannedPorts := by
    have hothers : (firstFlows ++ [lastFlow]).filter
        (Record.text · "SrcIP_s" == "192.168.100.50") = [] := by
      refine List.filter_eq_nil_iff.mpr ?_
      decide +kernel
    rw [List.filter_append, List.append_eq_nil_iff] at hothers
    rw [h.map_filter_source, if_pos rfl, hothers.1, hothers.2, List.map_nil, List.nil_append,
      List.append_nil]
  have hlength : scannedPorts.length = 443 := by
    rw [scannedPorts, List.length_map, List.length_range]
  rw [Stage.summarizeRows_eq_map rfl, h.columnTexts_sources, List.map_cons, List.map_cons,
    List.map_cons, List.map_nil, groupRow_scannerPlan _ hfirst (by decide),
    groupRow_scannerPlan _ hsecond (by decide), groupRow_scannerPlan _ hscan nodup_scannedPorts,
    hlength]
  rfl

theorem limitRows_portScanner (h : AreNetworkFlows rows) :
    Stage.limitRows 1 (Stage.sortRows "UniquePortsScanned" .descending
      (Stage.summarizeRows scannerPlan rows)) = [scannerRow "192.168.100.50" 443] := by
  rw [summarizeRows_scannerPlan h]
  refine Stage.limitRows_one_sortRows (by simp) fun row hrow => ?_
  have hlt : ∀ other ∈ [scannerRow "10.0.1.50" 1, scannerRow "185.234.72.100" 2],
      Record.text other "UniquePortsScanned" <
        Record.text (scannerRow "192.168.100.50" 443) "UniquePortsScanned" := by decide +kernel
  rcases List.mem_append.mp (show row ∈ [_, _] ++ [_] from hrow) with hrow | hrow
  · exact .inr (hlt row hrow)
  · exact .inl (List.mem_singleton.mp hrow)

end Rows

/-- Every practice dataset has the answers that solve the challenges. -/
theorem solvable_of_isDataset {store : Store} (h : IsDataset store) : Solvable store := by
  obtain ⟨signins, hgetSignins, hsignins⟩ := h.signins
  obtain ⟨events, hgetEvents, hevents⟩ := h.securityEvents
  obtain ⟨flows, hgetFlows, hflows⟩ := h.networkFlows
  constructor
  case firstSteps =>
    refine answers_of_pipeline? pipeline?_firstSteps hgetEvents rfl fun elapsed => ?_
    exact (map_text_filter_contains _ _ _).trans hevents.filter_activities
  case signinCount =>
    exact answers_of_pipeline? pipeline?_signinCount hgetSignins (run_count hsignins)
      fun _ => ⟨rfl, rfl⟩
  case projectedFlags =>
    refine answers_of_pipeline? pipeline?_projectedFlags hgetSignins rfl fun elapsed => ⟨?_, ?_⟩
    · exact columns_projectedFlags hsignins elapsed
    · exact texts_projectedFlags hsignins
  case latestDeniedFlow =>
    refine answers_of_pipeline? pipeline?_latestDeniedFlow hgetFlows rfl fun elapsed => ?_
    exact texts_latestDeniedFlow hflows
  case distinctFlags =>
    refine answers_of_pipeline? pipeline?_distinctFlags hgetSignins rfl fun elapsed => ⟨?_, ?_⟩
    · exact (List.length_map _).symm.trans (congrArg List.length (texts_distinctFlags hsignins))
    · exact texts_distinctFlags hsignins
  case credentialAlerts =>
    refine answers_of_pipeline? pipeline?_credentialAlerts h.alerts rfl fun elapsed => ?_
    show (Stage.runAll _ _).map (Record.text · "AlertName") = _
    decide +kernel
  case midnightSignins =>
    refine answers_of_pipeline? pipeline?_midnightSignins hgetSignins rfl fun elapsed => ?_
    exact texts_midnightSignins hsignins
  case bruteForce =>
    exact answers_of_pipeline? pipeline?_bruteForce hgetSignins
      (summarizeRows_bruteForceRows hsignins) fun _ => ⟨rfl, rfl⟩
  case insiders =>
    refine answers_of_pipeline? pipeline?_insiders h.operations rfl fun elapsed => ?_
    show (Stage.runAll _ _).map (Record.text · "Caller") = _
    decide +kernel
  case portScanner =>
    exact answers_of_pipeline? pipeline?_portScanner hgetFlows (limitRows_portScanner hflows)
      fun _ => ⟨rfl, rfl⟩

/-- The challenges are solvable on the practice dataset of every seed. -/
theorem solvable_ofSeed (seed : UInt64) : Solvable (ofSeed seed) :=
  solvable_of_isDataset (isDataset_ofSeed seed)

end LogQuery.Challenges
