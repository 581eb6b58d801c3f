import LogQuery.Random.Draw
import LogQuery.Store
import LogQuery.Time.Calendar

/-!
# The practice dataset

Five tables of simulated logs for the exercises. Each holds a few rows placed by hand, which carry
the flags that the exercises ask for; the sign-ins, the security events and the network flows are
filled up with rows drawn from the keystream of a seed. The times of these rows count back from a
fixed instant, so a seed always makes the same tables.
-/

namespace LogQuery.Dataset

open LogQuery.Random

/-- The seed used when none is given. -/
def defaultSeed : UInt64 := 42

/-- The present of the simulated environment, 2024-01-22 at midnight, in milliseconds since 1970. -/
def present : Nat := 1705881600000

/-- An hour in milliseconds. -/
def hour : Nat := 3600000

/-- A week in milliseconds. -/
def week : Nat := 7 * 24 * hour

/-- A time within the given number of milliseconds before the present. -/
def timeWithin (window : Nat) : Draw String := do
  let back ← below window
  return String.ofList (Time.isoText (present - (back + 1)))

/-! ## Sign-ins -/

/-- A sign-in, without its correlation identifier. -/
structure Signin where
  /-- When it was. -/
  time : String
  /-- Who signed in. -/
  user : String
  /-- Its outcome: zero for success. -/
  resultType : Int64
  /-- The address it came from. -/
  address : String
  /-- The program it came from. -/
  agent : String
  app : String

/-- The row of a sign-in. -/
def Signin.record (s : Signin) (correlation : String) : Record :=
  .ofPairs
    [("TimeGenerated", .string s.time), ("UserPrincipalName", .string s.user),
     ("ResultType", .integer s.resultType), ("IPAddress", .string s.address),
     ("UserAgent", .string s.agent), ("AppDisplayName", .string s.app),
     ("CorrelationId", .string correlation)]

/-- The program of the brute-force attack. -/
def bruteForceAgent : String :=
  "Mozilla/5.0 FLAG\x7bkql_kung_fu_brut3_f0rc3_d3t3ct3d\x7d BruteForcer/1.0"

/-- The sign-ins placed by hand. -/
def fixedSignins : List Signin :=
  [⟨"2024-01-15T10:30:00Z", "alice.wong@yourcompany.com", 0, "10.0.1.50",
      "Mozilla/5.0 Chrome/120", "Microsoft Office 365"⟩,
   ⟨"2024-01-15T10:31:00Z", "bob.chen@yourcompany.com", 0, "10.0.1.51",
      "Mozilla/5.0 Firefox/121", "Azure Portal"⟩,
   ⟨"2024-01-15T02:15:00Z", "hacker@evil.com", 0, "185.234.72.100", "Mozilla/5.0",
      "FLAG\x7bkql_kung_fu_midnight_hacker\x7d"⟩,
   ⟨"2024-01-15T11:00:00Z", "admin@yourcompany.com", 50126, "185.234.72.100", bruteForceAgent,
      "Azure Portal"⟩,
   ⟨"2024-01-15T11:00:05Z", "admin@yourcompany.com", 50126, "185.234.72.100", bruteForceAgent,
      "Azure Portal"⟩,
   ⟨"2024-01-15T11:00:10Z", "admin@yourcompany.com", 50126, "185.234.72.100", bruteForceAgent,
      "Azure Portal"⟩,
   ⟨"2024-01-15T12:00:00Z", "FLAG\x7bkql_kung_fu_proj3ct_m4st3r\x7d@yourcompany.com", 0,
      "10.0.1.99", "Mozilla/5.0", "Microsoft Teams"⟩,
   ⟨"2024-01-15T12:30:00Z", "FLAG\x7bkql_kung_fu_unique_find\x7d@yourcompany.com", 0,
      "10.0.1.100", "Mozilla/5.0", "SharePoint"⟩]

/-- The applications of the drawn sign-ins, in turn. -/
def apps : List String := ["Microsoft Office 365", "Azure Portal", "Teams", "SharePoint"]

/-- The row of a sign-in with a random correlation identifier. -/
def fixedSignin (s : Signin) : Draw Record := return s.record (← identifier)

/-- The drawn sign-in of the given number: its time, its outcome and its correlation identifier are
random. -/
def drawnSignin (i : Nat) : Draw Record := do
  let time ← timeWithin week
  let failed ← oneInTwenty
  let correlation ← identifier
  let signin : Signin :=
    { time
      user := "user" ++ toString (i % 50) ++ "@yourcompany.com"
      resultType := if failed then 50126 else 0
      address := "10.0." ++ toString (i / 255) ++ "." ++ toString (i % 255)
      agent := "Mozilla/5.0 (Windows NT 10.0; Win64; x64) Chrome/120"
      app := apps.getD (i % 4) "" }
  return signin.record correlation

/-- The table of sign-ins. -/
def signins : Draw (List Record) := do
  let fixed ← fixedSignins.mapM fixedSignin
  let drawn ← times 1329 drawnSignin
  return fixed ++ drawn

/-! ## Security events -/

/-- The row of a security event. -/
def securityEvent (time : String) (id : Int64) (activity computer account : String) : Record :=
  .ofPairs
    [("TimeGenerated", .string time), ("EventID", .integer id), ("Activity", .string activity),
     ("Computer", .string computer), ("Account", .string account)]

/-- The security events placed by hand. -/
def fixedSecurityEvents : List Record :=
  [securityEvent "2024-01-15T09:00:00Z" 4624 "4624 - An account was successfully logged on"
      "SERVER01.yourcompany.com" "alice",
   securityEvent "2024-01-15T09:05:00Z" 4625 "4625 - An account failed to log on"
      "SERVER01.yourcompany.com" "bob",
   securityEvent "2024-01-15T09:10:00Z" 9999 "FLAG\x7bkql_kung_fu_first_steps\x7d"
      "SECRETSERVER.yourcompany.com" "system",
   securityEvent "2024-01-15T09:15:00Z" 4672 "4672 - Special privileges assigned to new logon"
      "DC01.yourcompany.com" "admin"]

/-- The kinds of the drawn security events: number and activity. -/
def eventKinds : List (Int64 × String) :=
  [(4624, "4624 - An account was successfully logged on"),
   (4625, "4625 - An account failed to log on"),
   (4634, "4634 - An account was logged off"),
   (4672, "4672 - Special privileges assigned to new logon"),
   (4688, "4688 - A new process has been created")]

/-- The computers of the drawn security events. -/
def computers : List String :=
  ["SERVER01.yourcompany.com", "SERVER02.yourcompany.com", "DC01.yourcompany.com",
   "WKS042.yourcompany.com"]

/-- The accounts of the drawn security events. -/
def accounts : List String := ["alice", "bob", "carol", "admin", "svc_backup"]

/-- A drawn security event. -/
def drawnSecurityEvent : Draw Record := do
  let time ← timeWithin week
  let (id, activity) ← oneOf (0, "") eventKinds
  let computer ← oneOf "" computers
  let account ← oneOf "" accounts
  return securityEvent time id activity computer account

/-- The table of security events. -/
def securityEvents : Draw (List Record) := do
  let drawn ← times 96 fun _ => drawnSecurityEvent
  return fixedSecurityEvents ++ drawn

/-! ## Network flows -/

/-- The row of a network flow. -/
def flow (time source destination : String) (sourcePort destinationPort : Nat)
    (status direction : String) : Record :=
  .ofPairs
    [("TimeGenerated", .string time), ("SrcIP_s", .string source),
     ("DestIP_s", .string destination), ("SrcPort_d", .ofCount sourcePort),
     ("DestPort_d", .ofCount destinationPort), ("FlowStatus_s", .string status),
     ("FlowDirection_s", .string direction)]

/-- The flows placed at the start of their table. -/
def firstFlows : List Record :=
  [flow "2024-01-15T10:00:00Z" "10.0.1.50" "10.0.2.100" 54321 443 "A" "O",
   flow "2024-01-15T10:01:00Z" "185.234.72.100" "10.13.37.100" 12345 22 "D" "I"]

/-- The flow placed at the end of its table, the latest of all. -/
def lastFlow : Record :=
  flow (String.ofList (Time.isoText present)) "185.234.72.100" "10.13.37.100" 55555 3389 "D" "I"

/-- The flow of a port scan to the port after the given number. -/
def scanFlow (i : Nat) : Draw Record := do
  let time ← timeWithin hour
  return flow time "192.168.100.50" "10.0.2.100" (40000 + (i + 1)) (i + 1) "D" "I"

/-- The table of network flows, with a scan of the ports up to 443. -/
def networkFlows : Draw (List Record) := do
  let scan ← times 443 scanFlow
  return firstFlows ++ scan ++ [lastFlow]

/-! ## Tables without drawn rows -/

/-- A record of strings. -/
def texts (pairs : List (String × String)) : Record :=
  .ofPairs (pairs.map fun (column, text) => (column, .string text))

/-- The row of an administrative operation. -/
def operation (time name caller resource : String) : Record :=
  texts [("TimeGenerated", time), ("OperationName", name), ("Caller", caller),
    ("Resource", resource)]

/-- The table of administrative operations. -/
def operations : List Record :=
  [operation "2024-01-15T10:00:00Z" "Microsoft.Compute/virtualMachines/start/action"
      "alice.wong@yourcompany.com" "vm-prod-01",
   operation "2024-01-15T10:30:00Z" "Microsoft.Storage/storageAccounts/write"
      "bob.chen@yourcompany.com" "storageaccount01",
   operation "2024-01-15T11:00:00Z" "FLAG\x7bkql_kung_fu_1ns1d3r_f0und\x7d"
      "sarah.jones@yourcompany.com" "secret-keyvault",
   operation "2024-01-15T11:30:00Z" "Microsoft.Authorization/roleAssignments/write"
      "john.smith@yourcompany.com" "subscription-prod",
   operation "2024-01-15T12:00:00Z" "Microsoft.KeyVault/vaults/secrets/read"
      "mike.wilson@yourcompany.com" "keyvault-prod"]

/-- The row of an alert. -/
def alert (time name severity description : String) : Record :=
  texts [("TimeGenerated", time), ("AlertName", name), ("AlertSeverity", severity),
    ("Description", description)]

/-- The table of alerts. -/
def alerts : List Record :=
  [alert "2024-01-15T08:00:00Z" "Suspicious sign-in activity" "Medium" "Unusual sign-in detected",
   alert "2024-01-15T08:30:00Z" "Credential theft attempt detected" "High"
      "Credential access attempt",
   alert "2024-01-15T09:00:00Z" "FLAG\x7bkql_kung_fu_str1ng_n1nja\x7d - Credential Alert" "High"
      "Credential harvesting detected",
   alert "2024-01-15T09:30:00Z" "Malware detected" "High" "Malicious file execution",
   alert "2024-01-15T10:00:00Z" "CREDENTIAL ACCESS detected" "Medium"
      "Suspicious credential activity"]

/-! ## The store -/

/-- The tables, with the random ones drawn in the order of the list. -/
def draw : Draw Store := do
  let signins ← signins
  let events ← securityEvents
  let flows ← networkFlows
  return .ofPairs
    [("SigninLogs", signins), ("SecurityEvent", events), ("AzureActivity", operations),
     ("AzureNetworkAnalytics_CL", flows), ("SecurityAlert", alerts)]

/-- The practice dataset of a seed. -/
def ofSeed (seed : UInt64) : Store := (draw (Keystream.ofSeed seed)).1

end LogQuery.Dataset
