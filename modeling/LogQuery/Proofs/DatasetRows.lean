import LogQuery.Dataset
import LogQuery.Proofs.Drawing
import LogQuery.Proofs.InstantText
import LogQuery.Proofs.Pipelines
import Mathlib.Data.String.Basic

/-!
# The rows of the practice dataset

What the tables of the practice dataset hold whatever the seed is (`IsDataset`): the rows placed by
hand, and drawn rows of which everything is known that does not depend on the keystream. The times
of drawn rows lie before the present, the identifiers are arbitrary ones.
-/

namespace LogQuery.Dataset

open LogQuery.Random Condition

variable {rows : List Record}

/-! ## Times -/

theorem isoText_present : Time.isoText present = "2024-01-22T00:00:00.000Z".toList := by
  decide +kernel

/-- The text of a time the given number of milliseconds and one more before the present. -/
def timeBefore (back : Nat) : String := String.ofList (Time.isoText (present - (back + 1)))

/-- A drawn time lies less than the window before the present. -/
theorem yields_timeWithin {window : Nat} (h : 0 < window) :
    Yields (timeWithin window) fun time => ∃ back < window, time = timeBefore back :=
  (yields_below h).bind fun back hback => yields_pure ⟨back, hback, rfl⟩

/-! ## Sign-ins -/

/-- A row that shows a sign-in, under any correlation identifier. -/
def Signin.ShownBy (s : Signin) (row : Record) : Prop :=
  ∃ correlation : String, IsIdentifier correlation.toList ∧ row = s.record correlation

/-- What all drawn sign-ins have in common. -/
structure Signin.IsDrawn (s : Signin) : Prop where
  /-- The time lies in the week before the present. -/
  time : ∃ back < week, s.time = timeBefore back
  /-- The outcome is success or the one failure. -/
  resultType : s.resultType = 0 ∨ s.resultType = 50126
  /-- The user is one of fifty. -/
  user : ∃ n < 50, s.user = "user" ++ toString n ++ "@yourcompany.com"
  /-- The program is always the same. -/
  agent : s.agent = "Mozilla/5.0 (Windows NT 10.0; Win64; x64) Chrome/120"
  /-- The application is one of the known ones. -/
  app : s.app ∈ apps

theorem yields_fixedSignin (s : Signin) : Yields (fixedSignin s) s.ShownBy :=
  yields_identifier.bind fun correlation hcorrelation =>
    yields_pure ⟨correlation, hcorrelation, rfl⟩

theorem yields_drawnSignin (i : Nat) :
    Yields (drawnSignin i) fun row => ∃ s : Signin, s.IsDrawn ∧ s.ShownBy row := by
  refine (yields_timeWithin (by decide)).bind fun time htime =>
    (yields_true _).bind fun failed _ => yields_identifier.bind fun correlation hcorrelation =>
      yields_pure ⟨_, ⟨htime, ?_, ?_, rfl, ?_⟩, correlation, hcorrelation, rfl⟩
  · cases failed
    · exact .inl rfl
    · exact .inr rfl
  · exact ⟨i % 50, Nat.mod_lt _ (by decide), rfl⟩
  · have happs : ∀ n < 4, apps.getD n "" ∈ apps := by decide
    exact happs _ (Nat.mod_lt _ (by decide))

/-- Rows each of which shows a sign-in show sign-ins one by one. -/
theorem exists_forall₂_shownBy {α : Type} {l : List α} {rows : List Record}
    (h : List.Forall₂ (fun _ row => ∃ s : Signin, s.IsDrawn ∧ s.ShownBy row) l rows) :
    ∃ drawn : List Signin, drawn.length = l.length ∧ (∀ s ∈ drawn, s.IsDrawn) ∧
      List.Forall₂ Signin.ShownBy drawn rows := by
  induction h with
  | nil => exact ⟨[], rfl, List.forall_mem_nil _, .nil⟩
  | cons hrow _ ih =>
    obtain ⟨s, hs, hshown⟩ := hrow
    obtain ⟨drawn, hlength, hdrawn, hrows⟩ := ih
    exact ⟨s :: drawn, congrArg (· + 1) hlength, List.forall_mem_cons.mpr ⟨hs, hdrawn⟩,
      .cons hshown hrows⟩

/-- The rows of the sign-ins: those placed by hand and the drawn ones. -/
def AreSignins (rows : List Record) : Prop :=
  ∃ drawn : List Signin, drawn.length = 1329 ∧ (∀ s ∈ drawn, s.IsDrawn) ∧
    List.Forall₂ Signin.ShownBy (fixedSignins ++ drawn) rows

theorem yields_signins : Yields signins AreSignins := by
  refine (yields_mapM fun s _ => yields_fixedSignin s).bind fun fixed hfixed =>
    (yields_times fun i _ => yields_drawnSignin i).bind fun rows hrows => yields_pure ?_
  obtain ⟨drawn, hlength, hdrawn, hshown⟩ := exists_forall₂_shownBy hrows
  exact ⟨drawn, by rw [hlength, List.length_range], hdrawn, List.rel_append hfixed hshown⟩

theorem AreSignins.length_eq (h : AreSignins rows) : rows.length = 1337 := by
  obtain ⟨drawn, hlength, -, hshown⟩ := h
  rw [← hshown.length_eq, List.length_append, hlength]
  rfl

/-- What does not depend on the identifier is the same for all rows that show a sign-in. -/
theorem map_eq_map_of_shownBy {γ : Type} {f : Record → γ} {l : List Signin}
    (hf : ∀ (s : Signin) correlation, f (s.record correlation) = f (s.record ""))
    (h : List.Forall₂ Signin.ShownBy l rows) : rows.map f = l.map fun s => f (s.record "") :=
  map_eq_map_of_forall₂ h fun s _ ⟨correlation, _, hrow⟩ => hrow ▸ hf s correlation

/-- The sign-ins placed by hand, all with the same correlation identifier. -/
def fixedRows : List Record := fixedSignins.map (Signin.record · "")

/-- A property of no drawn sign-in chooses among those placed by hand. -/
theorem AreSignins.map_filter {γ : Type} {p : Record → Bool} {f : Record → γ} (h : AreSignins rows)
    (hp : ∀ (s : Signin) correlation, p (s.record correlation) = p (s.record ""))
    (hf : ∀ (s : Signin) correlation, f (s.record correlation) = f (s.record ""))
    (hdrawn : ∀ s : Signin, s.IsDrawn → p (s.record "") = false) :
    (rows.filter p).map f = (fixedRows.filter p).map f := by
  obtain ⟨drawn, -, hall, hshown⟩ := h
  have hsame : ∀ (s : Signin) row, s.ShownBy row → (p (s.record "") = true ↔ p row = true) := by
    rintro s _ ⟨correlation, -, rfl⟩
    rw [hp s correlation]
  have hnone : drawn.filter (fun s => p (s.record "")) = [] :=
    List.filter_eq_nil_iff.mpr fun s hs => Bool.not_eq_true _ ▸ hdrawn s (hall s hs)
  have hfilter := List.rel_filter (R := Signin.ShownBy) (p := fun s => p (s.record "")) (q := p)
    (fun _ _ => hsame _ _) hshown
  rw [List.filter_append, hnone, List.append_nil] at hfilter
  rw [map_eq_map_of_shownBy hf hfilter, fixedRows, List.filter_map, List.map_map]
  rfl

theorem Signin.IsDrawn.containsText_user {s : Signin} (h : s.IsDrawn) :
    containsText "FLAG" s.user = false := by
  have hlists : ∀ n < 50, Text.occurs (Text.lowercase "FLAG".toList)
      (Text.lowercase ("user".toList ++ (toString n).toList ++ "@yourcompany.com".toList)) =
        false := by decide +kernel
  obtain ⟨n, hn, huser⟩ := h.user
  rw [containsText, huser, String.toList_append, String.toList_append]
  exact hlists n hn

theorem Signin.IsDrawn.containsText_app {s : Signin} (h : s.IsDrawn) :
    containsText "FLAG" s.app = false := by
  have happs : ∀ app ∈ apps, containsText "FLAG" app = false := by decide +kernel
  exact happs _ h.app

theorem Signin.IsDrawn.containsText_agent {s : Signin} (h : s.IsDrawn) :
    containsText "FLAG" s.agent = false := by
  rw [h.agent]
  decide +kernel

/-- The users that carry a flag. -/
def flaggedUsers : List String :=
  ["FLAG\x7bkql_kung_fu_proj3ct_m4st3r\x7d@yourcompany.com",
    "FLAG\x7bkql_kung_fu_unique_find\x7d@yourcompany.com"]

/-- Of the users of the sign-ins two carry a flag. -/
theorem AreSignins.filter_users (h : AreSignins rows) :
    (rows.map (Record.text · "UserPrincipalName")).filter (containsText "FLAG") =
      flaggedUsers := by
  rw [List.filter_map, h.map_filter (fun _ _ => rfl) (fun _ _ => rfl)
    fun s hs => hs.containsText_user]
  decide +kernel

/-! ## Security events -/

/-- A row that shows a drawn security event. -/
def IsDrawnEvent (row : Record) : Prop :=
  ∃ back < week, ∃ kind ∈ eventKinds, ∃ computer ∈ computers, ∃ account ∈ accounts,
    row = securityEvent (timeBefore back) kind.1 kind.2 computer account

theorem yields_drawnSecurityEvent : Yields drawnSecurityEvent IsDrawnEvent :=
  (yields_timeWithin (by decide)).bind fun time ⟨back, hback, htime⟩ =>
    (yields_oneOf (List.cons_ne_nil _ _) _).bind fun kind hkind =>
      (yields_oneOf (List.cons_ne_nil _ _) _).bind fun computer hcomputer =>
        (yields_oneOf (List.cons_ne_nil _ _) _).bind fun account haccount =>
          yields_pure ⟨back, hback, kind, hkind, computer, hcomputer, account, haccount,
            htime ▸ rfl⟩

/-- The rows of the security events: those placed by hand and the drawn ones. -/
def AreSecurityEvents (rows : List Record) : Prop :=
  ∃ drawn : List Record, drawn.length = 96 ∧ (∀ row ∈ drawn, IsDrawnEvent row) ∧
    rows = fixedSecurityEvents ++ drawn

theorem yields_securityEvents : Yields securityEvents AreSecurityEvents :=
  (yields_times_forall fun _ _ => yields_drawnSecurityEvent).bind fun drawn hdrawn =>
    yields_pure ⟨drawn, hdrawn.1, hdrawn.2, rfl⟩

/-- Of the activities one is a flag. -/
theorem AreSecurityEvents.filter_activities (h : AreSecurityEvents rows) :
    (rows.map (Record.text · "Activity")).filter (containsText "FLAG") =
      ["FLAG\x7bkql_kung_fu_first_steps\x7d"] := by
  obtain ⟨drawn, -, hall, rfl⟩ := h
  have hkinds : ∀ kind ∈ eventKinds, ¬containsText "FLAG" kind.2 = true := by decide +kernel
  have hnone : (drawn.map (Record.text · "Activity")).filter (containsText "FLAG") = [] := by
    refine List.filter_eq_nil_iff.mpr (List.forall_mem_map.mpr fun row hrow => ?_)
    obtain ⟨back, -, kind, hkind, computer, -, account, -, rfl⟩ := hall row hrow
    exact hkinds kind hkind
  rw [List.map_append, List.filter_append, hnone, List.append_nil]
  decide +kernel

/-! ## Network flows -/

/-- A row that shows the flow of the port scan to the port after the given number. -/
def IsScanFlow (i : Nat) (row : Record) : Prop :=
  ∃ back < hour, row =
    flow (timeBefore back) "192.168.100.50" "10.0.2.100" (40000 + (i + 1)) (i + 1) "D" "I"

/-- The rows of the network flows: those placed by hand and the port scan between them. -/
def AreNetworkFlows (rows : List Record) : Prop :=
  ∃ scan : List Record, List.Forall₂ IsScanFlow (List.range 443) scan ∧
    rows = firstFlows ++ scan ++ [lastFlow]

theorem yields_scanFlow (i : Nat) : Yields (scanFlow i) (IsScanFlow i) :=
  (yields_timeWithin (by decide)).bind fun time ⟨back, hback, htime⟩ =>
    yields_pure ⟨back, hback, htime ▸ rfl⟩

theorem yields_networkFlows : Yields networkFlows AreNetworkFlows :=
  (yields_times fun i _ => yields_scanFlow i).bind fun scan hscan =>
    yields_pure ⟨scan, hscan, rfl⟩

/-- Times before the present have lesser texts than the present. -/
theorem timeBefore_lt_present (back : Nat) :
    timeBefore back < String.ofList (Time.isoText present) := by
  have hpresent : present < Time.endOfYears := by decide
  have hbefore : present - (back + 1) < present := by
    unfold present
    omega
  exact (Time.ofList_isoText_lt_iff (hbefore.trans hpresent) hpresent).mpr hbefore

/-- The last flow is the latest one. -/
theorem AreNetworkFlows.text_lt (h : AreNetworkFlows rows) :
    ∀ row ∈ rows, row = lastFlow ∨
      Record.text row "TimeGenerated" < Record.text lastFlow "TimeGenerated" := by
  obtain ⟨scan, hscan, rfl⟩ := h
  have hfirst : ∀ row ∈ firstFlows,
      Record.text row "TimeGenerated" < Record.text lastFlow "TimeGenerated" := by decide +kernel
  have htimes : ∀ row ∈ scan,
      Record.text row "TimeGenerated" < Record.text lastFlow "TimeGenerated" := by
    refine forall_mem_of_forall₂ hscan ?_
    rintro i _ ⟨back, -, rfl⟩
    exact timeBefore_lt_present back
  intro row hrow
  rw [List.mem_append, List.mem_append, List.mem_singleton] at hrow
  rcases hrow with (hrow | hrow) | hrow
  · exact .inr (hfirst row hrow)
  · exact .inr (htimes row hrow)
  · exact .inl hrow

theorem AreNetworkFlows.lastFlow_mem (h : AreNetworkFlows rows) : lastFlow ∈ rows := by
  obtain ⟨scan, -, rfl⟩ := h
  exact List.mem_append_right _ List.mem_cons_self

/-- The addresses that flows come from, in the order in which they are first met. -/
theorem AreNetworkFlows.columnTexts_sources (h : AreNetworkFlows rows) :
    Stage.columnTexts "SrcIP_s" rows = ["10.0.1.50", "185.234.72.100", "192.168.100.50"] := by
  obtain ⟨scan, hscan, rfl⟩ := h
  have hsources : scan.map (Record.text · "SrcIP_s") =
      (List.range 443).map fun _ => "192.168.100.50" :=
    map_eq_map_of_forall₂ hscan fun _ _ ⟨_, _, hrow⟩ => hrow ▸ rfl
  rw [Stage.columnTexts, List.map_append, List.map_append, hsources]
  decide +kernel

/-- The texts of the ports that the port scan reaches. -/
def scannedPorts : List String := (List.range 443).map fun i => (Value.ofCount (i + 1)).text

/-- The texts of the scanned ports all differ. -/
theorem nodup_scannedPorts : scannedPorts.Nodup := by
  refine List.Nodup.map_on (fun i hi j hj hij => ?_) List.nodup_range
  rw [List.mem_range] at hi hj
  rw [Value.text_ofCount (by omega), Value.text_ofCount (by omega), String.ofList_inj] at hij
  have hvalues := congrArg Decimal.digitsValue hij
  rw [Decimal.digitsValue_digits, Decimal.digitsValue_digits] at hvalues
  omega

/-- The ports that are tried from an address. -/
theorem AreNetworkFlows.map_filter_source (h : AreNetworkFlows rows) (source : String) :
    (rows.filter (Record.text · "SrcIP_s" == source)).map (Record.text · "DestPort_d") =
      (firstFlows.filter (Record.text · "SrcIP_s" == source)).map (Record.text · "DestPort_d") ++
        (if source = "192.168.100.50" then scannedPorts else []) ++
        ([lastFlow].filter (Record.text · "SrcIP_s" == source)).map
          (Record.text · "DestPort_d") := by
  obtain ⟨scan, hscan, rfl⟩ := h
  have hsource : ∀ row ∈ scan, Record.text row "SrcIP_s" = "192.168.100.50" :=
    forall_mem_of_forall₂ hscan fun _ _ ⟨_, _, hrow⟩ => hrow ▸ rfl
  have hports : scan.map (Record.text · "DestPort_d") = scannedPorts :=
    map_eq_map_of_forall₂ hscan fun _ _ ⟨_, _, hrow⟩ => hrow ▸ rfl
  have hfilter : (scan.filter (Record.text · "SrcIP_s" == source)).map
      (Record.text · "DestPort_d") = if source = "192.168.100.50" then scannedPorts else [] := by
    split
    next he =>
      rw [← hports, List.filter_eq_self.mpr fun row hrow => ?_]
      rw [hsource row hrow, he, beq_self_eq_true]
    next hne =>
      rw [List.filter_eq_nil_iff.mpr fun row hrow => ?_, List.map_nil]
      rw [hsource row hrow, beq_iff_eq]
      exact fun he => hne he.symm
  rw [List.filter_append, List.filter_append, List.map_append, List.map_append, hfilter]

/-! ## The store -/

/-- The practice dataset of any seed: its tables with the rows that they have whatever the keystream
is. -/
structure IsDataset (store : Store) : Prop where
  signins : ∃ rows, store.get? "SigninLogs" = some rows ∧ AreSignins rows
  securityEvents : ∃ rows, store.get? "SecurityEvent" = some rows ∧ AreSecurityEvents rows
  operations : store.get? "AzureActivity" = some operations
  networkFlows : ∃ rows, store.get? "AzureNetworkAnalytics_CL" = some rows ∧ AreNetworkFlows rows
  alerts : store.get? "SecurityAlert" = some alerts

/-- The tables of a practice dataset, of which three are given. -/
def storeOf (signins events flows : List Record) : Store :=
  .ofPairs
    [("SigninLogs", signins), ("SecurityEvent", events), ("AzureActivity", operations),
     ("AzureNetworkAnalytics_CL", flows), ("SecurityAlert", alerts)]

theorem isDataset_storeOf {signins events flows : List Record} (hsignins : AreSignins signins)
    (hevents : AreSecurityEvents events) (hflows : AreNetworkFlows flows) :
    IsDataset (storeOf signins events flows) :=
  ⟨⟨signins, rfl, hsignins⟩, ⟨events, rfl, hevents⟩, rfl, ⟨flows, rfl, hflows⟩, rfl⟩

theorem yields_draw :
    Yields draw fun store => ∃ signins events flows, AreSignins signins ∧
      AreSecurityEvents events ∧ AreNetworkFlows flows ∧ storeOf signins events flows = store := by
  unfold draw
  refine yields_signins.bind fun signins hsignins => ?_
  refine yields_securityEvents.bind fun events hevents => ?_
  refine yields_networkFlows.bind fun flows hflows => ?_
  exact yields_pure ⟨signins, events, flows, hsignins, hevents, hflows, rfl⟩

/-- The dataset as a function of the seed. It is stated of the functions, since comparing their
values at a seed makes the kernel draw the dataset. -/
theorem ofSeed_eq : ofSeed = fun seed => (draw (Keystream.ofSeed seed)).1 := rfl

/-- The practice dataset of every seed, by the rows of the tables that are drawn. -/
theorem exists_storeOf_eq_ofSeed (seed : UInt64) :
    ∃ signins events flows, AreSignins signins ∧ AreSecurityEvents events ∧
      AreNetworkFlows flows ∧ storeOf signins events flows = ofSeed seed := by
  rw [ofSeed_eq]
  exact yields_draw _

/-- The practice dataset of every seed is one. -/
theorem isDataset_ofSeed (seed : UInt64) : IsDataset (ofSeed seed) := by
  obtain ⟨signins, events, flows, hsignins, hevents, hflows, hstore⟩ :=
    exists_storeOf_eq_ofSeed seed
  rw [← hstore]
  exact isDataset_storeOf hsignins hevents hflows

end LogQuery.Dataset
