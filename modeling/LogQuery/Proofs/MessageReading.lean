import LogQuery.Api.Route
import LogQuery.Proofs.PrintedNumbers
import LogQuery.Proofs.StageRows
import LogQuery.Report.Reporter

/-!
# Messages are read back

A query that is sent as a document arrives as it is, and the answer that is sent back, in its
envelope or alone, is read as the answer that evaluation gives (`respond_reads_as_execute`), however
long evaluating it has taken. Every part of a message is read back from both printed forms, and
every message has exactly the fields that its reader looks for.

The answers that are read back hold exact rows (`QueryResult.IsExact`), as the answers to queries on
stores with exact rows do (`isExact_execute`). Only the time that they hold is read as the number
that its digits denote (`TimeReadsAs`), which can differ in its last place.
-/

namespace LogQuery

/-! ## Documents that are read back -/

namespace Json

/-- A document whose printed forms both read as a document. -/
structure IsReadAs (written read : Json) : Prop where
  /-- The compact form reads as the document. -/
  compact : Reads read written.compact
  /-- Every indented form reads as the document. -/
  indented : ∀ level, Reads read (written.indented level)

variable {written read : Json}

theorem IsExact.isReadAs (h : IsExact written) : written.IsReadAs written :=
  ⟨reads_compact h, reads_indented h⟩

/-- An object is read as the object of what its members are read as. -/
theorem isReadAs_object {written read : List (String × Json)}
    (h : List.Forall₂ (fun member member' => member.1 = member'.1 ∧
      member'.2.IsReadAs member.2) read written) :
    (object written).IsReadAs (.object read) where
  compact := reads_compact_object (h.imp fun _ _ hmember => ⟨hmember.1, hmember.2.compact⟩)
  indented level :=
    reads_indented_object level (h.imp fun _ _ hmember => ⟨hmember.1, hmember.2.indented _⟩)

theorem IsReadAs.ofBytes?_compactText (h : written.IsReadAs read) :
    ofBytes? written.compactText.toUTF8 = some read :=
  h.compact.ofBytes?

theorem IsReadAs.ofBytes?_indentedText (h : written.IsReadAs read) :
    ofBytes? written.indentedText.toUTF8 = some read :=
  (h.indented 0).ofBytes?

/-- A finite number is printed by its digits, at whatever level it stands. -/
theorem isReadAs_float {x y : Float} (hfinite : x.isFinite = true)
    (h : Reads (.float y) (floatStyle.writeFinite x)) :
    (ofValue (.float x)).IsReadAs (.float y) := by
  have hdocument : ofValue (.float x) = .float x := if_pos hfinite
  rw [hdocument]
  exact ⟨h, fun _ => h⟩

theorem mapM_string?_map_string (texts : List String) :
    (texts.map string).mapM string? = some texts := by
  induction texts with
  | nil => rfl
  | cons text texts ih =>
    rw [List.map_cons, List.mapM_cons, ih]
    rfl

end Json

/-! ## Requests -/

namespace QueryRequest

theorem ofJson?_ofBytes? (request : QueryRequest) :
    (Json.ofBytes? request.toJson.compactText.toUTF8).bind ofJson? = some request := by
  have hexact : request.toJson.IsExact :=
    .object (List.forall_mem_singleton.mpr (.string request.query))
  rw [hexact.isReadAs.ofBytes?_compactText]
  rfl

end QueryRequest

/-! ## Answers -/

/-- A time that is printed as a number, and the number that its digits are read as. -/
def TimeReadsAs (elapsed time : Float) : Prop :=
  (Json.ofValue (.float elapsed)).IsReadAs (.float time)

/-- Every time below `2 ^ 53` milliseconds is printed as a number. -/
theorem exists_timeReadsAs {elapsed : Float} (h : Decimal.IsModest elapsed) :
    ∃ time, TimeReadsAs elapsed time := by
  obtain ⟨time, htime⟩ := Json.exists_reads_writeFinite h
  exact ⟨time, Json.isReadAs_float (Decimal.isFinite_of_isModest h) htime⟩

namespace QueryResult

/-- The answers that are read back, when in each value of a row at most `room` lists and records
stand inside one another. -/
structure IsExact (room : Nat) (result : QueryResult) : Prop where
  /-- The rows are exact. -/
  rows : AreExact room result.rows
  /-- The number of rows fits sixty-four bits. -/
  rowCount_lt : result.rowCount < UInt64.size

/-- An answer as a document, with the time as the given document. -/
def documentWith (time : Json) (result : QueryResult) : Json :=
  .object ([("columns", .array (result.columns.map .string)), ("rows", .ofRows result.rows),
    ("rowCount", .integer result.rowCount), ("executionTime", time)] ++
      result.error.toList.map fun message => ("error", .string message))

variable {room : Nat} {result : QueryResult} {time : Float}

theorem toJson_eq_documentWith (result : QueryResult) :
    result.toJson = result.documentWith (.ofValue (.float result.executionTime)) := rfl

/-- An exact answer is read back up to its time. -/
theorem IsExact.isReadAs (h : result.IsExact room)
    (htime : TimeReadsAs result.executionTime time) :
    result.toJson.IsReadAs (result.documentWith (.float time)) := by
  have hcolumns : Json.IsExact (.array (result.columns.map .string)) :=
    .array (List.forall_mem_map.mpr fun column _ => .string column)
  have hcount : Json.IsExact (.integer result.rowCount) := by
    have hlt : result.rowCount < 0x10000000000000000 := h.rowCount_lt
    exact .integer (by omega) (by omega)
  rw [toJson_eq_documentWith]
  refine Json.isReadAs_object (.cons ⟨rfl, hcolumns.isReadAs⟩ (.cons ⟨rfl, ?_⟩
    (.cons ⟨rfl, hcount.isReadAs⟩ (.cons ⟨rfl, htime⟩ ?_))))
  · exact (Json.isExact_ofRows h.rows).isReadAs
  · refine List.forall₂_same.mpr (List.forall_mem_map.mpr fun message _ => ⟨rfl, ?_⟩)
    exact (Json.IsExact.string message).isReadAs

theorem fields?_documentWith (time : Json) (result : QueryResult) :
    (result.documentWith time).fields? ["columns", "rows", "rowCount", "executionTime", "error"] 1 =
      some [some (.array (result.columns.map .string)), some (.ofRows result.rows),
        some (.integer result.rowCount), some time, result.error.map .string] := by
  obtain ⟨columns, rows, rowCount, executionTime, error⟩ := result
  cases error <;> rfl

/-- The document that an exact answer is read as is the answer, with the time that was read. -/
theorem IsExact.ofJson?_documentWith {room' : Nat} (h : result.IsExact room)
    (hle : room + 3 ≤ room') (time : Float) :
    ofJson? room' (result.documentWith (.float time)) =
      some { result with executionTime := time } := by
  obtain ⟨n, rfl⟩ : ∃ n, room' = n + 3 := ⟨room' - 3, by omega⟩
  have hrows : (Json.ofRows result.rows).rows? (n + 2) = some result.rows :=
    Json.rows?_ofRows (h.rows.mono (by omega))
  have hcount : (Json.integer result.rowCount).count? = some result.rowCount := by
    rw [Json.count?, if_pos (Int.natCast_nonneg _), Int.toNat_natCast]
  have htime : (Json.float time).float? = some time := rfl
  have herror : Json.optional? Json.string? (result.error.map .string) = some result.error := by
    cases result.error <;> rfl
  rw [ofJson?, fields?_documentWith]
  simp only [Option.bind_eq_bind, Option.bind_some, Json.strings?, Json.mapM_string?_map_string,
    Nat.add_one_sub_one, hrows, hcount, htime, herror, Option.pure_def]

end QueryResult

/-! ## Envelopes -/

namespace Reply

variable {room : Nat} {reply : Reply QueryResult} {time : Float}

/-- The envelope of an exact answer is read back up to the time of the answer. -/
theorem isReadAs_toJson (h : ∀ result ∈ reply.data, result.IsExact room)
    (htime : ∀ result ∈ reply.data, TimeReadsAs result.executionTime time) :
    (reply.toJson QueryResult.toJson).IsReadAs
      (reply.toJson (QueryResult.documentWith (.float time))) := by
  obtain ⟨success, error, data⟩ := reply
  refine Json.isReadAs_object (.cons ⟨rfl, (Json.IsExact.boolean success).isReadAs⟩
    (.cons ⟨rfl, ?_⟩ (.cons ⟨rfl, ?_⟩ .nil)))
  · cases error with
    | none => exact Json.IsExact.null.isReadAs
    | some error => exact (Json.IsExact.string error).isReadAs
  · cases data with
    | none => exact Json.IsExact.null.isReadAs
    | some result => exact (h result rfl).isReadAs (htime result rfl)

/-- The envelope that is read holds the answer, with the time that was read. -/
theorem ofResultJson?_toJson (h : ∀ result ∈ reply.data, result.IsExact room)
    (hle : room + 3 ≤ Json.maxDepth - 1) (time : Float) :
    ofResultJson? (reply.toJson (QueryResult.documentWith (.float time))) =
      some { reply with data := reply.data.map fun result =>
        { result with executionTime := time } } := by
  obtain ⟨success, error, data⟩ := reply
  have herror : Json.optional? Json.string? ((error.map Json.string).getD .null) = some error := by
    cases error <;> rfl
  have hdata : Json.optional? (QueryResult.ofJson? (Json.maxDepth - 1))
      ((data.map (QueryResult.documentWith (.float time))).getD .null) =
        some (data.map fun result => { result with executionTime := time }) := by
    cases data with
    | none => rfl
    | some result => exact congrArg (Option.map some) ((h result rfl).ofJson?_documentWith hle time)
  have hfields : (toJson (QueryResult.documentWith (.float time)) ⟨success, error, data⟩).fields?
      ["success", "error", "data"] 0 = some [some (.boolean success),
        some ((error.map Json.string).getD .null),
        some ((data.map (QueryResult.documentWith (.float time))).getD .null)] := rfl
  rw [ofResultJson?, ofJson?, hfields]
  simp only [Option.bind_eq_bind, Option.bind_some, Json.boolean?, herror, hdata, Option.pure_def]

end Reply

/-! ## Answers to queries -/

/-- Stores whose rows are exact, with fewer rows in a table than sixty-four bits can count. -/
structure Store.IsExact (room : Nat) (store : Store) : Prop where
  /-- In each value of a row at most `room` lists and records stand inside one another. -/
  rows : ∀ table ∈ store.entries, AreExact room table.2
  /-- The number of rows fits sixty-four bits. -/
  length_lt : ∀ table ∈ store.entries, table.2.length < UInt64.size

namespace Query

variable {room : Nat} {store : Store} {query : String} {rows : List Record}

/-- The rows that a query asks for are exact when those of the store are, and no more than can be
counted. -/
theorem isExact_of_run (h : store.IsExact room) (hrun : run store query = .ok rows) :
    AreExact room rows ∧ rows.length < UInt64.size := by
  rw [run] at hrun
  split at hrun
  · cases hrun
  · split at hrun
    · cases hrun
    next hget =>
      obtain rfl := Except.ok.inj hrun
      have htable := OrderedMap.mem_entries_of_get? hget
      refine ⟨isExact_runStages (h.rows _ htable) _, ?_⟩
      exact (length_runStages_le _ _).trans_lt (max_lt (by decide) (h.length_lt _ htable))

/-- The time tells when an answer was found and nothing else about it. -/
theorem execute_withTime (store : Store) (query : String) (elapsed time : Float) :
    { execute store query elapsed with executionTime := time } = execute store query time := by
  rw [execute, execute]
  cases run store query <;> rfl

@[simp] theorem executionTime_execute (store : Store) (query : String) (elapsed : Float) :
    (execute store query elapsed).executionTime = elapsed := by
  rw [execute]
  cases run store query <;> rfl

/-- On a store with exact rows every query has an answer that is read back. -/
theorem isExact_execute (h : store.IsExact room) (query : String) (elapsed : Float) :
    (execute store query elapsed).IsExact room := by
  rw [execute]
  cases hrun : run store query with
  | ok rows =>
    obtain ⟨hrows, hlength⟩ := isExact_of_run h hrun
    exact ⟨hrows, hlength⟩
  | error error =>
    have hnone : 0 < UInt64.size := by decide
    exact ⟨List.forall_mem_nil _, hnone⟩

end Query

namespace Api

/-- The request that sends a query, with the given announcement of its body. -/
def queryRequest (contentType : Option String) (query : String) : Request where
  method := "POST"
  path := "/api/query"
  contentType := contentType
  body := (QueryRequest.toJson ⟨query⟩).compactText.toUTF8

theorem body_queryRequest (contentType : Option String) (query : String) :
    (queryRequest contentType query).body =
      (QueryRequest.toJson ⟨query⟩).compactText.toUTF8 := by
  rw [queryRequest]

/-- A query that is sent arrives as it is. -/
theorem ofJson?_body_queryRequest (contentType : Option String) (query : String) :
    (Json.ofBytes? (queryRequest contentType query).body).bind QueryRequest.ofJson? =
      some ⟨query⟩ := by
  rw [body_queryRequest, QueryRequest.ofJson?_ofBytes?]

/-- A query that is sent is answered in the envelope. -/
theorem respond_queryRequest {contentType : Option String}
    (h : contentType.all isDocumentType = true) (store : Store) (query : String)
    (elapsed : Float) :
    respond store (queryRequest contentType query) elapsed =
      .ok (queryReply store elapsed query) := by
  have hsegments : segments (queryRequest contentType query).path = ["api", "query"] := by
    show segments "/api/query" = _
    decide
  have hquery : requestedQuery (queryRequest contentType query) = .ok query := by
    rw [requestedQuery, ofJson?_body_queryRequest]
    exact if_pos h
  rw [respond, hsegments]
  show (if _ then (requestedQuery _).map _ else _) = _
  rw [hquery]
  rfl

/-- The status that an answer or a rejection is sent with. -/
def status : Except Rejection Json → Nat
  | .ok _ => statusOk
  | .error rejection => rejection.status

/-- A query that is sent arrives as it is and is answered with status 200. The answer is read as the
one that evaluation gives, out of its envelope or out of the report in documents, whatever the times
that sending and evaluating it take. The time that it holds is read as the number that its digits
denote; every time below `2 ^ 53` milliseconds is printed as a number. -/
theorem respond_reads_as_execute {store : Store} {contentType : Option String}
    (hstore : store.IsExact 100) (htype : contentType.all isDocumentType = true)
    (query : String) (elapsed : Float) :
    (Json.ofBytes? (queryRequest contentType query).body).bind QueryRequest.ofJson? =
        some ⟨query⟩ ∧
      status (respond store (queryRequest contentType query) elapsed) = 200 ∧
      (Decimal.IsModest elapsed → ∃ time, TimeReadsAs elapsed time) ∧
      ∀ time, TimeReadsAs elapsed time → ∀ ownTime,
        (∃ document, respond store (queryRequest contentType query) elapsed = .ok document ∧
          (Json.ofBytes? document.compactText.toUTF8).bind Reply.ofResultJson? =
            some { success := (Query.execute store query ownTime).error.isNone
                   error := (Query.execute store query ownTime).error
                   data := some { Query.execute store query ownTime with
                     executionTime := time } }) ∧
        ∀ color, (Json.ofBytes? (Report.Reporter.result { format := .json, color }
            (Query.execute store query elapsed)).toUTF8).bind (QueryResult.ofJson? Json.maxDepth) =
          some { Query.execute store query ownTime with executionTime := time } := by
  have hexact := Query.isExact_execute hstore query elapsed
  have hrespond := respond_queryRequest htype store query elapsed
  refine ⟨?_, ?_, exists_timeReadsAs, fun time htime ownTime =>
    ⟨⟨_, hrespond, ?_⟩, fun color => ?_⟩⟩
  · exact ofJson?_body_queryRequest contentType query
  · rw [hrespond]
    rfl
  · have hown : (Query.execute store query ownTime).error =
        (Query.execute store query elapsed).error := by
      rw [← Query.execute_withTime store query elapsed ownTime]
    rw [Query.execute_withTime, hown, ← Query.execute_withTime store query elapsed time, queryReply]
    have hdata : ∀ result ∈ some (Query.execute store query elapsed), result.IsExact 100 := by
      intro result hresult
      rwa [← Option.mem_some_iff.mp hresult]
    have hread : ∀ result ∈ some (Query.execute store query elapsed),
        TimeReadsAs result.executionTime time := by
      intro result hresult
      rwa [← Option.mem_some_iff.mp hresult, Query.executionTime_execute]
    rw [(Reply.isReadAs_toJson hdata hread).ofBytes?_compactText]
    exact Reply.ofResultJson?_toJson hdata (by decide) time
  · have htext : Report.Reporter.result { format := .json, color }
        (Query.execute store query elapsed) =
          (Query.execute store query elapsed).toJson.indentedText := rfl
    rw [← Query.executionTime_execute store query elapsed] at htime
    rw [htext, (hexact.isReadAs htime).ofBytes?_indentedText]
    rw [Query.execute_withTime, ← Query.execute_withTime store query elapsed time]
    exact hexact.ofJson?_documentWith (by decide) time

/-- A store with characters that have to be escaped and a record inside a list. -/
def sampleStore : Store :=
  .ofPairs [("T",
    [⟨[("a", .array [.object ⟨[("é", .string "\x00\"")]⟩]), ("b", .integer (-1))]⟩, ⟨[]⟩])]

/-- A query with characters that have to be escaped, which keeps one row. -/
def sampleQuery : String := "T\n| where a contains \"é\"\t| limit 1"

/-- A quarter of a millisecond is read as it is. -/
theorem timeReadsAs_quarter : TimeReadsAs 0.25 0.25 := by
  have hnumeral : (⟨false, ['0'], ['2', '5'], none⟩ : Json.Numeral).IsWellFormed :=
    ⟨by decide, by decide, by decide, by decide, nofun⟩
  refine Json.isReadAs_float (by decide +kernel) ?_
  have htext : Json.floatStyle.writeFinite 0.25 = ['0', '.', '2', '5'] := by decide +kernel
  rw [htext]
  exact Json.reads_numeral hnumeral

theorem respond_reads_sampleQuery :
    sampleStore.IsExact 100 ∧ isDocumentType "application/json" = true ∧
      TimeReadsAs 0.25 0.25 ∧ ∀ ownTime,
      ∃ document, respond sampleStore (queryRequest "application/json" sampleQuery) 0.25 =
          .ok document ∧
        (Json.ofBytes? document.compactText.toUTF8).bind Reply.ofResultJson? =
          some { success := (Query.execute sampleStore sampleQuery ownTime).error.isNone
                 error := (Query.execute sampleStore sampleQuery ownTime).error
                 data := some { Query.execute sampleStore sampleQuery ownTime with
                   executionTime := 0.25 } } := by
  have hentries : OrderedMap.entries sampleStore = [("T", (sampleStore.get? "T").getD [])] := rfl
  have hrows : (sampleStore.get? "T").getD [] =
      [⟨[("a", .array [.object ⟨[("é", .string "\x00\"")]⟩]), ("b", .integer (-1))]⟩, ⟨[]⟩] := rfl
  have hstore : sampleStore.IsExact 100 := by
    constructor
    · rw [hentries, hrows]
      simp [AreExact, OrderedMap.Distinct, OrderedMap.names, or_imp, forall_and]
    · rw [hentries, hrows]
      simp [UInt64.size]
  have htype : isDocumentType "application/json" = true := by decide
  obtain ⟨-, -, -, hanswer⟩ :=
    @respond_reads_as_execute sampleStore "application/json" hstore htype sampleQuery 0.25
  exact ⟨hstore, htype, timeReadsAs_quarter,
    fun ownTime => (hanswer 0.25 timeReadsAs_quarter ownTime).1⟩

end Api

end LogQuery
