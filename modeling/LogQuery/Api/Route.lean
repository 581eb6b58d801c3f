import LogQuery.Api.MediaType
import LogQuery.Json.Parser
import LogQuery.Json.Printer
import LogQuery.Message

/-!
# Routes

What a server answers. There are two things to ask for: the list of tables, by the method `GET`, and
the answer to a query, by the method `POST` with the query in a document. Anything else is answered
by a status alone: the path is not known, the method does not go with the path, the body is
announced as something other than a document, or the body is no request.

Of a path only the segments between slashes count, with or without a slash at the end.
-/

namespace LogQuery.Api

open Text

/-- A request as it arrives. -/
structure Request where
  method : String
  /-- The path, with what may follow it. -/
  path : String
  /-- The announced type of the body. -/
  contentType : Option String := none
  body : ByteArray := ByteArray.empty

/-- Why a request is not answered. -/
inductive Rejection where
  /-- The path is not known. -/
  | notFound
  /-- The method does not go with the path. -/
  | methodNotAllowed
  /-- The body is announced as something other than a document. -/
  | unsupportedMediaType
  /-- The body is no request. -/
  | badRequest
  deriving DecidableEq

/-- The status of an answer. -/
def statusOk : Nat := 200

/-- The status of a request that is not answered. -/
def Rejection.status : Rejection → Nat
  | notFound => 404
  | methodNotAllowed => 405
  | unsupportedMediaType => 415
  | badRequest => 400

/-- The segments of a path. -/
def segments (path : String) : List String :=
  let path := path.toList.takeWhile fun c => c ≠ '?' && c ≠ '#'
  let path := (after? ['/'] path).getD path
  let parts := path.splitOn '/'
  let parts := if parts.getLast? = some [] then parts.dropLast else parts
  parts.map String.ofList

/-- The list of tables in its envelope. -/
def tablesReply (store : Store) : Json :=
  Reply.toJson (fun tables => .array (tables.map TableInfo.toJson))
    { success := true, error := none, data := some store.tables }

/-- The answer to a query that takes so many milliseconds, in its envelope. -/
def queryReply (store : Store) (elapsed : Float) (query : String) : Json :=
  let result := Query.execute store query elapsed
  Reply.toJson QueryResult.toJson
    { success := result.error.isNone, error := result.error, data := some result }

/-- The query that the body of a request asks for. -/
def requestedQuery (request : Request) : Except Rejection String :=
  if request.contentType.all isDocumentType then
    match (Json.ofBytes? request.body).bind QueryRequest.ofJson? with
    | some message => .ok message.query
    | none => .error .badRequest
  else .error .unsupportedMediaType

/-- The answer to a request, whose query takes so many milliseconds if it asks for one. -/
def respond (store : Store) (request : Request) (elapsed : Float := 0) : Except Rejection Json :=
  match segments request.path with
  | ["api", "tables"] =>
    if request.method = "GET" then .ok (tablesReply store) else .error .methodNotAllowed
  | ["api", "query"] =>
    if request.method = "POST" then (requestedQuery request).map (queryReply store elapsed)
    else .error .methodNotAllowed
  | _ => .error .notFound

end LogQuery.Api
