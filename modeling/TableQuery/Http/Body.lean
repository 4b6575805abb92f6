import TableQuery.Failure
import TableQuery.Http.MediaType
import TableQuery.Http.Request
import TableQuery.Json.Basic
import TableQuery.Json.Record
import TableQuery.Query.Decoding

namespace TableQuery.Http

inductive Body
  | json (j : Json)
  | text (s : String)

structure Response where
  status : Nat
  body : Body

def failureStatus : FailureKind → Nat
  | .configuration | .validation | .connection => 400
  | .notFound => 404
  | .engine | .storage | .internal => 500

def failureBody (f : Failure) : Json :=
  .obj [("error", .obj [("code", .str f.kind.code), ("message", .str f.text)])]

namespace Response

def ok (j : Json) : Response := ⟨200, .json j⟩

def ofFailure (f : Failure) : Response := ⟨failureStatus f.kind, .json (failureBody f)⟩

end Response
open Json

structure SourceRequest where
  name : String
  kind : String
  location : String
deriving DecidableEq, Repr

def SourceRequest.decoder : Decoder SourceRequest :=
  Record.decoder "CreateSourceRequest" <|
    SourceRequest.mk <$> .required "name" .string <*> .required "sourceType" .string
      <*> .required "location" .string

structure QueryRequest where
  table : String
  query : Query

def QueryRequest.decoder : Decoder QueryRequest :=
  Record.decoder "QueryRequest" <|
    QueryRequest.mk <$> .required "table" .string <*> .required "query" Query.decoder

def wrongContentType : Response :=
  ⟨415, .text "Expected request with `Content-Type: application/json`"⟩

def bodyLimit : Nat := 2097152

def bodyTooLong : Response :=
  ⟨413, .text "Failed to buffer the request body: length limit exceeded"⟩

def malformedBody (detail : String) : Response :=
  ⟨400, .text ("Failed to parse the request body as JSON: " ++ detail)⟩

def misfitBody (detail : String) : Response :=
  ⟨422, .text ("Failed to deserialize the JSON body into the target type: " ++ detail)⟩

def rejected (r : Rejection) : Response :=
  if r.isMalformed then malformedBody r.located else misfitBody r.located

def Request.read {α : Type} (r : Request) (a : Decoder α) : Except Response α :=
  if !(r.contentType.bind MediaType.read?).any MediaType.isJson then .error wrongContentType
  else if bodyLimit < r.body.utf8ByteSize then .error bodyTooLong
  else
    let document := Document.ofText r.body
    match a.read .text document.root with
    | .error rejection => .error (rejected rejection)
    | .ok x =>
      if document.trailing then .error (malformedBody Fault.trailingCharacters.message) else .ok x

end TableQuery.Http
