import ChatBackend.Websocket.JsonText

/-!
# HttpResponse

`include/http/HttpResponse.h`, `src/http/HttpResponse.cpp` and `src/http/HttpResponseGenerator.cpp`:
a response, the error response every handler answers a bad request with, and its bytes on the
connection. The headers are listed in the order in which the hash map lists them.

## Main definitions

* `HttpStatus`, `HttpResponse`, `errorResponseMaker`
* `generateHttpResponse`
-/

namespace ChatBackend

/-- `HttpStatus`. -/
inductive HttpStatus where
  | ok | created | accepted | noContent | badRequest | unauthorized | forbidden | notFound
  | methodNotAllowed | requestTimeout | internalServerError | serviceUnavailable | badGateway
  | conflict | switchingProtocol
  deriving DecidableEq, Repr

namespace HttpStatus

/-- The value of the enumerator. -/
def code : HttpStatus → ℕ
  | ok => 200
  | created => 201
  | accepted => 202
  | noContent => 204
  | badRequest => 400
  | unauthorized => 401
  | forbidden => 403
  | notFound => 404
  | methodNotAllowed => 405
  | requestTimeout => 408
  | internalServerError => 500
  | serviceUnavailable => 503
  | badGateway => 502
  | conflict => 409
  | switchingProtocol => 101

/-- `reasonPhrase`. -/
def reasonPhrase : HttpStatus → String
  | ok => "OK"
  | created => "Created"
  | accepted => "Accepted"
  | noContent => "No Content"
  | badRequest => "Bad Request"
  | forbidden => "Forbidden"
  | notFound => "Not Found"
  | methodNotAllowed => "Method Not Allowed"
  | requestTimeout => "Request Timeout"
  | internalServerError => "Internal Server Error"
  | badGateway => "Bad Gateway"
  | serviceUnavailable => "Service Unavailable"
  | conflict => "Conflict"
  | unauthorized => "Unauthorized"
  | switchingProtocol => "Switching Protocols"

end HttpStatus

/-- `HttpResponse`. -/
structure HttpResponse where
  status : HttpStatus
  headers : List (Bytes × Bytes)
  body : Bytes
  deriving DecidableEq

/-- `response.headers[name] = value`. -/
def HttpResponse.setHeader (response : HttpResponse) (name value : String) : HttpResponse :=
  { response with
    headers := if response.headers.any fun header => header.1 = utf8 name then
      response.headers.map fun header => if header.1 = utf8 name then (header.1, utf8 value) else header
    else response.headers ++ [(utf8 name, utf8 value)] }

/-- `{"error": {"code": …, "message": …}}`. -/
def errorBody (code message : String) : Json :=
  .object [("error", .object [("code", .string code), ("message", .string message)])]

/-- `ErrorResponseMaker`. There is no number in the body, so `dtoa` is not consulted. -/
def errorResponseMaker (status : HttpStatus) (code message : String) : HttpResponse where
  status := status
  headers := [(utf8 "Content-Type", utf8 "application/json"), (utf8 "Connection", utf8 "Close")]
  body := utf8 (String.ofList (Json.dump (fun _ => "") (errorBody code message)))

/-- `HttpResponseGenerator::generateHttpResponse`. -/
def generateHttpResponse (response : HttpResponse) : Bytes :=
  utf8 "HTTP/1.1 " ++ utf8 (toString response.status.code) ++ utf8 " " ++
    utf8 response.status.reasonPhrase ++ utf8 "\r\n" ++
    (response.headers.flatMap fun header =>
      header.1 ++ utf8 ": " ++ header.2 ++ utf8 "\r\n") ++
    (if 0 < response.body.length then
      utf8 "Content-Length: " ++ utf8 (toString response.body.length) ++ utf8 "\r\n" else []) ++
    utf8 "\r\n" ++ response.body

/-- A response has at least its status line. -/
theorem generateHttpResponse_ne_nil (response : HttpResponse) : generateHttpResponse response ≠ [] := by
  intro h
  have hlen := congrArg List.length h
  have hline : (utf8 "HTTP/1.1 ").length = 9 := by decide
  simp only [generateHttpResponse, List.length_append, hline, List.length_nil] at hlen
  omega

end ChatBackend
