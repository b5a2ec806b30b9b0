import ReportQuery.Http.Document
import ReportQuery.Http.Path
import ReportQuery.Text.Blank

/-!
# Requests and responses

A request has a method, a target, headers and perhaps a body; a response has a status and a
body. A body is a JSON document or a text. The content of a request depends on what its headers
say of its body: only a body that is declared as JSON is read as a document.

A response with a document that cannot be sent becomes one that only says that answering failed.
-/

namespace ReportQuery.Http

/-- A JSON document or a text. -/
inductive Body where
  | document (v : Value)
  | text (s : String)

/-- A request. -/
structure Request where
  method : String
  target : String
  headers : Fields String := []
  body : Option Body := none

/-- A response, and the origin that it may be shown to besides its own. -/
structure Response where
  status : Nat := 200
  body : Body
  allowOrigin : Option String := none

namespace Request

/-- The path of the target. -/
def path (r : Request) : List Char :=
  Path.ofTarget r.target

/-- A header, whatever the case of its name. -/
def header? (r : Request) (name : String) : Option String :=
  (r.headers.find? fun h ↦ h.1.toLower = name).map (·.2)

end Request

/-! ### Content -/

/-- The type of a body without its parameters, in lower case. -/
def mediaType (header : String) : List Char :=
  (Text.trim (header.toList.takeWhile (· ≠ ';'))).map Char.toLower

/-- Bodies of this type are JSON documents: the type is `application`, and the subtype is `json`
or ends in `+json`. -/
def isJsonType (header : String) : Bool :=
  match Text.splitAt '/' (mediaType header) with
  | [type, subtype] =>
    type = "application".toList &&
      (subtype = "json".toList || "+json".toList.isSuffixOf subtype)
  | _ => false

/-- What a request holds: nothing, a text that should be a document and is none, a document, or
octets of some other type. -/
inductive Content where
  | missing
  | unreadable
  | document (v : Value)
  | octets

/-- A text without the byte order mark that it may begin with. -/
def withoutOrderMark (text : String) : String :=
  if text.toList.head? = some '\ufeff' then String.ofList text.toList.tail else text

/-- What the JSON text of a body holds. -/
def contentOfText (text : String) : Content :=
  match Json.read (withoutOrderMark text) with
  | .ok v => .document v
  | .error _ => .unreadable

/-- The content of a request. A body of no declared type is read as octets. -/
def Request.content (r : Request) : Content :=
  match r.body with
  | none => .missing
  | some (.text "") => .missing
  | some body =>
    if (r.header? "content-type").any isJsonType then
      match body with
      | .document v => .document v
      | .text s => contentOfText s
    else .octets

/-! ### Plain responses -/

namespace Response

/-- A response with a document. -/
def ok (v : Value) : Response where
  body := .document v

/-- A response that says no more than what is wrong. -/
def refusal (status : Nat) (detail : String) : Response where
  status := status
  body := .document (.record [("detail", .text detail)])

/-- There is nothing at the path. -/
def notFound : Response := refusal 404 "Not Found"

/-- There is something at the path, but not for this method. -/
def methodNotAllowed : Response := refusal 405 "Method Not Allowed"

/-- Answering failed in a way that nothing foresaw. -/
def internalError : Response where
  status := 500
  body := .text "Internal Server Error"

/-- The response as it is sent. -/
def sent (r : Response) : Response :=
  match r.body with
  | .document v => if v.isSendable then r else internalError
  | .text _ => r

/-- The response without its body, as the method `HEAD` has it. -/
def headOnly (r : Response) : Response :=
  { r with body := .text "" }

end Response

end ReportQuery.Http
