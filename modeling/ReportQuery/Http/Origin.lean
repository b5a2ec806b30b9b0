import ReportQuery.Http.Message

/-!
# Requests from other origins

A browser tells the origin of the page that makes a request, and before some requests it asks
whether they are allowed. A listed origin is named in every response to it, so that the page may
read the response; any other origin is not. A question is answered without looking at its path.
-/

namespace ReportQuery.Http

/-- The methods that pages of other origins may use. -/
def sharedMethods : List String := ["DELETE", "GET", "HEAD", "OPTIONS", "PATCH", "POST", "PUT"]

/-- The origin of a request, if it is listed. -/
def allowedOrigin (origins : List String) (r : Request) : Option String :=
  (r.header? "origin").filter (· ∈ origins)

/-- The answer to a question, with everything that is not allowed. -/
def preflight (origins : List String) (r : Request) (method : String) : Response :=
  let origin := allowedOrigin origins r
  let failures := (if origin.isSome then [] else ["origin"]) ++
    (if method ∈ sharedMethods then [] else ["method"])
  if failures.isEmpty then { body := .text "OK", allowOrigin := origin }
  else
    { status := 400
      body := .text ("Disallowed CORS " ++ ", ".intercalate failures)
      allowOrigin := origin }

/-- The method that a request asks about, if it is a question. -/
def preflightMethod? (r : Request) : Option String :=
  if r.method = "OPTIONS" ∧ (r.header? "origin").isSome then
    r.header? "access-control-request-method"
  else none

/-- The response with the origin of the request, if it is listed. -/
def Response.shared (origins : List String) (r : Request) (response : Response) : Response :=
  { response with allowOrigin := allowedOrigin origins r }

end ReportQuery.Http
