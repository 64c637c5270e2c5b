import ActionFlow.Json.Reader
import ActionFlow.Text.Search

/-!
# Responses over HTTP

What a server answers, and what can go wrong before it answers. Header names are the same
in upper and lower case, and the last header of a name counts. A response whose type says
so is read as JSON; any other stands for its text and its status.
-/

namespace ActionFlow.Http

/-- A response of a server. -/
structure Response where
  /-- The status. -/
  status : Int
  /-- The phrase that goes with the status. -/
  reason : String
  /-- The headers. -/
  headers : List (String × String)
  /-- The body. -/
  body : String

namespace Response

/-- The response of a server that says nothing but that all is well. -/
def empty : Response := ⟨200, "OK", [], ""⟩

/-- The value of a header, whose name is given in lower case. -/
def header? (r : Response) (name : String) : Option String :=
  (r.headers.reverse.find? fun (key, _) => key.map Char.toLower == name).map Prod.snd

/-- Whether the response says that its body is JSON. -/
def isJson (r : Response) : Bool :=
  Text.occursIn "application/json".toList ((r.header? "content-type").getD "").toList

/-- What the response stands for. -/
def content (r : Response) : Except Json.ReadError Value :=
  if r.isJson then Json.read r.body
  else .ok (.object [("text", .text r.body), ("status_code", .int r.status)])

end Response

/-- What can go wrong with a request besides its response. -/
inductive Trouble where
  /-- The server could not be reached, or not in time. -/
  | network (kind message : String)
  /-- The request failed in another way; a response may have come with it. -/
  | request (message : String) (status : Option Int)
  /-- A key is missing behind the client. -/
  | missingKey (key : String)
  /-- Something that has nothing to do with requests. -/
  | other (kind message : String)

/-- The kinds of network trouble. -/
def networkKinds : List String :=
  ["Timeout", "ReadTimeout", "ConnectTimeout", "ConnectionError", "SSLError", "ProxyError"]

/-- The other kinds of trouble with requests. -/
def requestKinds : List String :=
  ["RequestException", "HTTPError", "InvalidJSONError", "JSONDecodeError", "URLRequired",
    "TooManyRedirects", "MissingSchema", "InvalidSchema", "InvalidURL", "InvalidHeader",
    "InvalidProxyURL", "ChunkedEncodingError", "ContentDecodingError", "StreamConsumedError",
    "RetryError", "UnrewindableBodyError"]

/-- The trouble of a named kind, with the status of a response that came with it. -/
def Trouble.ofKind (kind message : String) (status : Option Int) : Trouble :=
  if networkKinds.contains kind then .network kind message
  else if requestKinds.contains kind then .request message status
  else if kind = "KeyError" then .missingKey message
  else .other kind message

/-- How a request ends. -/
inductive Outcome where
  /-- The server answers. -/
  | answered (response : Response)
  /-- It does not. -/
  | troubled (trouble : Trouble)

end ActionFlow.Http
