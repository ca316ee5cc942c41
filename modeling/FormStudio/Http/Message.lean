import FormStudio.Http.RequestLine
import FormStudio.Json.Reader
import FormStudio.Preview.Html
import FormStudio.Text.Integer
import FormStudio.Text.Utf8

/-!
# Requests and responses

A request has a method, a target, and a body of bytes, of which the header says how many count. A
response is a value or a page under a status. A body is the text of an object; nothing stands for
the empty object, and so does a body that is not announced.
-/
namespace FormStudio

/-- A request. -/
structure Request where
  method : String
  target : String
  /-- The announced length of the body, as it is written. -/
  contentLength : Option String
  body : List UInt8
  deriving DecidableEq, Repr

/-- A request as it arrives, with its first line as one text. -/
structure Arrival where
  line : String
  /-- The announced length of the body, as it is written. -/
  contentLength : Option String
  body : List UInt8
  deriving DecidableEq, Repr

/-- The request that arrives; none where the first line is blank. -/
def Arrival.request (arrival : Arrival) : Except LineFault (Option Request) :=
  (RequestLine.read arrival.line).map fun line? => line?.map fun line =>
    ⟨line.method, line.target, arrival.contentLength, arrival.body⟩

/-- The content of a response. -/
inductive Content where
  | json (value : Json)
  | page (text : String)
  /-- A page for a request that is not understood. -/
  | errorPage (text : String)
  deriving Repr

/-- A response. -/
structure Response where
  status : Nat
  content : Content
  deriving Repr

namespace Response

def contentType (response : Response) : String :=
  match response.content with
  | .json _ => "application/json"
  | .page _ => "text/html; charset=utf-8"
  | .errorPage _ => "text/html;charset=utf-8"

def object (status : Nat) (members : Members) : Response := ⟨status, .json (.obj members)⟩

/-- A response that says what is wrong. -/
def refusal (status : Nat) (message : String) : Response :=
  object status [("error", .str message)]

def notFound : Response := refusal 404 "Not Found"

/-- A response that says that something worked, and gives what came of it. -/
def success (status : Nat) (members : Members) : Response :=
  object status (("success", .bool true) :: members)

/-- The character that a text between tags shows as itself. -/
def escapeBody (cs : List Char) : List Char :=
  cs.flatMap fun c => if c = '"' ∨ c = '\'' then [c] else Html.escapeChar c

/-- The page for a request that is not understood. -/
def errorPage (status : Nat) (message explanation : String) : Response :=
  let shown (text : String) := String.ofList (escapeBody text.toList)
  let lines := ["<!DOCTYPE HTML>", "<html lang=\"en\">", "    <head>",
    "        <meta charset=\"utf-8\">", "        <title>Error response</title>", "    </head>",
    "    <body>", "        <h1>Error response</h1>",
    s!"        <p>Error code: {status}</p>",
    "        <p>Message: " ++ shown message ++ ".</p>",
    s!"        <p>Error code explanation: {status} - " ++ shown explanation ++ ".</p>",
    "    </body>", "</html>", ""]
  ⟨status, .errorPage ("\n".intercalate lines)⟩

/-- The page for a method that is not known. A request for headers alone gets no page. -/
def unsupportedMethod (method : String) : Response :=
  if method = "HEAD" then ⟨501, .errorPage ""⟩
  else
    errorPage 501 ("Unsupported method (" ++ String.ofList (Json.quoted method) ++ ")")
      "Server does not support this operation"

/-- The page for a first line that is not understood. -/
def ofLineFault (fault : LineFault) : Response :=
  errorPage fault.status fault.message fault.explanation

end Response

/-! ## Bodies -/

/-- Why a body is not read. -/
inductive BodyError where
  | notJson
  | notAnObject
  deriving DecidableEq, Repr

def BodyError.message : BodyError → String
  | .notJson => "Request body is not valid JSON"
  | .notAnObject => "Request body must be a JSON object"

/-- Why a body cannot be answered at all. -/
inductive BodyFault where
  /-- The announced length is no integer. -/
  | badLength (fault : IntegerFault)
  /-- As many bytes cannot be asked for. -/
  | noCount (length : Int)
  /-- An integer in the body has more digits than are read. -/
  | longInteger (digits : Nat)
  deriving DecidableEq, Repr

/-- The integers that a count of bytes is kept in, from the least to the largest. -/
def countBounds : Int × Int := (-2 ^ 63, 2 ^ 63 - 1)

/-- The most bytes that can be asked for: a text of bytes takes 33 of its own. -/
def countLimit : Int := countBounds.2 - 33

def BodyFault.message : BodyFault → String
  | .badLength fault => fault.message
  | .noCount length =>
    if length < countBounds.1 ∨ countBounds.2 < length then
      "cannot fit 'int' into an index-sized integer"
    -- minus one stands for all that there is, and is no fault
    else if length < 0 then "read length must be non-negative or -1"
    else "byte string is too large"
  | .longInteger digits => (IntegerFault.tooLong digits).message

namespace Request

/-- Whether a number of bytes can be asked for: all of them, for which -1 stands, or so many. What is
there can be asked for. -/
def isCount (request : Request) (length : Int) : Bool :=
  length == -1 || (0 ≤ length && length ≤ max countLimit request.body.length)

/-- The bytes of the body that count. -/
def content (request : Request) : Except BodyFault (List UInt8) :=
  let nothing := Utf8.encode "\x7b\x7d"
  match request.contentLength with
  | none => .ok nothing
  | some text =>
    match readInteger text with
    | .error fault => .error (.badLength fault)
    | .ok length =>
      if length = 0 then .ok nothing
      else if request.isCount length then
        .ok (if length < 0 then request.body else request.body.take length.toNat)
      else .error (.noCount length)

/-- The members of the object that bytes stand for. -/
def membersOf (bytes : List UInt8) : Except BodyFault (Except BodyError Members) :=
  match Utf8.decode? bytes with
  | none => .ok (.error .notJson)
  | some text =>
    match Json.read .extended text with
    | .ok (.obj members) => .ok (.ok members)
    | .ok _ => .ok (.error .notAnObject)
    | .error .malformed => .ok (.error .notJson)
    | .error (.longInteger digits) => .error (.longInteger digits)

def members (request : Request) : Except BodyFault (Except BodyError Members) := do
  membersOf (← request.content)

end Request

end FormStudio
