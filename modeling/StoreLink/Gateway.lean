import StoreLink.Client
import StoreLink.Gateway.Http

/-!
# The gateway

The gateway shows the store to clients of HTTP, one key per path. `GET` of a path asks for the value
of its key, `POST` stores the body under it; any other method is refused, and so is the path `/`.
The key is the path after its first slash, percent-decoded and without slashes at either end.

A request is first planned (`Gateway.plan`): either it is answered at once, or it puts one question
to the store, and the outcome of that one exchange decides the response (`Question.respond`). What
went wrong at the store is not told: every failure gives the same response.
-/

namespace StoreLink.Gateway

/-- The longest body that is taken (32 MiB). -/
def maxBody : Nat := 32 * 1024 * 1024

/-! ## 1. The responses -/

/-- The path names no key. -/
def missingKey : Response := .text 400 "Bad Request: use /<key>"

/-- The path names something that is no key. -/
def invalidKey : Response := .text 400 "Bad Request: invalid key"

/-- The decoded path is not UTF-8. -/
def undecodableKey : Response := .text 400 "Invalid URL: Invalid UTF-8 in `key`"

/-- The body is longer than `maxBody`. -/
def bodyTooLong : Response := .text 413 "Failed to buffer the request body: length limit exceeded"

/-- The target has no path. -/
def noRoute : Response := .empty 404

/-- The key is not stored. -/
def notFound : Response := .text 404 "Not Found"

/-- The value was stored. -/
def stored : Response := .empty 204

/-- The value of the key. -/
def found (value : ByteArray) : Response := .bytes 200 value

/-- The store did not answer as it should. -/
def badGateway : Response := .text 502 "Bad Gateway"

/-- The methods with a handler for the path of a key, in the order in which they are listed. -/
def handledMethods : List String := ["GET", "HEAD", "POST"]

/-- The methods that the handler of `HEAD` names when it refuses. -/
def servedMethods : List String := ["GET", "POST"]

/-- A method without a handler is refused. -/
def methodUnknown : Response := { status := 405, allow := handledMethods }

/-- `HEAD` is refused by a handler of its own. -/
def headRefused : Response := { status := 405, allow := servedMethods }

/-! ## 2. Plans -/

/-- What a request asks of the store. -/
inductive Question where
  /-- The value of a key. -/
  | fetch (key : Key)
  /-- To store a value under a key. -/
  | put (key : Key) (value : ByteArray)

/-- What is to be done for a request. -/
inductive Plan where
  /-- Answer at once. -/
  | answer (response : Response)
  /-- Ask the store, and answer by what comes back. -/
  | ask (question : Question)

/-- The text without slashes at either end. -/
def stripSlashes (text : String) : String :=
  ((text.dropWhile '/').dropEndWhile '/').copy

/-- The key that a decoded path names. -/
def keyOf (decoded : String) : Except Response Key :=
  let text := stripSlashes decoded
  if text.isEmpty then .error missingKey
  else
    match Key.ofText text with
    | .ok key => .ok key
    | .error _ => .error invalidKey

/-- The text after the first slash of a path, percent-decoded, `none` if it is not UTF-8. -/
def decodeTail (tail : List UInt8) : Option String :=
  String.fromUTF8? (Text.Percent.decode tail).toByteArray

/-- The plan for `GET` of the path of a key. -/
def planGet (tail : List UInt8) : Plan :=
  match decodeTail tail with
  | none => .answer undecodableKey
  | some decoded =>
    match keyOf decoded with
    | .error response => .answer response
    | .ok key => .ask (.fetch key)

/-- The plan for `POST` to the path of a key: the path is decoded before the body is read, and the
    key is looked at after. -/
def planPost (tail : List UInt8) (body : ByteArray) : Plan :=
  match decodeTail tail with
  | none => .answer undecodableKey
  | some decoded =>
    if maxBody < body.size then .answer bodyTooLong
    else
      match keyOf decoded with
      | .error response => .answer response
      | .ok key => .ask (.put key body)

/-- The response to a method, whose body is left out for `HEAD`. -/
def answerTo (method : String) (response : Response) : Plan :=
  .answer (if method = "HEAD" then response.withoutBody else response)

/-- The plan for a request to the path after the first slash. -/
def planPath (request : Request) (tail : List UInt8) : Plan :=
  if tail.isEmpty then answerTo request.method missingKey
  else if request.method = "GET" then planGet tail
  else if request.method = "POST" then planPost tail request.body
  else if request.method = "HEAD" then .answer headRefused
  else .answer methodUnknown

/-- What is to be done for a request. -/
def plan (request : Request) : Plan :=
  match Target.ofText request.target with
  | .none => .answer noRoute
  | .path [] => .answer noRoute
  | .path (_ :: tail) => planPath request tail

/-! ## 3. Carrying a plan out -/

/-- The response to `GET`, given the result of its call. -/
def fetched : Except LinkError (Option ByteArray) → Response
  | .ok (some value) => found value
  | .ok none => notFound
  | .error _ => badGateway

/-- The response to `POST`, given the result of its call. -/
def putDone : Except LinkError Unit → Response
  | .ok () => stored
  | .error _ => badGateway

namespace Question

/-- The request that a question sends to the store. -/
def request : Question → RequestLine
  | .fetch key => (Client.get key).request
  | .put key value => (Client.set key value).request

/-- The response to a question, given the outcome of its exchange. -/
def respond : Question → Attempt → Response
  | .fetch key, outcome => fetched ((Client.get key).result (Exchange.settle outcome))
  | .put key value, outcome => putDone ((Client.set key value).result (Exchange.settle outcome))

end Question

/-- A response, and the request that was sent to the store for it. -/
structure Handled where
  response : Response
  sent : Option RequestLine

variable {σ : Type}

/-- Handles a request, with at most one exchange. -/
def handle (exchange : Exchange σ Attempt) (request : Request) (s : σ) : Handled × σ :=
  match plan request with
  | .answer response => (⟨response, none⟩, s)
  | .ask question =>
    let (outcome, s) := exchange question.request s
    (⟨question.respond outcome, some question.request⟩, s)

/-- Handles requests one after the other. -/
def handleAll (exchange : Exchange σ Attempt) : List Request → σ → List Handled × σ
  | [], s => ([], s)
  | request :: rest, s =>
    let (handled, s) := handle exchange request s
    let (others, s) := handleAll exchange rest s
    (handled :: others, s)

end StoreLink.Gateway
