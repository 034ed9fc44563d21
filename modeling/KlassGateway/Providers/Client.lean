import KlassGateway.Lib.Pool
import KlassGateway.Lib.Serde
import KlassGateway.Providers.OpenRouter
import KlassGateway.Providers.Router
/-!
# The clients of the providers, and calls beside each other

Model of the two clients in `providers/openrouter.rs` and `providers/fallback.rs`, and of
`complete` in `providers/router.rs` as a program of its requests and of the accesses to its
counter.  Any number of calls may share a router, so anything may happen to the counter between
two accesses.

A body is read as a response straight from its text, so a field that is there twice is an error,
and what no field needs is skipped without being read.

The headers of a request, its time limit and the pauses between attempts are left out.  The
counter is the only shared state.
-/

namespace KlassGateway.Providers

open Lib Json

/-! ## Requests and responses -/

/-- `ChatMessage`. -/
structure ChatMessage where
  role : String
  content : String

/-- `ResponseFormat`. -/
structure ResponseFormat where
  formatType : String

/-- `CompletionRequest`. -/
structure CompletionRequest where
  model : String
  models : Option (List String) := none
  messages : List ChatMessage
  responseFormat : Option ResponseFormat := none
  maxTokens : Option Int := none
  temperature : Option Rat := none

/-- `Usage`. -/
structure Usage where
  promptTokens : Option Int
  completionTokens : Option Int
  totalTokens : Option Int

/-- `Choice`. -/
structure Choice where
  message : ChatMessage
  finishReason : Option String
  index : Int

/-- `CompletionResponse`. -/
structure CompletionResponse where
  choices : List Choice
  usage : Option Usage
  model : Option String

namespace ChatMessage

/-- The derived `Deserialize`. -/
def decode : Decoder ChatMessage := textRecord ["role", "content"] 2 fun v => do
  let role ← field "role" asStr v
  let content ← field "content" asStr v
  pure { role, content }

end ChatMessage

namespace Usage

/-- The derived `Deserialize`. -/
def decode : Decoder Usage :=
  textRecord ["prompt_tokens", "completion_tokens", "total_tokens"] 3 fun v => do
    let promptTokens ← fieldOr "prompt_tokens" none (nullable u32) v
    let completionTokens ← fieldOr "completion_tokens" none (nullable u32) v
    let totalTokens ← fieldOr "total_tokens" none (nullable u32) v
    pure { promptTokens, completionTokens, totalTokens }

end Usage

namespace Choice

/-- The derived `Deserialize`. -/
def decode : Decoder Choice := textRecord ["message", "finish_reason", "index"] 2 fun v => do
  let message ← field "message" ChatMessage.decode v
  let finishReason ← fieldOr "finish_reason" none (nullable asStr) v
  let index ← fieldOr "index" 0 u32 v
  pure { message, finishReason, index }

end Choice

namespace CompletionResponse

/-- The derived `Deserialize`. -/
def decode : Decoder CompletionResponse := textRecord ["choices", "usage", "model"] 3 fun v => do
  let choices ← fieldOr "choices" [] (list Choice.decode) v
  let usage ← fieldOr "usage" none (nullable Usage.decode) v
  let model ← fieldOr "model" none (nullable asStr) v
  pure { choices, usage, model }

end CompletionResponse

/-! ## Contents of other formats -/

/-- A text that is not empty. -/
def nonEmpty (v : Option Json) : Option String := (v.bind asStr).filter fun s => s ≠ ""

/-- `choices[0]`. -/
def firstChoice (raw : Json) : Option Json :=
  ((raw.get "choices").bind asArray).bind List.head?

/-- The first field of an object with a text that is not empty, some keys aside. -/
def firstText (skipped : List String) : Json → Option String
  | obj fields => fields.findSome? fun kv => if kv.1 ∈ skipped then none else nonEmpty (some kv.2)
  | _ => none

/-- The texts of a `content` array. -/
def contentParts (items : List Json) : List String :=
  items.filterMap fun
    | str s => nonEmpty (some (str s))
    | item => nonEmpty (item.get "text")

/-- The text that `extract_content` cleans. -/
def extractText (raw : Json) : Option String :=
  let message := (firstChoice raw).bind (Json.get "message")
  let parts := (((raw.get "content").bind asArray).map contentParts).getD []
  (nonEmpty (message.bind (Json.get "content"))).or <|
    (nonEmpty (message.bind (Json.get "reasoning_content"))).or <|
    (message.bind (firstText ["role"])).or <|
    (nonEmpty (raw.get "output_text")).or <|
    (if parts.isEmpty then none else some ("\n".intercalate parts)).or <|
    (nonEmpty ((firstChoice raw).bind (Json.get "text"))).or <|
    firstText ["model", "id", "object"] raw

/-- `extract_content`.  The inner `none` is a panic of the cleaning. -/
def extractContent (raw : Json) : Option (Option String) := (extractText raw).map cleanMarkdownJson

/-! ## Replies -/

/-- What a request comes to: `send` fails, or there is a response, whose body may not be read. -/
inductive HttpReply where
  | failed (message : String)
  | response (status : UInt16) (body : Except String String)

/-- The functions on texts: what a text says, with every field in its place, `from_str::<Value>`,
and the error where the text makes no response.  A number or a text that is an error wherever it is
read stands in `document` as `true`, which no field of a response can be; in a part that is skipped
it does no harm. -/
structure ResponseTexts where
  document : String → Option Json
  fromStr : String → Option Json
  decodeError : String → String

/-- `from_str::<CompletionResponse>`. -/
def ResponseTexts.readResponse (T : ResponseTexts) (body : String) : Option CompletionResponse :=
  (T.document body).bind CompletionResponse.decode

/-- What a client does after a reply: it returns, it returns an error at once, it goes on to the
next attempt, or it panics. -/
inductive Attempt where
  | completed (response : CompletionResponse)
  | refused (e : ProviderError)
  | failed (e : ProviderError)
  | panicked

section Client

variable (T : ResponseTexts)

/-- The second strategy, on the value of a text that is not a response. -/
def readOther (body : String) : Attempt :=
  let failed : Attempt :=
    .failed (.deserialization ("error decoding response body: " ++ T.decodeError body))
  match T.fromStr body with
  | none => failed
  | some raw =>
    match extractContent raw with
    | none => failed
    | some none => .panicked
    | some (some content) => .completed
      { choices := [{
          message := { role := "assistant", content }
          finishReason := some "stop"
          index := 0 }]
        usage := (raw.get "usage").bind Usage.decode
        model := (raw.get "model").bind asStr }

/-- The body of a response with a status of success. -/
def readBody (body : String) : Attempt :=
  match T.readResponse body with
  | some completion => .completed completion
  | none => readOther T body

/-- What is done with a reply. -/
def judge : HttpReply → Attempt
  | .failed message => .failed (.http message)
  | .response status body =>
    if 200 ≤ status ∧ status < 300 then
      match body with
      | .ok text => readBody T text
      | .error e => .failed (.deserialization ("failed to read response body: " ++ e))
    else
      let e := ProviderError.api status (body.toOption.getD "")
      if status < 500 ∧ status ≠ 429 then .refused e else .failed e

/-! ## Clients -/

/-- The calls of a client and of a router: a request, the accesses to `consecutive_failures`, and
the return of `complete`. -/
inductive ProviderOp where
  | post (url : String) (request : CompletionRequest)
  | loadFailures
  | resetFailures
  | addFailure
  | returned (result : Except ProviderError CompletionResponse)

/-- Their answers. -/
abbrev ProviderOp.Resp : ProviderOp → Type
  | post _ _ => HttpReply
  | loadFailures => UInt32
  | resetFailures => Unit
  | addFailure => Unit
  | returned _ => Unit

/-- The calls with their answers. -/
def providerOps : Interface := ⟨ProviderOp, ProviderOp.Resp⟩

/-- A client: what it makes of a request, and where it sends it. -/
structure ProviderClient where
  name : String
  baseUrl : String
  retryAttempts : UInt32
  prepare : CompletionRequest → CompletionRequest

namespace ProviderClient

variable (client : ProviderClient)

/-- `completions_url`. -/
def completionsUrl : String := Text.trimEndMatches client.baseUrl "/" ++ "/chat/completions"

/-- The loop of `complete_with_retry`. -/
def attempts (request : CompletionRequest) :
    Nat → Option ProviderError → Prog providerOps (Except ProviderError CompletionResponse)
  | 0, lastError => .ret (.error (lastError.getD
      (.allExhausted client.retryAttempts (client.name ++ ": all retry attempts exhausted"))))
  | remaining + 1, _ => .op (.post client.completionsUrl request) fun reply =>
    match judge T reply with
    | .completed response => .ret (.ok response)
    | .refused e => .ret (.error e)
    | .failed e => attempts request remaining (some e)
    | .panicked => .abort

/-- `retry_attempts.max(1)`. -/
def maxPosts : Nat := max client.retryAttempts.toNat 1

/-- `complete_with_retry`. -/
def completeWithRetry (request : CompletionRequest) :
    Prog providerOps (Except ProviderError CompletionResponse) :=
  client.attempts T (client.prepare request) client.maxPosts none

end ProviderClient

/-- `OpenRouterConfig`, as far as a request depends on it. -/
structure OpenRouterConfig where
  model : String := "minimax/minimax-m3"
  baseUrl : String := "https://openrouter.ai/api/v1"
  retryAttempts : UInt32 := 1
  fallbackModels : List String := []

/-- The loop over the fallback models. -/
def pushModels (models : List String) : List String → List String
  | [] => models
  | model :: rest =>
    let models := if model ∈ models then models else models ++ [model]
    if 3 ≤ models.length then models else pushModels models rest

namespace OpenRouterConfig

variable (config : OpenRouterConfig)

/-- The model and the models of a request. -/
def prepare (request : CompletionRequest) : CompletionRequest :=
  let request := if request.model = "" then { request with model := config.model } else request
  if request.models.isNone && !config.fallbackModels.isEmpty then
    { request with models := some (pushModels [request.model] config.fallbackModels) }
  else request

/-- `OpenRouterProviderClient`. -/
def client : ProviderClient where
  name := "openrouter"
  baseUrl := config.baseUrl
  retryAttempts := config.retryAttempts
  prepare := config.prepare

end OpenRouterConfig

/-- `FallbackProviderConfig`, as far as a request depends on it. -/
structure FallbackProviderConfig where
  baseUrl : String
  retryAttempts : UInt32 := 2

/-- `FallbackProviderClient`. -/
def FallbackProviderConfig.client (config : FallbackProviderConfig) : ProviderClient where
  name := "fallback-adapter"
  baseUrl := config.baseUrl
  retryAttempts := config.retryAttempts
  prepare := id

end Client

/-! ## The router -/

/-- `ProviderRouter` with its clients, without its counter. -/
structure RouterConfig where
  texts : ResponseTexts
  primary : ProviderClient
  fallback : Option ProviderClient := none
  maxAttempts : UInt32 := 3
  circuitBreakerThreshold : UInt32 := 5

namespace RouterConfig

variable (r : RouterConfig)

/-- The loop of `try_provider_with_retry`. -/
def tryFrom (client : ProviderClient) (request : CompletionRequest) :
    Nat → Option ProviderError → Prog providerOps (Except ProviderError CompletionResponse)
  | 0, lastError => .ret (.error (lastError.getD (.allExhausted r.maxAttempts "unknown error")))
  | remaining + 1, _ => (client.completeWithRetry r.texts request).bind fun
    | .ok response => .ret (.ok response)
    | .error (.config m) => .ret (.error (.config m))
    | .error e => tryFrom client request remaining (some e)

/-- `try_provider_with_retry`. -/
def tryProviderWithRetry (client : ProviderClient) (request : CompletionRequest) :
    Prog providerOps (Except ProviderError CompletionResponse) :=
  r.tryFrom client request r.maxAttempts.toNat none

/-- `complete` after the failure of the primary provider. -/
def tryFallback (request : CompletionRequest) (primaryErr : ProviderError) :
    Prog providerOps (Except ProviderError CompletionResponse) :=
  match r.fallback with
  | none => .ret (.error (.allExhausted r.maxAttempts primaryErr.toText))
  | some fallback => (r.tryProviderWithRetry fallback request).bind fun
    | .ok response => .op .resetFailures fun _ => .ret (.ok response)
    | .error fallbackErr => .ret (.error (.allExhausted (r.maxAttempts * 2)
        ("primary: " ++ primaryErr.toText ++ ", fallback: " ++ fallbackErr.toText)))

/-- `complete` while the circuit is closed. -/
def tryProviders (request : CompletionRequest) :
    Prog providerOps (Except ProviderError CompletionResponse) :=
  (r.tryProviderWithRetry r.primary request).bind fun
    | .ok response => .op .resetFailures fun _ => .ret (.ok response)
    | .error primaryErr => .op .addFailure fun _ => r.tryFallback request primaryErr

/-- The error of an open circuit. -/
def openError : ProviderError :=
  .allExhausted 0 "circuit breaker is open — too many consecutive failures"

/-- `complete`. -/
def complete (request : CompletionRequest) :
    Prog providerOps (Except ProviderError CompletionResponse) :=
  .op .loadFailures fun failures =>
    if r.circuitBreakerThreshold ≤ failures then .ret (.error openError)
    else r.tryProviders request

/-! ## Calls beside each other -/

/-- A request that was sent, with its reply. -/
structure Post where
  url : String
  request : CompletionRequest
  reply : HttpReply

/-- The counter, the requests that were sent, and the results that were returned. -/
structure Shared where
  failures : UInt32 := 0
  posts : List Post := []
  results : List (Except ProviderError CompletionResponse) := []

/-- What the calls do. -/
def exec (w : Shared) : (o : ProviderOp) → HttpReply → o.Resp × Shared
  | .post url request, reply => (reply, { w with posts := ⟨url, request, reply⟩ :: w.posts })
  | .loadFailures, _ => (w.failures, w)
  | .resetFailures, _ => ((), { w with failures := 0 })
  | .addFailure, _ => ((), { w with failures := w.failures + 1 })
  | .returned result, _ => ((), { w with results := result :: w.results })

/-- Any number of calls of one router. -/
def calls : Pool providerOps where
  World := Shared
  Choice := HttpReply
  exec w o reply := exec w o reply
  Label := Unit
  Arrival := CompletionRequest
  relabel _ _ _ := ()
  arrive w request := some (w, [((), (r.complete request).bind fun result =>
    .op (.returned result) .ret)])

/-- The states of all runs of a new router. -/
def Reached (s : r.calls.State) : Prop :=
  Pool.Reach (fun _ _ => True) (Pool.start (P := r.calls) {}) s

end RouterConfig

end KlassGateway.Providers
