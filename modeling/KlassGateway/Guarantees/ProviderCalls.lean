import KlassGateway.Guarantees.MarkdownJson
import KlassGateway.Providers.Client
import Mathlib.Data.List.Nodup
/-!
# The requests behind a completion

* `judge_ne_panicked`: no reply makes a client panic.
* `prepare_models`: the models that OpenRouter gets.
* `Ends`: a loop of attempts ends with its last reply, and has asked again after all replies
  before it.
* `complete_accounts`: how often a call of the router asks, whom and what, and what it returns.
* `complete_refines`: alone, a call is one of the router that knows its providers by their answers.
* `open_for_good`: a circuit that is open while no call is on its way is never closed again.
-/

namespace KlassGateway.Providers

open Lib

/-! ## Replies -/

/-- The cleaning of a text does not panic. -/
theorem cleanMarkdownJson_isSome (raw : String) : (cleanMarkdownJson raw).isSome := by
  by_cases hpair : BracePair (Text.trimList raw.toList)
  · obtain ⟨before, mid, after, hsplit, hbefore, hafter⟩ := hpair.split
    rw [cleanMarkdownJson_of_braces hsplit hbefore hafter]
    rfl
  · rw [cleanMarkdownJson_of_no_pair hpair]
    rfl

variable {T : ResponseTexts}

/-- No reply makes a client panic. -/
theorem judge_ne_panicked (reply : HttpReply) : judge T reply ≠ .panicked := by
  have hother : ∀ body, readOther T body ≠ .panicked := by
    intro body
    unfold readOther extractContent
    cases T.fromStr body with
    | none => exact fun h => by cases h
    | some raw =>
      dsimp only
      cases extractText raw with
      | none => exact fun h => by cases h
      | some text =>
        obtain ⟨content, hcontent⟩ := Option.isSome_iff_exists.1 (cleanMarkdownJson_isSome text)
        rw [Option.map_some, hcontent]
        exact fun h => by cases h
  have hbody : ∀ body, readBody T body ≠ .panicked := by
    intro body
    unfold readBody
    cases T.readResponse body with
    | none => exact hother body
    | some completion => exact fun h => by cases h
  cases reply with
  | failed message => exact fun h => by cases h
  | response status body =>
    unfold judge
    dsimp only
    split
    · cases body with
      | ok text => exact hbody text
      | error e => exact fun h => by cases h
    · split
      · exact fun h => by cases h
      · exact fun h => by cases h

/-- A reply with a completion. -/
def Completes (T : ResponseTexts) (reply : HttpReply) : Prop :=
  ∃ response, judge T reply = .completed response

/-- What a client returns for a reply that ends it. -/
def Returns : Attempt → Except ProviderError CompletionResponse → Prop
  | .completed response, result => result = .ok response
  | .refused e, result => result = .error e
  | .failed e, result => result = .error e
  | .panicked, _ => False

/-! ## Models -/

/-- The models so far, with some of the others. -/
structure PushedModels (models fallbacks pushed : List String) : Prop where
  starts : models <+: pushed
  nodup : pushed.Nodup
  atMost : pushed.length ≤ 3
  mem : ∀ m ∈ pushed, m ∈ models ∨ m ∈ fallbacks
  all : pushed.length < 3 → ∀ m ∈ fallbacks, m ∈ pushed

theorem pushedModels {models : List String} (hnodup : models.Nodup) (hlength : models.length < 3)
    (fallbacks : List String) : PushedModels models fallbacks (pushModels models fallbacks) := by
  induction fallbacks generalizing models with
  | nil => exact ⟨List.prefix_refl _, hnodup, hlength.le, fun m hm => Or.inl hm,
      fun _ m hm => absurd hm List.not_mem_nil⟩
  | cons model rest ih =>
    unfold pushModels
    by_cases hmem : model ∈ models
    · rw [if_pos hmem]
      dsimp only
      rw [if_neg (by omega)]
      have hrest := ih hnodup hlength
      refine ⟨hrest.starts, hrest.nodup, hrest.atMost, fun m hm => ?_, fun hlt m hm => ?_⟩
      · exact (hrest.mem m hm).imp_right (List.mem_cons_of_mem _)
      · rcases List.mem_cons.1 hm with rfl | hm
        · exact hrest.starts.subset hmem
        · exact hrest.all hlt m hm
    · have hnodup' : (models ++ [model]).Nodup :=
        List.nodup_append.2 ⟨hnodup, List.nodup_singleton _, fun m hm m' hm' heq =>
          hmem (List.mem_singleton.1 hm' ▸ heq ▸ hm)⟩
      have hlength' : (models ++ [model]).length = models.length + 1 := List.length_append
      rw [if_neg hmem]
      dsimp only
      split
      · refine ⟨List.prefix_append _ _, hnodup', by omega, fun m hm => ?_, fun hlt => by omega⟩
        rcases List.mem_append.1 hm with hold | hnew
        · exact Or.inl hold
        · exact Or.inr (List.mem_singleton.1 hnew ▸ List.mem_cons_self)
      · have hrest := ih hnodup' (by omega)
        refine ⟨(List.prefix_append _ _).trans hrest.starts, hrest.nodup, hrest.atMost,
          fun m hm => ?_, fun hlt m hm => ?_⟩
        · rcases hrest.mem m hm with hpushed | hfallback
          · rcases List.mem_append.1 hpushed with hold | hnew
            · exact Or.inl hold
            · exact Or.inr (List.mem_singleton.1 hnew ▸ List.mem_cons_self)
          · exact Or.inr (List.mem_cons_of_mem _ hfallback)
        · rcases List.mem_cons.1 hm with rfl | hm
          · exact hrest.starts.subset (List.mem_append_right _ (List.mem_singleton_self _))
          · exact hrest.all hlt m hm

/-- The models of a request to OpenRouter are those of the request.  By default they are its model
and then the fallback models, each once and three at most. -/
theorem prepare_models (config : OpenRouterConfig) (request : CompletionRequest) :
    let sent := config.prepare request
    sent.model = (if request.model = "" then config.model else request.model) ∧
      sent.messages = request.messages ∧
      (request.models.isSome ∨ config.fallbackModels = [] → sent.models = request.models) ∧
      (request.models = none → config.fallbackModels ≠ [] → ∃ models, sent.models = some models ∧
        PushedModels [sent.model] config.fallbackModels models) := by
  have hwith : ∀ q : CompletionRequest,
      let sent := if q.models.isNone && !config.fallbackModels.isEmpty then
        { q with models := some (pushModels [q.model] config.fallbackModels) } else q
      sent.model = q.model ∧ sent.messages = q.messages ∧
        (q.models.isSome ∨ config.fallbackModels = [] → sent.models = q.models) ∧
        (q.models = none → config.fallbackModels ≠ [] → ∃ models, sent.models = some models ∧
          PushedModels [sent.model] config.fallbackModels models) := by
    intro q
    dsimp only
    by_cases hboth : q.models = none ∧ config.fallbackModels ≠ []
    · rw [if_pos (by simpa using hboth)]
      refine ⟨rfl, rfl, fun hset => ?_, fun _ _ => ⟨_, rfl, pushedModels (List.nodup_singleton _)
        (Nat.lt_of_sub_eq_succ rfl) _⟩⟩
      rcases hset with hsome | hno
      · rw [hboth.1] at hsome
        cases hsome
      · exact absurd hno hboth.2
    · rw [if_neg (by simpa using hboth)]
      exact ⟨rfl, rfl, fun _ => rfl, fun hnone hne => absurd ⟨hnone, hne⟩ hboth⟩
  unfold OpenRouterConfig.prepare
  by_cases hempty : request.model = ""
  · rw [if_pos hempty, if_pos hempty]
    exact hwith { request with model := config.model }
  · rw [if_neg hempty, if_neg hempty]
    exact hwith request

/-! ## One call -/

open RouterConfig (Post)

/-- What a call of the interface sends. -/
def sentBy : (o : ProviderOp) → o.Resp → List Post
  | .post url request, reply => [⟨url, request, reply⟩]
  | _, _ => []

/-- The requests that a program sends, in order, with any replies and any values of the counter. -/
def postSpec : OpSpec providerOps (List Post) where
  pre _ _ := True
  step posts o answer posts' := posts' = posts ++ sentBy o answer

/-- The last reply is the result, and no reply before it was a completion. -/
def Ends (T : ResponseTexts) (posts : List Post)
    (result : Except ProviderError CompletionResponse) : Prop :=
  ∃ before last, posts = before ++ [last] ∧ Returns (judge T last.reply) result ∧
    ∀ p ∈ before, ¬ Completes T p.reply

/-- The requests go to a client as it has prepared them. -/
def SentTo (client : ProviderClient) (request : CompletionRequest) (posts : List Post) : Prop :=
  ∀ p ∈ posts, p.url = client.completionsUrl ∧ p.request = client.prepare request

section Ends

variable {posts posts' : List Post} {result : Except ProviderError CompletionResponse}
  {e : ProviderError} {client : ProviderClient} {request : CompletionRequest}

/-- Requests without a completion may come before. -/
theorem Ends.append (h : Ends T posts' result) (hposts : ∀ p ∈ posts, ¬ Completes T p.reply) :
    Ends T (posts ++ posts') result := by
  obtain ⟨before, last, rfl, hreturns, hbefore⟩ := h
  refine ⟨posts ++ before, last, (List.append_assoc _ _ _).symm, hreturns, fun p hp => ?_⟩
  rcases List.mem_append.1 hp with hp | hp
  · exact hposts p hp
  · exact hbefore p hp

/-- After an error there was no completion. -/
theorem Ends.none_completes (h : Ends T posts (.error e)) :
    ∀ p ∈ posts, ¬ Completes T p.reply := by
  obtain ⟨before, last, rfl, hreturns, hbefore⟩ := h
  intro p hp
  rcases List.mem_append.1 hp with hp | hp
  · exact hbefore p hp
  · obtain rfl := List.mem_singleton.1 hp
    rintro ⟨response, hcompleted⟩
    rw [hcompleted] at hreturns
    cases hreturns

/-- A client has no configuration error. -/
theorem Ends.ne_config (h : Ends T posts (.error e)) (m : String) : e ≠ .config m := by
  obtain ⟨before, last, -, hreturns, -⟩ := h
  have hother : ∀ body, Returns (readOther T body) (.error e) → e ≠ .config m := by
    intro body hreads
    unfold readOther at hreads
    dsimp only at hreads
    split at hreads
    · cases hreads
      exact fun heq => by cases heq
    · split at hreads
      · cases hreads
        exact fun heq => by cases heq
      · exact hreads.elim
      · cases hreads
  have hbody : ∀ body, Returns (readBody T body) (.error e) → e ≠ .config m := by
    intro body hreads
    unfold readBody at hreads
    split at hreads
    · cases hreads
    · exact hother body hreads
  unfold judge at hreturns
  split at hreturns
  · cases hreturns
    exact fun heq => by cases heq
  · split at hreturns
    · split at hreturns
      · exact hbody _ hreturns
      · cases hreturns
        exact fun heq => by cases heq
    · dsimp only at hreturns
      split at hreturns
      · cases hreturns
        exact fun heq => by cases heq
      · cases hreturns
        exact fun heq => by cases heq

/-- The loop of a client. -/
theorem sends_attempts (n : Nat) (lastError : Option ProviderError) (sent : List Post) :
    (client.attempts T (client.prepare request) (n + 1) lastError).wp postSpec
      (fun result sent' => ∃ posts, sent' = sent ++ posts ∧ posts.length ≤ n + 1 ∧
        SentTo client request posts ∧ Ends T posts result) sent := by
  induction n generalizing lastError sent with
  | zero =>
    refine ⟨trivial, fun reply sent' hsent' => ?_⟩
    have hsent : SentTo client request [⟨client.completionsUrl, client.prepare request, reply⟩] :=
      fun p hp => by rw [List.mem_singleton.1 hp]; exact ⟨rfl, rfl⟩
    have hends : ∀ result, Returns (judge T reply) result →
        Ends T [⟨client.completionsUrl, client.prepare request, reply⟩] result :=
      fun result hreturns => ⟨[], _, rfl, hreturns, fun p hp => absurd hp List.not_mem_nil⟩
    dsimp only
    cases hjudge : judge T reply with
    | completed response =>
      exact ⟨_, hsent', Nat.le_refl _, hsent, hends _ (hjudge ▸ rfl)⟩
    | refused e => exact ⟨_, hsent', Nat.le_refl _, hsent, hends _ (hjudge ▸ rfl)⟩
    | failed e => exact ⟨_, hsent', Nat.le_refl _, hsent, hends _ (hjudge ▸ rfl)⟩
    | panicked => exact trivial
  | succ n ih =>
    refine ⟨trivial, fun reply sent' hsent' => ?_⟩
    let post : Post := ⟨client.completionsUrl, client.prepare request, reply⟩
    have hsent : SentTo client request [post] :=
      fun p hp => by rw [List.mem_singleton.1 hp]; exact ⟨rfl, rfl⟩
    have hends : ∀ result, Returns (judge T reply) result → Ends T [post] result :=
      fun result hreturns => ⟨[], _, rfl, hreturns, fun p hp => absurd hp List.not_mem_nil⟩
    have hone : [post].length ≤ n + 1 + 1 := Nat.succ_le_succ (Nat.zero_le _)
    dsimp only
    cases hjudge : judge T reply with
    | completed response => exact ⟨_, hsent', hone, hsent, hends _ (hjudge ▸ rfl)⟩
    | refused e => exact ⟨_, hsent', hone, hsent, hends _ (hjudge ▸ rfl)⟩
    | panicked => exact trivial
    | failed e =>
      refine Prog.wp_mono ?_ (ih (some e) sent')
      rintro result sent'' ⟨posts, rfl, hlength, hto, hlast⟩
      have hstep : sent' = sent ++ [post] := hsent'
      refine ⟨[post] ++ posts, ?_, ?_, ?_, hlast.append ?_⟩
      · rw [hstep, List.append_assoc]
      · rw [List.length_append, List.length_singleton]
        omega
      · intro p hp
        rcases List.mem_append.1 hp with hp | hp
        · exact hsent p hp
        · exact hto p hp
      · intro p hp
        rw [List.mem_singleton.1 hp]
        rintro ⟨response, hcompleted⟩
        have hfailed : judge T reply = .completed response := hcompleted
        rw [hjudge] at hfailed
        cases hfailed

/-- `complete_with_retry` asks at least once. -/
theorem sends_completeWithRetry (sent : List Post) :
    (client.completeWithRetry T request).wp postSpec
      (fun result sent' => ∃ posts, sent' = sent ++ posts ∧ posts.length ≤ client.maxPosts ∧
        SentTo client request posts ∧ Ends T posts result) sent := by
  obtain ⟨n, hn⟩ : ∃ n, client.maxPosts = n + 1 :=
    Nat.exists_eq_succ_of_ne_zero (Nat.ne_of_gt (Nat.le_max_right _ _))
  unfold ProviderClient.completeWithRetry
  rw [hn]
  exact sends_attempts n none sent

end Ends

/-! ## The router -/

section Router

variable {r : RouterConfig} {client : ProviderClient} {request : CompletionRequest}

/-- A provider was tried `n` times, and each time its client has failed. -/
def FailedTries (T : ResponseTexts) (client : ProviderClient) (n : Nat) (posts : List Post) : Prop :=
  ∃ tries : List (List Post), posts = tries.flatten ∧ tries.length = n ∧
    ∀ try' ∈ tries, try'.length ≤ client.maxPosts ∧ ∃ e, Ends T try' (.error e)

/-- One more try, before the others. -/
theorem FailedTries.cons {T : ResponseTexts} {n : Nat} {first posts : List Post} {e : ProviderError}
    (hlength : first.length ≤ client.maxPosts) (hends : Ends T first (.error e))
    (h : FailedTries T client n posts) : FailedTries T client (n + 1) (first ++ posts) := by
  obtain ⟨tries, rfl, rfl, htries⟩ := h
  refine ⟨first :: tries, List.flatten_cons.symm, List.length_cons, fun try' hmem => ?_⟩
  rcases List.mem_cons.1 hmem with rfl | hmem
  · exact ⟨hlength, e, hends⟩
  · exact htries try' hmem

theorem FailedTries.none_completes {T : ResponseTexts} {n : Nat} {posts : List Post}
    (h : FailedTries T client n posts) : ∀ p ∈ posts, ¬ Completes T p.reply := by
  obtain ⟨tries, rfl, -, htries⟩ := h
  intro p hp
  obtain ⟨try', hmem, hp⟩ := List.mem_flatten.1 hp
  obtain ⟨-, e, hends⟩ := htries try' hmem
  exact hends.none_completes p hp

/-- What a provider was asked by a loop of `n` attempts. -/
structure Tried (r : RouterConfig) (client : ProviderClient) (request : CompletionRequest) (n : Nat)
    (result : Except ProviderError CompletionResponse) (posts : List Post) : Prop where
  atMost : posts.length ≤ n * client.maxPosts
  sent : SentTo client request posts
  ok : ∀ response, result = .ok response → Ends r.texts posts (.ok response)
  error : ∀ e, result = .error e → FailedTries r.texts client n posts

/-- The loop of the router over a provider, which also repeats what the client has refused to
repeat. -/
theorem sends_tryFrom (n : Nat) (lastError : Option ProviderError) (sent : List Post) :
    (r.tryFrom client request n lastError).wp postSpec
      (fun result sent' => ∃ posts, sent' = sent ++ posts ∧ Tried r client request n result posts)
      sent := by
  induction n generalizing lastError sent with
  | zero =>
    exact ⟨[], (List.append_nil _).symm, Nat.zero_le _, fun p hp => absurd hp List.not_mem_nil,
      fun response h => (by cases h), fun e _ => ⟨[], rfl, rfl, by simp⟩⟩
  | succ n ih =>
    refine (Prog.wp_bind _ _ _ _).2 (Prog.wp_mono ?_ (sends_completeWithRetry sent))
    rintro result sent' ⟨posts, rfl, hlength, hsent, hends⟩
    have hmany : posts.length ≤ (n + 1) * client.maxPosts :=
      hlength.trans (Nat.le_mul_of_pos_left _ (Nat.succ_pos n))
    cases result with
    | ok response => exact ⟨posts, rfl, hmany, hsent, fun _ h => h ▸ hends, fun e h => by cases h⟩
    | error e =>
      have hagain : (r.tryFrom client request n (some e)).wp postSpec
          (fun result sent' => ∃ posts', sent' = sent ++ posts' ∧
            Tried r client request (n + 1) result posts') (sent ++ posts) := by
        refine Prog.wp_mono ?_ (ih (some e) (sent ++ posts))
        rintro result sent' ⟨more, rfl, hmore⟩
        refine ⟨posts ++ more, List.append_assoc _ _ _, ?_, fun p hp => ?_, fun response h => ?_,
          fun e' h => .cons hlength hends (hmore.error e' h)⟩
        · have hatMost := hmore.atMost
          rw [List.length_append, Nat.succ_mul]
          omega
        · exact (List.mem_append.1 hp).elim (hsent p) (hmore.sent p)
        · exact (hmore.ok response h).append hends.none_completes
      cases e with
      | config m => exact absurd rfl (hends.ne_config m)
      | http m => exact hagain
      | api status body => exact hagain
      | deserialization m => exact hagain
      | allExhausted attempts reason => exact hagain

/-- What a call of `complete` sends to the primary provider first and to the fallback then, and
what it returns. -/
structure Asked (r : RouterConfig) (request : CompletionRequest)
    (result : Except ProviderError CompletionResponse) (first second : List Post) : Prop where
  primary : SentTo r.primary request first ∧
    first.length ≤ r.maxAttempts.toNat * r.primary.maxPosts
  /-- The fallback is asked when the primary provider has failed as often as it may be tried. -/
  fallback : second ≠ [] → FailedTries r.texts r.primary r.maxAttempts.toNat first ∧
    ∃ fallback, r.fallback = some fallback ∧ SentTo fallback request second ∧
      second.length ≤ r.maxAttempts.toNat * fallback.maxPosts
  /-- A completion is the last reply, and there was none before. -/
  ok : ∀ response, result = .ok response → Ends r.texts (first ++ second) (.ok response)
  /-- An error means that the circuit was open and nobody was asked, or that each of the
  providers has failed as often as it may be tried. -/
  error : ∀ e, result = .error e →
    (first = [] ∧ second = [] ∧ e = RouterConfig.openError) ∨
      (FailedTries r.texts r.primary r.maxAttempts.toNat first ∧
        (∀ fallback, r.fallback = some fallback →
          FailedTries r.texts fallback r.maxAttempts.toNat second) ∧
        ∃ attempts reason, e = .allExhausted attempts reason)

/-- What a call of `complete` sends, and what it returns. -/
def Accounts (r : RouterConfig) (request : CompletionRequest)
    (result : Except ProviderError CompletionResponse) (posts : List Post) : Prop :=
  ∃ first second, posts = first ++ second ∧ Asked r request result first second

/-- Whatever the replies and the counter are, a call of the router sends what `Accounts` says. -/
theorem complete_accounts (r : RouterConfig) (request : CompletionRequest) :
    (r.complete request).wp postSpec (Accounts r request) [] := by
  have hfirst : ∀ {posts : List Post} {e : ProviderError},
      Tried r r.primary request r.maxAttempts.toNat (.error e) posts →
      (r.tryFallback request e).wp postSpec (Accounts r request) posts := by
    intro posts e hposts
    have hfailed := hposts.error e rfl
    unfold RouterConfig.tryFallback
    cases hfallback : r.fallback with
    | none =>
      refine ⟨posts, [], (List.append_nil _).symm, ⟨hposts.sent, hposts.atMost⟩,
        fun h => absurd rfl h, fun response h => (by cases h), fun e' h => .inr ⟨hfailed, ?_, _, _,
          (Except.error.inj h).symm⟩⟩
      intro fallback h
      cases hfallback.symm.trans h
    | some fallback =>
      refine (Prog.wp_bind _ _ _ _).2 (Prog.wp_mono ?_ (sends_tryFrom _ none posts))
      rintro result sent ⟨more, rfl, hmore⟩
      have hsecond : more ≠ [] → FailedTries r.texts r.primary r.maxAttempts.toNat posts ∧
          ∃ fallback, r.fallback = some fallback ∧ SentTo fallback request more ∧
            more.length ≤ r.maxAttempts.toNat * fallback.maxPosts :=
        fun _ => ⟨hfailed, fallback, hfallback, hmore.sent, hmore.atMost⟩
      cases result with
      | ok response =>
        refine ⟨trivial, fun _ sent' hsent' => ?_⟩
        obtain rfl : sent' = posts ++ more := hsent'.trans (List.append_nil _)
        refine ⟨posts, more, rfl, ⟨hposts.sent, hposts.atMost⟩, hsecond, fun response' h => ?_,
          fun e' h => by cases h⟩
        exact h ▸ (hmore.ok response rfl).append hfailed.none_completes
      | error fallbackErr =>
        refine ⟨posts, more, rfl, ⟨hposts.sent, hposts.atMost⟩, hsecond,
          fun response h => (by cases h), fun e' h => .inr ⟨hfailed, ?_, _, _,
            (Except.error.inj h).symm⟩⟩
        intro fallback' h
        obtain rfl := Option.some.inj (hfallback.symm.trans h)
        exact hmore.error fallbackErr rfl
  refine ⟨trivial, fun failures sent hsent => ?_⟩
  obtain rfl : sent = [] := hsent
  dsimp only
  split
  · exact ⟨[], [], rfl, ⟨fun p hp => absurd hp List.not_mem_nil, Nat.zero_le _⟩,
      fun h => absurd rfl h, fun response h => (by cases h),
      fun e h => .inl ⟨rfl, rfl, (Except.error.inj h).symm⟩⟩
  · refine (Prog.wp_bind _ _ _ _).2 (Prog.wp_mono ?_ (sends_tryFrom _ none []))
    rintro result sent ⟨posts, hsent, hposts⟩
    obtain rfl : posts = sent := hsent.symm
    cases result with
    | ok response =>
      refine ⟨trivial, fun _ sent' hsent' => ?_⟩
      obtain rfl : sent' = posts := hsent'.trans (List.append_nil _)
      refine ⟨sent', [], (List.append_nil _).symm, ⟨hposts.sent, hposts.atMost⟩,
        fun h => absurd rfl h, fun response' h => ?_, fun e h => by cases h⟩
      rw [List.append_nil]
      exact h ▸ hposts.ok response rfl
    | error primaryErr =>
      refine ⟨trivial, fun _ sent' hsent' => ?_⟩
      obtain rfl : sent' = posts := hsent'.trans (List.append_nil _)
      exact hfirst hposts

/-! ## A call without others beside it -/

/-- The router by what its providers answer. -/
def RouterConfig.router (r : RouterConfig) : ProviderRouter where
  fallback := r.fallback.isSome
  maxAttempts := r.maxAttempts
  circuitBreakerThreshold := r.circuitBreakerThreshold

/-- The counter that no other call changes. -/
def counterSpec : OpSpec providerOps UInt32 where
  pre _ _ := True
  step failures o answer failures' := match o with
    | .loadFailures => answer = failures ∧ failures' = failures
    | .resetFailures => failures' = 0
    | .addFailure => failures' = failures + 1
    | .post _ _ => failures' = failures
    | .returned _ => failures' = failures

/-- A client leaves the counter alone. -/
theorem completeWithRetry_keeps {T : ResponseTexts} (failures : UInt32) :
    (client.completeWithRetry T request).wp counterSpec (fun _ failures' => failures' = failures)
      failures := by
  have hattempts (n : Nat) (lastError : Option ProviderError) :
      (client.attempts T (client.prepare request) n lastError).wp counterSpec
        (fun _ failures' => failures' = failures) failures := by
    induction n generalizing lastError with
    | zero => rfl
    | succ n ih =>
      refine ⟨trivial, fun reply failures' hsame => ?_⟩
      obtain rfl : failures' = failures := hsame
      dsimp only
      cases judge T reply with
      | completed response => rfl
      | refused e => rfl
      | failed e => exact ih (some e)
      | panicked => trivial
  exact hattempts client.maxPosts none

/-- A loop of tries reads the answers from its own attempt on. -/
theorem ProviderRouter.tryFrom_congr {R : Type} (router : ProviderRouter)
    {answers answers' : Nat → Except ProviderError R} {n attempt : Nat}
    (h : ∀ m, attempt ≤ m → answers m = answers' m) (lastError : Option ProviderError) :
    router.tryFrom answers n attempt lastError = router.tryFrom answers' n attempt lastError := by
  induction n generalizing attempt lastError with
  | zero => rfl
  | succ n ih =>
    have hmore (e : ProviderError) : router.tryFrom answers n (attempt + 1) (some e) =
        router.tryFrom answers' n (attempt + 1) (some e) :=
      ih (fun m hm => h m (Nat.le_of_succ_le hm)) (some e)
    simp only [tryFrom, h attempt (Nat.le_refl _), hmore]

/-- The tries of a provider come to what the router makes of some answers of it. -/
theorem tryProviderWithRetry_refines (failures : UInt32) :
    (r.tryProviderWithRetry client request).wp counterSpec
      (fun result failures' => failures' = failures ∧
        ∃ answers, result = r.router.tryProviderWithRetry answers) failures := by
  have htries (n attempt : Nat) (lastError : Option ProviderError) :
      (r.tryFrom client request n lastError).wp counterSpec
        (fun result failures' => failures' = failures ∧
          ∃ answers, result = r.router.tryFrom answers n attempt lastError) failures := by
    induction n generalizing attempt lastError with
    | zero => exact ⟨rfl, fun _ => .error (.config ""), rfl⟩
    | succ n ih =>
      refine (Prog.wp_bind _ _ _ _).2 (Prog.wp_mono ?_ (completeWithRetry_keeps failures))
      rintro result failures' rfl
      -- The answer of this attempt comes before those of the others.
      have hmore {e : ProviderError} (he : ∀ m, e ≠ .config m) :
          (r.tryFrom client request n (some e)).wp counterSpec
            (fun result failures'' => failures'' = failures' ∧
              ∃ answers, result = r.router.tryFrom answers (n + 1) attempt lastError) failures' := by
        refine Prog.wp_mono ?_ (ih (attempt + 1) (some e))
        rintro result failures'' ⟨rfl, answers, rfl⟩
        refine ⟨rfl, Function.update answers attempt (.error e), ?_⟩
        have hrest : r.router.tryFrom answers n (attempt + 1) (some e) = r.router.tryFrom
            (Function.update answers attempt (.error e)) n (attempt + 1) (some e) :=
          r.router.tryFrom_congr (fun m hm => (Function.update_of_ne (Nat.ne_of_gt hm) _ _).symm) _
        rw [hrest, ProviderRouter.tryFrom, Function.update_self]
        cases e with
        | config m => exact absurd rfl (he m)
        | _ => rfl
      cases result with
      | ok response => exact ⟨rfl, fun _ => .ok response, rfl⟩
      | error e =>
        cases e with
        | config m => exact ⟨rfl, fun _ => .error (.config m), rfl⟩
        | http m => exact hmore fun m h => by cases h
        | api status body => exact hmore fun m h => by cases h
        | deserialization m => exact hmore fun m h => by cases h
        | allExhausted attempts reason => exact hmore fun m h => by cases h
  exact htries r.maxAttempts.toNat 1 none

/-- Without others beside it, a call of `complete` is a call of the router with some answers of
its providers. -/
theorem complete_refines (r : RouterConfig) (request : CompletionRequest) (failures : UInt32) :
    (r.complete request).wp counterSpec (fun result failures' => ∃ call : Call CompletionResponse,
      result = (r.router.complete failures call).result ∧
        failures' = (r.router.complete failures call).failures) failures := by
  refine ⟨trivial, fun loaded failures' hloaded => ?_⟩
  obtain ⟨rfl, rfl⟩ : loaded = failures ∧ failures' = failures := hloaded
  dsimp only
  split
  · next hopen =>
    have hopen : r.router.isCircuitOpen failures' = true := decide_eq_true hopen
    refine ⟨⟨fun _ => .error (.config ""), fun _ => .error (.config "")⟩, ?_⟩
    rw [ProviderRouter.complete, if_pos hopen]
    exact ⟨rfl, rfl⟩
  · next hclosed =>
    have hclosed : ¬ r.router.isCircuitOpen failures' = true := by
      rw [ProviderRouter.isCircuitOpen, decide_eq_true_iff]
      exact hclosed
    simp only [ProviderRouter.complete, if_neg hclosed]
    refine (Prog.wp_bind _ _ _ _).2 (Prog.wp_mono ?_ (tryProviderWithRetry_refines failures'))
    rintro result failures ⟨rfl, primary, rfl⟩
    cases hprimary : r.router.tryProviderWithRetry primary with
    | ok response =>
      refine ⟨trivial, fun _ failures' hreset => ⟨⟨primary, primary⟩, ?_⟩⟩
      simp only [hprimary]
      exact ⟨trivial, hreset⟩
    | error primaryErr =>
      refine ⟨trivial, fun _ failures' hadd => ?_⟩
      obtain rfl : failures' = failures + 1 := hadd
      unfold RouterConfig.tryFallback
      cases hfallback : r.fallback with
      | none =>
        refine ⟨⟨primary, primary⟩, ?_⟩
        have hnone : r.router.fallback = false := by simp [RouterConfig.router, hfallback]
        simp only [hprimary, hnone, Bool.false_eq_true, if_false]
        exact ⟨rfl, trivial⟩
      | some fallback =>
        have hsome : r.router.fallback = true := by simp [RouterConfig.router, hfallback]
        refine (Prog.wp_bind _ _ _ _).2 (Prog.wp_mono ?_ (tryProviderWithRetry_refines _))
        rintro result failures' ⟨rfl, answers, rfl⟩
        cases hanswers : r.router.tryProviderWithRetry answers with
        | ok response =>
          refine ⟨trivial, fun _ failures' hreset => ⟨⟨primary, answers⟩, ?_⟩⟩
          simp only [hprimary, hsome, if_true, hanswers]
          exact ⟨trivial, hreset⟩
        | error fallbackErr =>
          refine ⟨⟨primary, answers⟩, ?_⟩
          simp only [hprimary, hsome, if_true, hanswers]
          exact ⟨rfl, trivial⟩

/-! ## A circuit that is open -/

/-- What a call may still do when nothing is sent any more. -/
def Idle (r : RouterConfig) (prog : Prog providerOps Unit) : Prop :=
  (∃ request, prog = (r.complete request).bind fun result =>
    Prog.op (I := providerOps) (.returned result) Prog.ret) ∨
  prog = Prog.op (I := providerOps) (.returned (.error RouterConfig.openError)) Prog.ret

/-- Since `s` nothing was sent, and all that was returned is the error of an open circuit. -/
structure Stopped (s t : r.calls.State) : Prop where
  posts : t.world.posts = s.world.posts
  failures : t.world.failures = s.world.failures
  results : ∃ n, t.world.results =
    List.replicate n (.error RouterConfig.openError) ++ s.world.results
  progs : Pool.AllTasks (fun task => Idle r task.prog) t

/-- The tasks stay idle: who reads the counter finds the circuit open. -/
theorem Stopped.progs_step {s t t' : r.calls.State} {a : r.calls.Action}
    (hopen : r.circuitBreakerThreshold ≤ s.world.failures) (h : Stopped s t)
    (he : Pool.step t a = some t') : Pool.AllTasks (fun task => Idle r task.prog) t' := by
  refine h.progs.step (fun request w spawned harr l p hmem task hkeep => ?_)
    (fun reply l o k hidle task hkeep => ?_) he
  · obtain ⟨-, rfl⟩ : t.world = w ∧ _ = spawned := Prod.ext_iff.1 (Option.some.inj harr)
    rw [Pool.keep_eq_some hkeep]
    exact Or.inl ⟨request, congrArg Prod.snd (List.mem_singleton.1 hmem)⟩
  · rcases hidle with ⟨request, hprog⟩ | hprog
    · cases hprog
      have hstays : r.circuitBreakerThreshold ≤ t.world.failures := h.failures ▸ hopen
      rw [Pool.keep_eq_some hkeep]
      refine Or.inr ?_
      change Prog.bind (if r.circuitBreakerThreshold ≤ t.world.failures then _ else _) _ = _
      rw [if_pos hstays]
      rfl
    · cases hprog
      cases hkeep

theorem Stopped.step {s t t' : r.calls.State} {a : r.calls.Action}
    (hopen : r.circuitBreakerThreshold ≤ s.world.failures) (h : Stopped s t)
    (he : Pool.step t a = some t') : Stopped s t' := by
  have hprogs := h.progs_step hopen he
  obtain ⟨n, hresults⟩ := h.results
  obtain ⟨request, w, spawned, rfl, harr, rfl⟩ | ⟨i, reply, l, o, k, rfl, hti, rfl⟩ |
    ⟨i, u, rfl, _, rfl⟩ := Pool.step_cases he
  · obtain ⟨rfl, -⟩ : t.world = w ∧ _ = spawned := Prod.ext_iff.1 (Option.some.inj harr)
    exact ⟨h.posts, h.failures, ⟨n, hresults⟩, hprogs⟩
  · rcases h.progs i _ hti with ⟨request, hprog⟩ | hprog
    · cases hprog
      exact ⟨h.posts, h.failures, ⟨n, hresults⟩, hprogs⟩
    · cases hprog
      refine ⟨h.posts, h.failures, ⟨n + 1, ?_⟩, hprogs⟩
      rw [List.replicate_succ, List.cons_append, ← hresults]
      rfl
  · exact ⟨h.posts, h.failures, ⟨n, hresults⟩, hprogs⟩

/-- If the circuit is open while no call is on its way, then in every run from there no request is
sent and the counter stays; all that is returned is the error of an open circuit. -/
theorem open_for_good {s : r.calls.State}
    (hopen : r.circuitBreakerThreshold ≤ s.world.failures) (hidle : ∀ i, s.tasks i = none)
    {s' : r.calls.State} (h : Pool.Reach (fun _ _ => True) s s') :
    s'.world.posts = s.world.posts ∧ s'.world.failures = s.world.failures ∧
      ∃ n, s'.world.results = List.replicate n (.error RouterConfig.openError) ++ s.world.results := by
  have hstart : Stopped s s :=
    ⟨rfl, rfl, ⟨0, rfl⟩, fun i task hi => by rw [hidle i] at hi; cases hi⟩
  have hend : Stopped s s' := h.invariant (fun _ _ _ _ ht he => ht.step hopen he) hstart
  exact ⟨hend.posts, hend.failures, hend.results⟩

end Router

/-- A router that opens its circuit at the first failure. -/
def sampleRouter : RouterConfig where
  texts := ⟨fun _ => none, fun _ => none, id⟩
  primary := OpenRouterConfig.client {}
  maxAttempts := 1
  circuitBreakerThreshold := 1

/-- A call of the router, and some steps of it without a connection. -/
def sampleSteps (i steps : Nat) : List sampleRouter.calls.Action :=
  .arrive { model := "", messages := [] } :: List.replicate steps (.act i (.failed "timed out"))

/-- One call has failed, and the next one sends nothing. -/
theorem open_for_good_sample : ∃ s s' : sampleRouter.calls.State, sampleRouter.Reached s ∧
    s'.world.results.length = 2 ∧ s.world.posts.length = 1 ∧ s'.world.posts = s.world.posts := by
  have hplay : ((Pool.play (fun _ _ => True) (Pool.start (P := sampleRouter.calls) {})
      (sampleSteps 0 4)).bind fun s => (Pool.play (fun _ _ => True) s (sampleSteps 1 2)).map
        fun s' => ((s.world.failures, s.next, (s.tasks 0).isNone, s.world.posts.length),
          s'.world.results.length)) = some ((1, 1, true, 1), 2) := by rfl
  obtain ⟨s, s', hs, hs', heq⟩ := Pool.exists_of_plays hplay
  obtain ⟨⟨hfailures, hnext, hnone, hposts⟩, hresults⟩ :
      (s.world.failures = 1 ∧ s.next = 1 ∧ (s.tasks 0).isNone = true ∧ s.world.posts.length = 1) ∧
        s'.world.results.length = 2 := by
    simpa only [Prod.mk.injEq] using heq
  refine ⟨s, s', hs, hresults, hposts, (open_for_good (s := s) ?_ (fun i => ?_) hs').1⟩
  · rw [hfailures]
    decide
  · by_cases hi : i = 0
    · subst hi
      exact Option.isNone_iff_eq_none.1 hnone
    · exact Pool.tasks_of_le hs i (by omega)

end KlassGateway.Providers
