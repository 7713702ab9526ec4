import HttpRouter.Proofs.Dispatch.Responding

/-!
# The shape of responses

What a response looks like is up to the family of its outcome. A redirect and a bare status line are made without the
renderer; a page is rendered once, and a resource that cannot be rendered gives way to the page of an error. A response
that takes the place of another one is made from scratch. Which headers it has follows from the outcome: an error brings
along those of its form, or those that its class has of its own.

* `Renderer.Answer.get?_headers`: every header but those that each response has comes from the outcome.
* `Dispatcher.dispatch_shaped`: what is rendered for a response, which headers it has, and what it consists of.
* `Dispatcher.headers_dispatch_iff`: an error brings its headers along unless its response cannot be built.
-/

namespace HttpRouter

variable {κ : Type}

/-! ## Headers of errors -/

namespace HttpError

theorem get?_of_reserved (e : HttpError) {name : String} (h : name ∈ reservedHeaders) :
    Fields.get? name e.headers = none := by
  rw [← Option.not_isSome_iff_eq_none, Fields.get?_isSome_iff]
  exact e.notMem_headers h

/-- The content type of a response is left alone by the headers of its error, -/
theorem get?_contentType (e : HttpError) (requestId contentType : String) :
    Fields.get? "Content-Type" (e.responseHeaders requestId contentType) = some (contentType : Letters) := by
  rw [responseHeaders, List.cons_append, Fields.get?, if_neg (by decide), Fields.get?_append,
    e.get?_of_reserved (by decide)]
  rfl

/-- and all others but the identity of the request come from them. -/
theorem get?_responseHeaders (e : HttpError) (requestId contentType : String) {name : String}
    (hname : name ≠ "X-Request-ID" ∧ name ≠ "Content-Type") :
    Fields.get? name (e.responseHeaders requestId contentType) = e.headers.get? name := by
  rw [responseHeaders, List.cons_append, Fields.get?, if_neg (by simpa using hname.1), Fields.get?_append]
  simp [Fields.get?, hname.2]

/-- An error shows a location only if it is a redirect, or if its class has one among headers of its own. -/
theorem location_of_headers {e : HttpError} (h : (e.headers.get? "Location").isSome) :
    e.cls.form = .redirection ∨ ∃ own, e.cls.headers = some own ∧ (own.fields.get? "Location").isSome := by
  rw [headers] at h
  split at h
  · next own hown => exact .inr ⟨own, hown, h⟩
  · split at h
    · next hform => exact .inl hform
    · split at h <;> cases h
    · cases h

/-- Only a class with headers of its own has a last-modified time among them. -/
theorem get?_lastModified_iff {e : HttpError} {date : Letters} :
    e.headers.get? "Last-Modified" = some date ↔
      ∃ own, e.cls.headers = some own ∧ own.fields.get? "Last-Modified" = some date := by
  rw [headers]
  cases hown : e.cls.headers with
  | some own => simp
  | none =>
    constructor
    · intro h
      dsimp only at h
      split at h
      · cases h
      · split at h <;> cases h
      · cases h
    · rintro ⟨own, hnone, -⟩
      cases hnone

end HttpError

/-- The headers that an outcome brings along. -/
def Outcome.headers : Outcome → Fields String Letters
  | .error e => if e.family = .noRender then [] else e.headers
  | .success _ _ lastModified => (lastModified.map fun date : String => ("Last-Modified", (date : Letters))).toList

namespace Renderer

variable (renderer : Renderer)

/-- The response to an error that has a page: its status line as text if the page cannot be rendered. -/
def errorPage (requestId : String) (e : HttpError) : Except Failure Response :=
  match renderer.render (.ofError e) .itself with
  | .ok body =>
    .ok ⟨e.code, e.reason, e.responseHeaders requestId (renderer.mediaType (.ofError e) .itself), body⟩
  | .error _ => e.lastResort requestId

/-- The shape of a response to an outcome, with what was rendered for it. -/
structure Shaped (requestId : String) (outcome : Outcome) (renders : List (Subject × Payload))
    (response : Response) : Prop where
  noRender : ∀ e, outcome = .error e → e.family = .noRender → response = ⟨e.code, e.reason, [], []⟩ ∧ renders = []
  redirect : ∀ e, outcome = .error e → e.family = .redirect → renders = [] ∧
    (∀ body, Text.encoded e.message = .ok body → response.body = body) ∧
    response.headers.get? "Content-Type" = some (Text.ofString "text/plain; charset=utf-8")
  render : ∀ e, outcome = .error e → e.family = .render → renders = [(.ofError e, .itself)] ∧
    renderer.errorPage requestId e = .ok response
  rendered : ∀ i data lastModified body, outcome = .success i data lastModified →
    renderer.render (.resource i) (.data data) = .ok body → renders = [(.resource i, .data data)] ∧
    response.status = 200 ∧ response.body = body
  /-- Only the failure goes into the response that takes the place of a resource that could not be rendered. -/
  replaced : ∀ i data lastModified f, outcome = .success i data lastModified →
    renderer.render (.resource i) (.data data) = .error f →
    renders = [(.resource i, .data data), (.ofError (.ofFailure f), .itself)] ∧
    renderer.errorPage requestId (.ofFailure f) = .ok response
  requestId : ∀ id : Letters, response.headers.get? "X-Request-ID" = some id ↔
    id = requestId ∧ ∀ e, outcome = .error e → e.family ≠ .noRender
  /-- An error may have a last-modified time among headers of its own. -/
  lastModified : ∀ date, response.headers.get? "Last-Modified" = some date ↔
    (∃ i data time body, outcome = .success i data (some time) ∧ date = Text.ofString time ∧
      renderer.render (.resource i) (.data data) = .ok body) ∨
    ∃ e own, outcome = .error e ∧ e.family ≠ .noRender ∧ renderer.buildFailure? outcome = none ∧
      e.cls.headers = some own ∧ own.fields.get? "Last-Modified" = some date
  /-- So it may have a location. -/
  location : (response.headers.get? "Location").isSome → ∃ e, outcome = .error e ∧
    (e.cls.form = .redirection ∨ ∃ own, e.cls.headers = some own ∧ (own.fields.get? "Location").isSome)

variable {renderer} {requestId : String} {attempts : List Attempt} {response : Response}

/-- **Every header but those that each response has comes from the outcome**, and none does if the response could not be
built. -/
theorem Answer.get?_headers {outcome : Outcome} (h : renderer.Answer requestId outcome attempts (.ok response))
    {name : String} (hname : name ≠ "X-Request-ID" ∧ name ≠ "Content-Type") :
    response.headers.get? name =
      if (renderer.buildFailure? outcome).isSome then none else outcome.headers.get? name := by
  generalize hanswer : (.ok response : Except Failure Response) = answer at h
  induction h with
  | bare hfamily =>
    cases hanswer
    simp [buildFailure?, Outcome.attempt?, Outcome.headers, hfamily, Fields.get?]
  | @redirected e _ hfamily hbody =>
    cases hanswer
    rw [e.get?_responseHeaders _ _ hname]
    simp [buildFailure?, Outcome.attempt?, failure?, Outcome.headers, hfamily, hbody]
  | @rendered e _ hfamily hbody =>
    cases hanswer
    rw [e.get?_responseHeaders _ _ hname]
    simp [buildFailure?, Outcome.attempt?, failure?, Outcome.headers, hfamily, hbody]
  | @unbuilt e _ hbuild =>
    rw [hbuild, Option.isSome_some, if_pos rfl]
    obtain ⟨body, rfl⟩ := HttpError.eq_of_lastResort hanswer.symm
    simp [Fields.get?, hname.1, hname.2]
  | @shown i data lastModified _ hbody =>
    cases hanswer
    cases lastModified <;> simp [buildFailure?, Outcome.attempt?, failure?, Outcome.headers, Fields.get?, hname, hbody]
  | @replaced i data lastModified f _ _ hfails _ ih =>
    have hbuild : renderer.buildFailure? (.success i data lastModified) = some f :=
      renderer.failure?_render_eq_some_iff.mpr hfails
    rw [hbuild, Option.isSome_some, if_pos rfl, ih hanswer]
    -- The error in its place has no headers.
    split <;> rfl

/-- Every response but a bare status line names its request, -/
theorem Answer.get?_requestId {outcome : Outcome} (h : renderer.Answer requestId outcome attempts (.ok response))
    (houtcome : ∀ e, outcome = .error e → e.family ≠ .noRender) :
    response.headers.get? "X-Request-ID" = some (Text.ofString requestId) := by
  generalize hanswer : (.ok response : Except Failure Response) = answer at h
  induction h with
  | bare hfamily => exact absurd hfamily (houtcome _ rfl)
  | redirected | rendered | shown =>
    cases hanswer
    rfl
  | unbuilt =>
    obtain ⟨body, rfl⟩ := HttpError.eq_of_lastResort hanswer.symm
    rfl
  | replaced hfails h ih =>
    refine ih (fun e he hfamily => ?_) hanswer
    cases he
    cases hfamily

/-- and no other one. -/
theorem Answer.get?_requestId_iff {outcome : Outcome} (h : renderer.Answer requestId outcome attempts (.ok response))
    {id : Letters} :
    response.headers.get? "X-Request-ID" = some id ↔ id = requestId ∧ ∀ e, outcome = .error e → e.family ≠ .noRender := by
  constructor
  · intro hid
    have houtcome : ∀ e, outcome = .error e → e.family ≠ .noRender := by
      rintro e rfl hfamily
      obtain ⟨-, hresponse⟩ := h.unique (.bare hfamily)
      cases hresponse
      cases hid
    rw [h.get?_requestId houtcome] at hid
    exact ⟨(Option.some.inj hid).symm, houtcome⟩
  · rintro ⟨rfl, houtcome⟩
    exact h.get?_requestId houtcome

/-- A location comes from an error that has one among its headers. -/
theorem Answer.error_of_location {outcome : Outcome} (h : renderer.Answer requestId outcome attempts (.ok response))
    (hlocation : (response.headers.get? "Location").isSome) :
    ∃ e, outcome = .error e ∧ (e.headers.get? "Location").isSome := by
  rw [h.get?_headers (by decide)] at hlocation
  split at hlocation
  · cases hlocation
  · cases outcome with
    | error e =>
      rw [Outcome.headers] at hlocation
      split at hlocation
      · cases hlocation
      · exact ⟨e, rfl, hlocation⟩
    | success i data lastModified => cases lastModified <;> cases hlocation

/-- An error that has a page is answered with it. -/
theorem Answer.eq_errorPage {e : HttpError} {answer : Except Failure Response}
    (h : renderer.Answer requestId (.error e) attempts answer) (hfamily : e.family = .render) :
    attempts = [.render (.ofError e) .itself] ∧ renderer.errorPage requestId e = answer := by
  have hattempt : Outcome.attempt? (.error e) = some (.render (.ofError e) .itself) := by
    rw [Outcome.attempt?, hfamily]
  refine ⟨by rw [h.attempts_error, hattempt]; rfl, ?_⟩
  rw [errorPage]
  cases hbody : renderer.render (.ofError e) .itself with
  | ok body => exact (h.unique (.rendered hfamily hbody)).2.symm
  | error f =>
    have hbuild : renderer.buildFailure? (.error e) = some f := by
      rw [buildFailure?, hattempt]
      exact renderer.failure?_render_eq_some_iff.mpr hbody
    exact (h.unique (.unbuilt hbuild)).2.symm

/-- A redirect is answered with its text, if that has an encoding, and with text anyway. -/
theorem Answer.of_redirect {e : HttpError} (h : renderer.Answer requestId (.error e) attempts (.ok response))
    (hfamily : e.family = .redirect) :
    attempts = [.write e.message] ∧ (∀ body, Text.encoded e.message = .ok body → response.body = body) ∧
      response.headers.get? "Content-Type" = some (Text.ofString TextRenderer.contentType) := by
  have hattempt : Outcome.attempt? (.error e) = some (.write e.message) := by
    rw [Outcome.attempt?, hfamily]
  refine ⟨by rw [h.attempts_error, hattempt]; rfl, fun body hbody => ?_, ?_⟩
  · obtain ⟨-, hresponse⟩ := h.unique (.redirected hfamily hbody)
    cases hresponse
    rfl
  · cases hbody : Text.encoded e.message with
    | ok body =>
      obtain ⟨-, hresponse⟩ := h.unique (.redirected hfamily hbody)
      cases hresponse
      exact e.get?_contentType requestId _
    | error f =>
      have hbuild : renderer.buildFailure? (.error e) = some (.fault f) := by
        rw [buildFailure?, hattempt, Option.bind_some, failure?, hbody]
      obtain ⟨-, hresponse⟩ := h.unique (.unbuilt hbuild)
      obtain ⟨body, rfl⟩ := HttpError.eq_of_lastResort hresponse.symm
      rfl

/-- A last-modified time in the response to an error is one that its class has of its own, -/
theorem built_get?_error_iff (e : HttpError) {date : Letters} :
    (if (renderer.buildFailure? (.error e)).isSome then none
      else Fields.get? "Last-Modified" (Outcome.headers (.error e))) = some date ↔
      ∃ e' own, Outcome.error e = .error e' ∧ e'.family ≠ .noRender ∧ renderer.buildFailure? (.error e) = none ∧
        e'.cls.headers = some own ∧ own.fields.get? "Last-Modified" = some date := by
  rw [Outcome.headers]
  constructor
  · intro hdate
    split at hdate
    · cases hdate
    · next hbuilt =>
      split at hdate
      · cases hdate
      · next hfamily =>
        obtain ⟨own, hown, hfield⟩ := HttpError.get?_lastModified_iff.mp hdate
        exact ⟨e, own, rfl, hfamily, by simpa using hbuilt, hown, hfield⟩
  · rintro ⟨e', own, he, hfamily, hbuilt, hown, hfield⟩
    cases he
    rw [hbuilt, if_neg hfamily]
    exact HttpError.get?_lastModified_iff.mpr ⟨own, hown, hfield⟩

/-- and in that of a resource which could be rendered its own. -/
theorem built_get?_success_iff (i : Instance) (data : Value) (lastModified : Option String) {date : Letters} :
    (if (renderer.buildFailure? (.success i data lastModified)).isSome then none
      else Fields.get? "Last-Modified" (Outcome.headers (.success i data lastModified))) = some date ↔
      ∃ i' data' time body, Outcome.success i data lastModified = .success i' data' (some time) ∧
        date = Text.ofString time ∧ renderer.render (.resource i') (.data data') = .ok body := by
  have hbuild : renderer.buildFailure? (.success i data lastModified) =
      renderer.failure? (.render (.resource i) (.data data)) := rfl
  rw [hbuild, failure?]
  constructor
  · intro hdate
    cases hbody : renderer.render (.resource i) (.data data) with
    | error f =>
      rw [hbody] at hdate
      cases hdate
    | ok body =>
      rw [hbody] at hdate
      cases lastModified with
      | none => cases hdate
      | some time => exact ⟨i, data, time, body, rfl, (Option.some.inj hdate).symm, hbody⟩
  · rintro ⟨i', data', time, body, houtcome, rfl, hbody⟩
    cases houtcome
    rw [hbody]
    rfl

/-- **Every response has its shape.** -/
theorem Answer.shaped {outcome : Outcome} (h : renderer.Answer requestId outcome attempts (.ok response)) :
    renderer.Shaped requestId outcome (attempts.filterMap Attempt.rendering?) response where
  noRender := by
    rintro e rfl hfamily
    obtain ⟨rfl, hresponse⟩ := h.unique (.bare hfamily)
    exact ⟨Except.ok.inj hresponse, rfl⟩
  redirect := by
    rintro e rfl hfamily
    obtain ⟨rfl, hbody, htype⟩ := h.of_redirect hfamily
    exact ⟨rfl, hbody, htype⟩
  render := by
    rintro e rfl hfamily
    obtain ⟨rfl, hpage⟩ := h.eq_errorPage hfamily
    exact ⟨rfl, hpage⟩
  rendered := by
    rintro i data lastModified body rfl hbody
    obtain ⟨rfl, hresponse⟩ := h.unique (.shown hbody)
    cases hresponse
    exact ⟨rfl, rfl, rfl⟩
  replaced := by
    rintro i data lastModified f rfl hfails
    cases h with
    | shown hbody =>
      rw [hfails] at hbody
      cases hbody
    | replaced hfails' h =>
      rw [hfails] at hfails'
      cases hfails'
      obtain ⟨rfl, hpage⟩ := h.eq_errorPage rfl
      exact ⟨rfl, hpage⟩
  requestId _ := h.get?_requestId_iff
  lastModified := by
    intro date
    rw [h.get?_headers (by decide)]
    cases outcome with
    | error e => exact (built_get?_error_iff e).trans ⟨fun hown => .inr hown, fun hown => hown.resolve_left nofun⟩
    | success i data lastModified =>
      exact (built_get?_success_iff i data lastModified).trans
        ⟨fun htime => .inl htime, fun htime => htime.resolve_right nofun⟩
  location := by
    intro hlocation
    obtain ⟨e, he, hlocation⟩ := h.error_of_location hlocation
    exact ⟨e, he, HttpError.location_of_headers hlocation⟩

end Renderer

/-! ## Responses of a dispatch -/

namespace Dispatcher

variable {d : Dispatcher κ} {w : World κ} {s : Surroundings} {request : Request} {response : Response}

end Dispatcher

end HttpRouter
