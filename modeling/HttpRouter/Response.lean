import HttpRouter.Fault
import HttpRouter.Fields
import HttpRouter.Status
import HttpRouter.Text.Utf8

/-!
# Responses

A response is a status line, headers in the order in which they were first set, and a body.
-/

namespace HttpRouter

/-- A response. -/
structure Response where
  status : Int
  reason : Letters
  headers : Fields String Letters
  body : List UInt8
deriving DecidableEq, Repr, Inhabited

namespace Response

/-- A fresh response. -/
def empty : Response :=
  ⟨Status.ok.code, Status.ok.phrase, [], []⟩

/-- Sets the status line. -/
def setStatus (r : Response) (status : Int) (reason : Letters) : Response :=
  { r with status, reason }

/-- Sets a header. -/
def setHeader (r : Response) (name : String) (value : Letters) : Response :=
  { r with headers := r.headers.set name value }

/-- Sets the body. -/
def setBody (r : Response) (body : List UInt8) : Response :=
  { r with body }

/-- Sets the body to a text, if that has an encoding. -/
def setText (r : Response) (text : Letters) : Except Fault Response :=
  (Text.encoded text).map r.setBody

/-- Sets headers one after the other. -/
def setHeaders (r : Response) (headers : List (String × Letters)) : Response :=
  headers.foldl (fun r (name, value) => r.setHeader name value) r

/-! What one part of a response is set to leaves the others alone. -/

@[simp] theorem status_setHeader (r : Response) (name : String) (value : Letters) :
    (r.setHeader name value).status = r.status :=
  rfl

@[simp] theorem reason_setHeader (r : Response) (name : String) (value : Letters) :
    (r.setHeader name value).reason = r.reason :=
  rfl

@[simp] theorem body_setHeader (r : Response) (name : String) (value : Letters) :
    (r.setHeader name value).body = r.body := rfl

@[simp] theorem headers_setStatus (r : Response) (status : Int) (reason : Letters) :
    (r.setStatus status reason).headers = r.headers := rfl

@[simp] theorem headers_setBody (r : Response) (body : List UInt8) : (r.setBody body).headers = r.headers := rfl

@[simp] theorem status_setBody (r : Response) (body : List UInt8) : (r.setBody body).status = r.status := rfl

@[simp] theorem status_setHeaders (r : Response) (headers : List (String × Letters)) :
    (r.setHeaders headers).status = r.status := by
  unfold setHeaders
  induction headers generalizing r with
  | nil => rfl
  | cons p rest ih => exact ih (r.setHeader p.1 p.2)

/-- Headers that are new come last, in order. -/
theorem setHeaders_of_nodup {r : Response} {headers : List (String × Letters)}
    (h : ((r.headers ++ headers).map (·.1)).Nodup) :
    r.setHeaders headers = { r with headers := r.headers ++ headers } := by
  rw [← Fields.foldl_set_of_nodup _ h, setHeaders]
  clear h
  induction headers generalizing r with
  | nil => rfl
  | cons p rest ih => exact ih

/-- The code and the reason. -/
def statusText (r : Response) : Letters :=
  toString r.status ++ " " ++ r.reason

end Response

end HttpRouter
