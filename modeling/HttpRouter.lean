import HttpRouter.Main
import HttpRouter.Gateway
import HttpRouter.Script.Parts
import HttpRouter.Proofs.Matching
import HttpRouter.Proofs.Linking
import HttpRouter.Proofs.Escaping
import HttpRouter.Proofs.Dispatch.Answering
import HttpRouter.Proofs.RoundTrip
import HttpRouter.Proofs.Dispatch.Course
import HttpRouter.Proofs.Dispatch.Order
import HttpRouter.Proofs.Dispatch.Responding
import HttpRouter.Proofs.Dispatch.Reporting
import HttpRouter.Proofs.Dispatch.Shape
import HttpRouter.Session
import HttpRouter.Proofs.Sessions
import HttpRouter.Proofs.Fitting
import HttpRouter.Proofs.Serving
import HttpRouter.Proofs.Dispatch.Following
import HttpRouter.Proofs.Delivery
import HttpRouter.Proofs.Dispatch.Settling
import HttpRouter.Proofs.Dispatch.Alike
import HttpRouter.Proofs.Dispatch.Mirroring
import HttpRouter.Proofs.Dispatch.Conditional
import HttpRouter.Proofs.Redirecting
import HttpRouter.Proofs.Canonical
import HttpRouter.Proofs.Filling
import HttpRouter.Proofs.Relinking
import HttpRouter.Proofs.Dispatch.Refusing
import HttpRouter.Proofs.Nesting
import HttpRouter.Proofs.Priority
import HttpRouter.Proofs.Mounting
import HttpRouter.Proofs.LastModified
import HttpRouter.Proofs.Transport
import HttpRouter.Proofs.Dispatch.Recording
import HttpRouter.Proofs.Registering
import HttpRouter.Proofs.Json.Values
import HttpRouter.Proofs.View.Layouts
import HttpRouter.Proofs.View.Inheriting
import HttpRouter.Proofs.View.Framing
import HttpRouter.Proofs.Loading
