import QueryBridge.Report
import QueryBridge.Direction
import QueryBridge.Url.Parse

/-!
# Endpoints

An endpoint is the base address of the service. It must be an absolute http or https
URL. The address of a request is the endpoint without slashes at its end, a slash, and
the path of the direction.
-/

set_option autoImplicit false

namespace QueryBridge.Endpoint

/-- The beginning of every complaint about an endpoint. -/
def complaint (endpoint : String) : String :=
  "Invalid endpoint URL: " ++ endpoint

/-- The complaint about an endpoint that is no web address. -/
def schemeComplaint (endpoint : String) : String :=
  complaint endpoint ++ "\n\nThe endpoint must use http:// or https://"

/-- Checks that an endpoint is a web address. -/
def validate (endpoint : String) : Fallible Unit :=
  match Url.parse endpoint.toList with
  | .error fault => .error ⟨complaint endpoint, [fault.message]⟩
  | .ok (.other _) => .error ⟨schemeComplaint endpoint, []⟩
  | .ok (.web _) => .ok ()

/-- A text without the slashes at its end. -/
def trimSlashes (s : List Char) : List Char :=
  (s.reverse.dropWhile (· = '/')).reverse

/-- The address of requests of a direction. -/
def url (endpoint : String) (d : Direction) : String :=
  String.ofList (trimSlashes endpoint.toList ++ '/' :: d.endpointPath.toList)

end QueryBridge.Endpoint
