import UsageBilling.Json.Printer
import UsageBilling.Text.Quoted

/-!
# Errors of the service

An error has a kind, which decides its heading and the HTTP status, and a cause.
A cause is a message, a message with the cause behind it, or the refusal of a
device. The detailed form of a cause shows its whole structure.
-/

namespace UsageBilling

/-- What kind of error it is. -/
inductive ErrorKind where
  | badRequest
  | notFound
  | unauthorized
  | authentication
  | conflict
  | internal
  | badGateway
  | serviceUnavailable
  | database
  | email
  | configuration
  deriving DecidableEq, Repr

/-- A class of refusals of the operating system. -/
inductive DeviceFault where
  | notFound
  | permissionDenied
  | addressInUse
  | other
  deriving DecidableEq, Repr

namespace DeviceFault

/-- The name of a class of refusals. -/
def name : DeviceFault → String
  | notFound => "NotFound"
  | permissionDenied => "PermissionDenied"
  | addressInUse => "AddrInUse"
  | other => "Other"

/-- The text of a refusal that says nothing more than its class. -/
def description : DeviceFault → String
  | notFound => "entity not found"
  | permissionDenied => "permission denied"
  | addressInUse => "address in use"
  | other => "other error"

end DeviceFault

/-- Why something failed. -/
inductive Cause where
  | message (text : String)
  /-- A cause seen from further out, where `text` describes it. -/
  | within (text : String) (source : Cause)
  /-- A refusal of the operating system, perhaps with a text of its own. -/
  | device (fault : DeviceFault) (text : Option String)
  deriving DecidableEq, Repr

namespace Cause

/-- The outermost description of a cause. -/
def text : Cause → String
  | message text => text
  | within text _ => text
  | device fault text => text.getD fault.description

/-- The structure of a cause over several lines. -/
def detail : Cause → String
  | message text => Text.quoted text
  | within text source =>
    "Error \x7b\n    context: " ++ Text.quoted text ++ ",\n    source: " ++
      source.detail.replace "\n" "\n    " ++ ",\n\x7d"
  | device fault none => "Kind(\n    " ++ fault.name ++ ",\n)"
  | device fault (some text) =>
    "Custom \x7b\n    kind: " ++ fault.name ++ ",\n    error: " ++ Text.quoted text ++ ",\n\x7d"

end Cause

/-- An error of the service. -/
structure ServiceError where
  kind : ErrorKind
  cause : Cause
  deriving DecidableEq, Repr

namespace ErrorKind

/-- An error of this kind with a plain message. -/
def because (kind : ErrorKind) (text : String) : ServiceError :=
  ⟨kind, .message text⟩

/-- What an error of this kind is called in front of its cause. -/
def heading : ErrorKind → String
  | badRequest => "Bad request"
  | notFound => "Not found"
  | unauthorized => "Unauthorized"
  | authentication => "Authentication error"
  | conflict => "Conflict"
  | internal => "Internal server error"
  | badGateway => "Bad Gateway"
  | serviceUnavailable => "Service Unavailable"
  | database => "Database error"
  | email => "Email error"
  | configuration => "Configuration error"

/-- The HTTP status of an error of this kind. -/
def status : ErrorKind → Nat
  | badRequest => 400
  | notFound => 404
  | unauthorized => 401
  | authentication => 401
  | conflict => 409
  | internal => 500
  | badGateway => 502
  | serviceUnavailable => 503
  | database => 500
  | email => 500
  | configuration => 500

end ErrorKind

namespace ServiceError

/-- The error on one line. -/
def message (e : ServiceError) : String :=
  match e.kind with
  | .serviceUnavailable => e.kind.heading
  | kind => kind.heading ++ ": " ++ e.cause.text

/-- What a client is told, and the details if there are any. -/
def summary (e : ServiceError) : String × Option String :=
  match e.kind with
  | .badRequest | .notFound | .unauthorized | .authentication | .conflict => (e.cause.text, none)
  | .internal => ("Internal server error", some e.cause.detail)
  | .badGateway => ("Bad Gateway: " ++ e.cause.text, none)
  | .serviceUnavailable => ("Service unavailable", none)
  | .database => ("Database error", some e.cause.text)
  | .email => ("Email error", some e.cause.text)
  | .configuration => ("Configuration error", some e.cause.text)

/-- The body of the HTTP response to a failed request. -/
def body (e : ServiceError) : String :=
  let (error, details) := e.summary
  String.ofList <| Json.object <|
    ("error", Json.string error) :: match details with
      | some text => [("details", Json.string text)]
      | none => []

end ServiceError

end UsageBilling
