import UsageBilling.Address.Uri
import UsageBilling.Error
import UsageBilling.Json.Record
import UsageBilling.Metering.Response
import UsageBilling.Settings

/-!
# Access tokens

A token is asked for with the API key of the service at the identity address,
once for each attempt. It is good if the response has a status of success and
a body with a token in it that is not empty.
-/

namespace UsageBilling.Metering

/-- What came back for the request for a token. -/
inductive TokenReply where
  | answered (status : Nat) (body : String)
  /-- A response whose body broke off. -/
  | brokenOff (status : Nat)
  /-- No response. -/
  | lost
  deriving DecidableEq, Repr

/-- The address that tokens come from. -/
def tokenUrl (endpoint : String) : String :=
  Text.trimSlashes endpoint ++ "/identity/token"

/-- A token was refused for a reason. -/
def tokenRefused (reason : String) : ServiceError :=
  ErrorKind.authentication.because reason

/-- The request could not be made or got no response. -/
def tokenRequestFailed (reason : String) : ServiceError :=
  tokenRefused ("IAM token request failed: " ++ reason)

/-- The response to a request for a token cannot be read. -/
def tokenUnreadable : ServiceError :=
  tokenRefused "Invalid IAM token response: error decoding response body"

/-- The token in the body of a response; a record with one optional field. -/
def tokenIn : String → Except Json.Fault (Option String) :=
  Json.decode <| Json.record
    [.nullable "access_token" id (fun _ token => some token) Json.text]
    none (fun draft : Option (Option String) => some (draft.getD none))

/-- The token that a response gives. -/
def tokenOf (status : Nat) (body : Option String) : Except ServiceError String :=
  if status < 200 || 300 ≤ status then
    .error <| tokenRefused <|
      "IAM token request failed with status: " ++ String.ofList (Text.decimal status)
  else match body.map tokenIn with
    | none | some (.error _) => .error tokenUnreadable
    | some (.ok token) =>
      match token.filter fun t => !t.isEmpty with
      | some t => .ok t
      | none => .error (tokenRefused "Failed to retrieve IAM access token")

/-- The address without the user and password that it is asked with, if these are text: they are
sent in a header instead. -/
def withoutCredentials (url : Url) : Url :=
  let isText := fun cs => (Address.percentDecode cs).toOption.isSome
  let areSent := url.authority.any fun a =>
    isText a.user && (!a.user.isEmpty || a.password.any isText)
  if areSent then url.withoutUser else url

/-- A token can be asked for at an address. -/
def canBeAsked (url : Url) : Bool :=
  url.hasHost && ["http", "https"].contains url.scheme &&
    (Address.checkUri url.text).toOption.isSome

/-- The token that the identity address gives, to which `reply` comes back if it can be asked. -/
def accessToken (endpoint : String) (reply : TokenReply) : Except ServiceError String :=
  match Url.ofText (tokenUrl endpoint) with
  | .error _ => .error (tokenRequestFailed "builder error")
  | .ok url =>
    let url := withoutCredentials url
    let place := " for url (" ++ url.text ++ ")"
    if !canBeAsked url then .error (tokenRequestFailed ("builder error" ++ place))
    else match reply with
      | .lost => .error (tokenRequestFailed ("error sending request" ++ place))
      | .brokenOff status => tokenOf status none
      | .answered status body => tokenOf status (some body)

end UsageBilling.Metering
