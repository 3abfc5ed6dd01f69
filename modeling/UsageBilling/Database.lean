import UsageBilling.Address.Url
import UsageBilling.Error
import UsageBilling.Metrics
import UsageBilling.Network
import UsageBilling.Text.Quoted

/-!
# The database

A connection address is read before anything is connected to; its parameters
may override the port and say how the connection is encrypted. Each operation
takes a connection first, so where no network is, each fails in the same way
and is known by what it was about to do. Most operations are timed, and a
failure does not keep them from being counted.
-/

namespace UsageBilling.Database

/-- The database did not do what it was asked to. -/
def failed (doing reason : String) : ServiceError :=
  ErrorKind.database.because (doing ++ ": " ++ reason)

/-- What a connection that is refused reports. -/
def unreachable : String :=
  "error communicating with database: " ++ Network.refusal

/-- What an unusable connection address reports. -/
def misconfigured (reason : String) : String :=
  "error with configuration: " ++ reason

/-- What is wrong with a text that should be a number up to `limit`. -/
def numeralFault? (limit : Nat) (s : String) : Option String :=
  match Text.readNumeral limit s with
  | .ok _ => none
  | .error fault => some fault.message

/-- What is wrong with the octets of a percent-encoded part of an address. -/
def encodingFault? (cs : List Char) : Option String :=
  match Address.percentDecode cs with
  | .ok _ => none
  | .error fault => some fault.message

/-- The ways to encrypt a connection. -/
def encryptionModes : List String :=
  ["disable", "allow", "prefer", "require", "verify-ca", "verify-full"]

/-- What is wrong with a parameter of a connection address; unknown parameters are ignored. -/
def parameterFault? (name value : String) : Option String :=
  if name = "sslmode" || name = "ssl-mode" then
    if encryptionModes.contains (Text.lowerAscii value) then none
    else some (misconfigured ("unknown value " ++ Text.quoted value ++ " for `ssl_mode`"))
  else if name = "port" then numeralFault? (UInt16.size - 1) value
  else if name = "statement-cache-capacity" then numeralFault? (UInt64.size - 1) value
  else if name = "hostaddr" then
    if Address.isIp value.toList then none else some "invalid IP address syntax"
  else none

/-- What is wrong with the host of a connection address: one that begins with a slash is the name
of a file, which has to be a text. -/
def hostFault? (host : List Char) : Option String :=
  if (Address.percentOctets host).head? = some '/'.toUInt8 then encodingFault? host else none

/-- What is wrong with an address that can be read: host, user, password, database and parameters
in turn. -/
def urlFault? (url : Url) : Option String :=
  let ofAuthority := url.authority.bind fun a =>
    hostFault? a.host.text <|> encodingFault? a.user <|> encodingFault? (a.password.getD [])
  ofAuthority <|> encodingFault? (url.path.dropWhile (· = '/')) <|>
    url.parameters.findSome? fun (name, value) => parameterFault? name value

/-- What is wrong with a connection address. -/
def addressFault? (address : String) : Option String :=
  match Url.ofText address with
  | .error fault => some fault.message
  | .ok url => urlFault? url

/-- The error of connecting to an address. -/
def connectionRefused (address : String) : ServiceError :=
  failed "Failed to connect" <|
    match addressFault? address with
    | some reason => misconfigured reason
    | none => unreachable

/-- What the service does with the database. -/
inductive Operation where
  | seed
  | clear
  | page
  | listAll
  | count
  | activeInstances
  | instanceOf
  | health
  | migrate
  deriving DecidableEq, Repr

namespace Operation

/-- What is reported of an operation that gets no connection. -/
def attempt : Operation → String
  | seed => "Failed to begin transaction"
  | clear => "Failed to clear billing failures"
  | page => "Failed to page billing failures"
  | listAll => "Failed to list billing failures"
  | count => "Failed to count billing failures"
  | activeInstances => "Failed to list service instances"
  | instanceOf => "Failed to get service instance"
  | health => "Health check failed"
  | migrate => "Migration failed: while executing migrations"

/-- The name under which an operation is timed, if it is. -/
def timedAs : Operation → Option String
  | seed => some "seed_failures"
  | clear => some "clear_failures"
  | page => some "page_failures"
  | listAll => some "list_failures"
  | activeInstances => some "list_active_instances"
  | instanceOf => some "get_instance"
  | health => some "health_check"
  | count | migrate => none

/-- The error of an operation without a connection. -/
def refused (op : Operation) : ServiceError :=
  failed op.attempt unreachable

/-- The metrics after an operation. -/
def observe (op : Operation) (m : Metrics) : Metrics :=
  match op.timedAs with
  | some name => m.observe (.query name)
  | none => m

end Operation

/-- The errors of some operations one after another, and the metrics after them. -/
def performAll (m : Metrics) : List Operation → List ServiceError × Metrics
  | [] => ([], m)
  | op :: ops =>
    let (errors, m) := performAll (op.observe m) ops
    (op.refused :: errors, m)

end UsageBilling.Database
