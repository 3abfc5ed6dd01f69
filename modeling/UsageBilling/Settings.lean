import UsageBilling.Error
import UsageBilling.Metering.Policy
import UsageBilling.Settings.Assignment

/-!
# Settings

The settings of the service are read from the environment. A few names have to
be there and the rejection policy has to be a known one; any other value that
is missing or has the wrong form takes its default.
-/

namespace UsageBilling

/-- The environment: values by name, later ones over earlier ones. -/
abbrev Environment := List (String × String)

namespace Environment

/-- The value of a name. -/
def get? (env : Environment) (name : String) : Option String :=
  (env.reverse.find? fun entry => entry.1 = name).map (·.2)

/-- The value of a name, or a default. -/
def getOr (env : Environment) (name fallback : String) : String :=
  (env.get? name).getD fallback

/-- The value of a name unless it is blank. -/
def nonBlank? (env : Environment) (name : String) : Option String :=
  (env.get? name).filter fun value => !(Text.trim value).isEmpty

/-- The number that a name has, at most `limit`, or a default. -/
def number (env : Environment) (name : String) (limit fallback : Nat) : Nat :=
  ((env.get? name).bind (Text.readBounded limit)).getD fallback

/-- The flag that a name has, or a default. -/
def flag (env : Environment) (name : String) (fallback : Bool) : Bool :=
  ((env.get? name).bind Text.readFlag).getD fallback

/-- The value of a name that has to be there. -/
def required (env : Environment) (name : String) : Except ServiceError String :=
  match env.get? name with
  | some value => .ok value
  | none => .error (ErrorKind.configuration.because (name ++ " is required"))

end Environment

/-- Where the database is and how many connections are kept. -/
structure DatabaseSettings where
  url : String
  maxConnections : Nat
  minConnections : Nat
  deriving DecidableEq, Repr

/-- Where and how usage is submitted. -/
structure MeteringSettings where
  endpoint : String
  resourceId : String
  pageSize : Nat
  policy : RejectionPolicy
  timeoutSeconds : Nat
  deriving DecidableEq, Repr

/-- Where tokens come from. -/
structure IamSettings where
  endpoint : String
  apiKey : String
  deriving DecidableEq, Repr

/-- How the monthly job runs. -/
structure JobSettings where
  enabled : Bool
  maxAttempts : Nat
  backoffSeconds : Nat
  /-- The product that escalations name. -/
  product : String
  deriving DecidableEq, Repr

/-- The mail relay. -/
structure MailSettings where
  enabled : Bool
  host : String
  port : Nat
  /-- The connection is encrypted from its first octet. -/
  tls : Bool
  verifyCertificate : Bool
  user : String
  password : String
  sender : String
  recipients : String
  deriving DecidableEq, Repr

/-- The topic of test notifications. -/
structure TopicSettings where
  topic : Option String
  region : Option String
  endpoint : Option String
  deriving DecidableEq, Repr

/-- All settings of the service. -/
structure Settings where
  port : Nat
  serviceName : String
  serviceVersion : String
  logLevel : String
  otlpEndpoint : Option String
  database : DatabaseSettings
  metering : MeteringSettings
  iam : IamSettings
  job : JobSettings
  mail : MailSettings
  topic : TopicSettings
  deriving DecidableEq, Repr

namespace Settings

/-- The names that are looked up in the environment. -/
def names : List String :=
  ["APP__PORT", "AWS_REGION", "BILLING_BACKOFF_SECS", "BILLING_JOB_ENABLED",
    "BILLING_MAX_ATTEMPTS", "BROKER_PRODUCT", "DATABASE_MAX_CONNECTIONS",
    "DATABASE_MIN_CONNECTIONS", "DATABASE_URL", "GLOBAL_CATALOG_SERVICE_ID", "IAM_API_KEY",
    "IAM_ENDPOINT", "LOG_LEVEL", "METERING_PAGE_SIZE", "METERING_REJECTION_POLICY",
    "METERING_TIMEOUT_SECS", "OTLP_ENDPOINT", "SERVICE_NAME", "SERVICE_VERSION", "SMTP_ENABLED",
    "SMTP_FROM", "SMTP_HOST", "SMTP_PASSWORD", "SMTP_PORT", "SMTP_TLS", "SMTP_TO", "SMTP_USER",
    "SMTP_VERIFY_CERT", "SNS_ENDPOINT", "SNS_TOPIC_ARN", "USAGE_ENDPOINT"]

/-- The version of the service. -/
def version : String := "0.1.0"

/-- The port of the listener where none is set. -/
def defaultPort : Nat := 8080

/-- The port that a text denotes: a number, or a switch that is on or off. -/
def readPort (value : String) : Except ServiceError Nat :=
  let word := Text.lowerAscii value
  if ["true", "on", "yes"].contains word then .ok 1
  else if ["false", "off", "no"].contains word then .ok 0
  else match Text.readBounded (UInt64.size - 1) value with
    | none => .error <| ErrorKind.configuration.because <|
        "invalid type: string " ++ Text.quoted value ++
          ", expected an integer for key `port` in the environment"
    | some n =>
      if n < UInt16.size then .ok n
      else .error <| ErrorKind.configuration.because <|
        "invalid type: 64-bit unsigned integer `" ++ String.ofList (Text.decimal n) ++
          "`, expected an unsigned 16 bit integer for key `port`"

/-- The port of the listener; of several variables the last one counts. -/
def listenerPort (env : Environment) : Except ServiceError Nat :=
  let misplaced := fun kind : String => ErrorKind.configuration.because <|
    "invalid type: " ++ kind ++ ", expected an integer for key `port`"
  let assigned : Option Assignment := env.reverse.findSome? fun (name, contents) =>
    Assignment.ofVariable? "port".toList name contents
  match assigned with
  | some (.value value) => readPort value
  | some .map => .error (misplaced "map")
  | some .sequence => .error (misplaced "sequence")
  | none => .ok defaultPort

/-- The rejection policy. -/
def rejectionPolicy (env : Environment) : Except ServiceError RejectionPolicy :=
  match RejectionPolicy.ofText
      (env.getOr "METERING_REJECTION_POLICY" RejectionPolicy.standard.name) with
  | .ok policy => .ok policy
  | .error reason => .error (ErrorKind.configuration.because reason)

/-- The settings of the mail relay. -/
def mailSettings (env : Environment) : MailSettings :=
  let tls := env.flag "SMTP_TLS" false
  { enabled := env.flag "SMTP_ENABLED" false
    host := env.getOr "SMTP_HOST" ""
    port := env.number "SMTP_PORT" (UInt16.size - 1) (if tls then 465 else 587)
    tls := tls
    verifyCertificate := env.flag "SMTP_VERIFY_CERT" false
    user := env.getOr "SMTP_USER" ""
    password := env.getOr "SMTP_PASSWORD" ""
    sender := env.getOr "SMTP_FROM" ""
    recipients := env.getOr "SMTP_TO" "" }

/-- The settings that an environment gives. -/
def ofEnvironment (env : Environment) : Except ServiceError Settings := do
  let port ← listenerPort env
  let policy ← rejectionPolicy env
  let databaseUrl ← env.required "DATABASE_URL"
  let usageEndpoint ← env.required "USAGE_ENDPOINT"
  let resourceId ← env.required "GLOBAL_CATALOG_SERVICE_ID"
  let iamEndpoint ← env.required "IAM_ENDPOINT"
  let apiKey ← env.required "IAM_API_KEY"
  return {
    port := port
    serviceName := env.getOr "SERVICE_NAME" "metering-service"
    serviceVersion := env.getOr "SERVICE_VERSION" version
    logLevel := env.getOr "LOG_LEVEL" "info"
    otlpEndpoint := env.get? "OTLP_ENDPOINT"
    database := {
      url := databaseUrl
      maxConnections := env.number "DATABASE_MAX_CONNECTIONS" (UInt32.size - 1) 10
      minConnections := env.number "DATABASE_MIN_CONNECTIONS" (UInt32.size - 1) 2 }
    metering := {
      endpoint := usageEndpoint
      resourceId := resourceId
      pageSize := max (env.number "METERING_PAGE_SIZE" (UInt64.size - 1) 100) 1
      policy := policy
      timeoutSeconds := env.number "METERING_TIMEOUT_SECS" (UInt64.size - 1) 30 }
    iam := ⟨iamEndpoint, apiKey⟩
    job := {
      enabled := env.flag "BILLING_JOB_ENABLED" true
      maxAttempts := max (env.number "BILLING_MAX_ATTEMPTS" (UInt32.size - 1) 3) 1
      backoffSeconds := env.number "BILLING_BACKOFF_SECS" (UInt64.size - 1) 60
      product := env.getOr "BROKER_PRODUCT" "" }
    mail := mailSettings env
    topic := ⟨env.nonBlank? "SNS_TOPIC_ARN", env.nonBlank? "AWS_REGION",
      env.nonBlank? "SNS_ENDPOINT"⟩ }

end Settings

end UsageBilling
