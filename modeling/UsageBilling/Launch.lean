import UsageBilling.Address.Uri
import UsageBilling.Database
import UsageBilling.Log.Filter
import UsageBilling.Settings

/-!
# Launching the service

The service reads its settings, sets up its log, says how it is configured and
connects to its database. Where no network is, that is where it ends: with a
report on the error stream and the exit code of a failure.
-/

namespace UsageBilling

/-- What a launch shows. -/
structure Launch where
  exitCode : Nat
  /-- The lines on the error stream. -/
  complaints : List String
  /-- The events that were logged. -/
  log : List LogEvent
  deriving Repr

namespace Launch

/-- The names that a launch looks up in the environment. -/
def names : List String :=
  "RUST_LOG" :: Settings.names

/-- The last line of a launch that failed. -/
def failureLine (reason : String) : String :=
  "Error: Custom \x7b kind: Other, error: " ++ Text.quoted reason ++ " \x7d"

/-- The filter of the log and what is said of it: the one that is set aside, or that of the
level in the settings. -/
def filterOf (env : Environment) (s : Settings) : LogFilter × List String :=
  match (env.get? "RUST_LOG").bind LogFilter.ofText? with
  | some filter => (filter, [])
  | none => LogFilter.ofTextLoosely s.logLevel

/-- The address that traces are sent to. -/
def traceUri (endpoint : String) : String :=
  endpoint ++ (if endpoint.endsWith "/" then "v1/traces" else "/v1/traces")

/-- What is said of a trace collector that cannot be used. -/
def collectorComplaints (s : Settings) : List String :=
  match s.otlpEndpoint with
  | none => []
  | some endpoint =>
    match Address.checkUri (traceUri endpoint) with
    | .ok () => []
    | .error fault =>
      ["Failed to initialize OTLP tracer for service '" ++ s.serviceName ++ "' at endpoint '" ++
        endpoint ++ "': Exporter otlp encountered the following error(s): invalid URI " ++
        fault.message]

/-- A text that may be missing, spelled out. -/
def optionText : Option String → String
  | none => "None"
  | some s => "Some(" ++ Text.quoted s ++ ")"

/-- A number as a text value. -/
def numeral (n : Nat) : LogValue :=
  .text (String.ofList (Text.decimal n))

/-- The limits on connections to the database. -/
def limits (s : Settings) : List (String × LogValue) :=
  [("max_connections", .number s.database.maxConnections),
    ("min_connections", .number s.database.minConnections)]

/-- The scope in which the service connects to its database. -/
def connecting (s : Settings) : LogScope :=
  ⟨"metering_service::services::database", "new",
    limits s ++ [("service", .text "metering-service")]⟩

/-- The events of a launch up to the connection. -/
def announcements (s : Settings) : List LogEvent :=
  [⟨.info, "metering_service", "Starting metering-service",
      [("version", .text s.serviceVersion), ("otlp_endpoint", .text (optionText s.otlpEndpoint))],
      none⟩,
    ⟨.info, "metering_service", "Configuration loaded",
      [("service_name", .text s.serviceName), ("http_port", numeral s.port),
        ("db_max_connections", numeral s.database.maxConnections),
        ("db_min_connections", numeral s.database.minConnections),
        ("usage_endpoint", .text s.metering.endpoint), ("iam_endpoint", .text s.iam.endpoint),
        ("billing_enabled", .flag s.job.enabled),
        ("billing_max_attempts", .number s.job.maxAttempts),
        ("billing_backoff_secs", .number s.job.backoffSeconds),
        ("smtp_enabled", .flag s.mail.enabled)], none⟩,
    ⟨.info, (connecting s).target, "Connecting to PostgreSQL", limits s, some (connecting s)⟩]

/-- The events of a connection that is refused. -/
def refusals (e : ServiceError) : List LogEvent :=
  [⟨.error, "metering_service::startup", "Failed to connect to PostgreSQL",
      [("error", .text e.message)], none⟩,
    ⟨.error, "metering_service", "Failed to build application",
      [("error", .text e.message)], none⟩]

/-- Launch the service in an environment. -/
def ofEnvironment (env : Environment) : Launch :=
  match Settings.ofEnvironment env with
  | .error e =>
    { exitCode := 1
      complaints := ["Failed to load configuration: " ++ e.message,
        failureLine ("Configuration error: " ++ e.message)]
      log := [] }
  | .ok s =>
    let (filter, warnings) := filterOf env s
    let e := Database.connectionRefused s.database.url
    { exitCode := 1
      complaints := warnings ++ collectorComplaints s ++
        [failureLine ("Application build error: " ++ e.message)]
      log := (announcements s ++ refusals e).filter filter.passes }

end Launch

end UsageBilling
