import UsageBilling.Json.Printer
import UsageBilling.Text.Numeral

/-!
# The log

An event has a level, a place it comes from, and named values. It may happen in
a scope, a piece of work that has a name, a place and named values itself.
-/

namespace UsageBilling

/-- How urgent an event is. -/
inductive LogLevel where
  | error
  | warn
  | info
  | debug
  | trace
  deriving DecidableEq, Repr

namespace LogLevel

/-- The level as a number that grows as events get less urgent. -/
def rank : LogLevel → Nat
  | error => 1
  | warn => 2
  | info => 3
  | debug => 4
  | trace => 5

/-- The name of a level. -/
def name : LogLevel → String
  | error => "ERROR"
  | warn => "WARN"
  | info => "INFO"
  | debug => "DEBUG"
  | trace => "TRACE"

end LogLevel

/-- A value of an event. -/
inductive LogValue where
  | text (s : String)
  | number (n : Nat)
  | flag (b : Bool)
  deriving DecidableEq, Repr

/-- The work in which an event happens. -/
structure LogScope where
  /-- The place of the work. -/
  target : String
  name : String
  fields : List (String × LogValue)
  deriving DecidableEq, Repr

/-- Something that is logged. -/
structure LogEvent where
  level : LogLevel
  /-- The place it comes from. -/
  target : String
  message : String
  fields : List (String × LogValue)
  /-- The work that was going on, if the log is told of it. -/
  scope : Option LogScope
  deriving DecidableEq, Repr

namespace LogValue

/-- A value as JSON. -/
def json : LogValue → List Char
  | text s => Json.string s
  | number n => Text.decimal n
  | flag true => "true".toList
  | flag false => "false".toList

end LogValue

/-- An event as one line of JSON. -/
def LogEvent.line (e : LogEvent) : String :=
  String.ofList <| Json.object <|
    ("level", Json.string e.level.name) :: ("message", Json.string e.message) ::
      (e.fields.map fun (name, value) => (name, value.json)) ++
      [("target", Json.string e.target)]

end UsageBilling
