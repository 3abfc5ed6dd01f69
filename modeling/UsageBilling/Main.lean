import UsageBilling.Launch

/-!
# The command line

The service takes no arguments. It is set up by its environment, logs to the
standard output and complains to the error stream.
-/

namespace UsageBilling

/-- The environment as far as a launch looks at it. -/
def Environment.read : IO Environment := do
  let values ← Launch.names.mapM fun name => do
    return (← IO.getEnv name).map fun value => (name, value)
  return values.filterMap id

end UsageBilling

open UsageBilling

/-- Launch the service. -/
def main : IO UInt32 := do
  let launch := Launch.ofEnvironment (← Environment.read)
  for event in launch.log do
    IO.println event.line
  for complaint in launch.complaints do
    IO.eprintln complaint
  return launch.exitCode.toUInt32
