/-!
# The network

The service runs where no network is. Whatever it connects to, the operating
system refuses with the same words before anything is sent.
-/

namespace UsageBilling.Network

/-- What the operating system says to every attempt to connect. -/
def refusal : String := "Network is unreachable (os error 101)"

end UsageBilling.Network
