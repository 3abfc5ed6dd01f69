import UsageBilling.Error

/-!
# Where errors come from

What the settings, the mail, the operating system and the store report, in
their own words, and the error of the service that each report becomes.
-/

namespace UsageBilling

/-- A report about settings. -/
inductive SettingsFault where
  | notFound (property : String)
  | frozen
  | other (text : String)
  deriving DecidableEq, Repr

/-- The words of a report about settings. -/
def SettingsFault.text : SettingsFault → String
  | notFound property => "configuration property \"" ++ property ++ "\" not found"
  | frozen => "configuration is frozen"
  | other text => text

/-- A report about a mail that cannot be made. -/
inductive MailFault where
  | missingFrom
  | missingTo
  | tooManyFrom
  | missingAt
  | missingLocalPart
  | missingDomain
  | badFilename
  | notAscii
  deriving DecidableEq, Repr

/-- The words of a report about a mail. -/
def MailFault.text : MailFault → String
  | missingFrom => "missing source address, invalid envelope"
  | missingTo => "missing destination address, invalid envelope"
  | tooManyFrom => "there can only be one source address"
  | missingAt => "missing @ in email address"
  | missingLocalPart => "missing local part in email address"
  | missingDomain => "missing domain in email address"
  | badFilename => "could not parse attachment filename"
  | notAscii => "contains non-ASCII chars"

/-- A report of the store. -/
inductive StoreFault where
  | rowNotFound
  | poolTimedOut
  | poolClosed
  | workerCrashed
  | columnNotFound (name : String)
  | protocol (text : String)
  deriving DecidableEq, Repr

/-- The words of a report of the store. -/
def StoreFault.text : StoreFault → String
  | rowNotFound => "no rows returned by a query that expected to return at least one row"
  | poolTimedOut => "pool timed out while waiting for an open connection"
  | poolClosed => "attempted to acquire a connection on a closed pool"
  | workerCrashed => "attempted to communicate with a crashed background worker"
  | columnNotFound name => "no column found for name: " ++ name
  | protocol text => "encountered unexpected or invalid data: " ++ text

/-- A report that becomes an error of the service. -/
inductive ErrorOrigin where
  | settings (fault : SettingsFault)
  | mail (fault : MailFault)
  | device (fault : DeviceFault) (text : Option String)
  | store (fault : StoreFault)
  | message (text : String)
  deriving DecidableEq, Repr

/-- The error that a report becomes. -/
def ErrorOrigin.toError : ErrorOrigin → ServiceError
  | settings fault => ErrorKind.configuration.because fault.text
  | mail fault => ErrorKind.email.because fault.text
  | device fault text => ⟨.internal, .device fault text⟩
  | store fault => ErrorKind.database.because fault.text
  | message text => ErrorKind.internal.because text

end UsageBilling
