import UsageBilling.Network
import UsageBilling.Notification.Mailbox
import UsageBilling.Notification.Summary
import UsageBilling.Settings

/-!
# Senders of notifications

A summary goes to a mail relay, to the log or to a topic. What a sender needs
is checked when it is made; whether a message arrives is known when it is sent.
-/

namespace UsageBilling

/-- A sender of mail: who it is from, and at least one recipient. -/
structure MailSender where
  sender : Mailbox
  recipients : List Mailbox
  /-- The connection is encrypted from its first octet. -/
  tls : Bool
  deriving DecidableEq, Repr

namespace MailSender

/-- The setting of an address cannot be read. -/
def badAddress (setting : String) (fault : MailboxFault) : ServiceError :=
  ErrorKind.configuration.because ("Invalid " ++ setting ++ ": " ++ fault.message)

/-- The addresses that a list with commas names. -/
def readRecipients (list : String) : Except ServiceError (List Mailbox) := do
  let names := (Text.pieces ',' list.toList).map fun cs => Text.trim (String.ofList cs)
  (names.filter fun name => !name.isEmpty).mapM fun name =>
    match Mailbox.ofText name with
    | .ok mailbox => .ok mailbox
    | .error fault => .error (badAddress ("SMTP_TO address " ++ name) fault)

/-- A sender as the settings describe it. -/
def ofSettings (s : MailSettings) : Except ServiceError MailSender := do
  match Mailbox.ofText s.sender with
  | .error fault => throw (badAddress "SMTP_FROM address" fault)
  | .ok sender =>
    let recipients ← readRecipients s.recipients
    if recipients.isEmpty then
      throw (ErrorKind.configuration.because "SMTP_TO must name at least one recipient")
    return ⟨sender, recipients, s.tls⟩

/-- What comes of sending a summary. -/
def send (_ : MailSender) (_ : Summary) : Except ServiceError Unit :=
  .error (ErrorKind.email.because ("Failed to send email: Connection error: " ++ Network.refusal))

end MailSender

/-- The channel of escalations. -/
inductive MainChannel where
  | log
  | mail (sender : MailSender)
  deriving DecidableEq, Repr

namespace MainChannel

/-- The channel that the settings ask for: mail if it is enabled, else the log. -/
def ofSettings (s : Settings) : Except ServiceError MainChannel :=
  if s.mail.enabled then (MailSender.ofSettings s.mail).map mail else .ok log

/-- What comes of sending a summary; the log takes every summary. -/
def send : MainChannel → Summary → Except ServiceError Unit
  | log, _ => .ok ()
  | mail sender, summary => sender.send summary

end MainChannel

/-- A topic that summaries are published to. -/
structure TopicSender where
  topic : String
  deriving DecidableEq, Repr

namespace TopicSender

/-- A sender to the topic of the settings. -/
def ofSettings (s : TopicSettings) : Except ServiceError TopicSender :=
  match s.topic with
  | some topic => .ok ⟨topic⟩
  | none =>
    .error (ErrorKind.configuration.because "SNS_TOPIC_ARN is required for pub-sub notifications")

/-- The sender of test notifications, if the settings have a topic. -/
def forTests (s : Settings) : Except ServiceError (Option TopicSender) :=
  if s.topic.topic.isSome then (ofSettings s.topic).map some else .ok none

/-- What comes of publishing a summary. -/
def send (_ : TopicSender) (_ : Summary) : Except ServiceError Unit :=
  .error (ErrorKind.badGateway.because ("Failed to publish notification: " ++ Network.refusal))

end TopicSender

end UsageBilling
