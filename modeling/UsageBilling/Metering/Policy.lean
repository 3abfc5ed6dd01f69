import UsageBilling.Text.Blank

/-!
# Rejection policies

Which of the rejected items of a batch are kept for another try.
-/

namespace UsageBilling

/-- Which rejected items of a batch are kept. -/
inductive RejectionPolicy where
  /-- Those that were reported as duplicates. -/
  | duplicateOnly
  /-- All of them. -/
  | allRejected
  deriving DecidableEq, Repr, Inhabited

namespace RejectionPolicy

/-- The policy where none is named. -/
def standard : RejectionPolicy := duplicateOnly

/-- The name of a policy. -/
def name : RejectionPolicy → String
  | duplicateOnly => "duplicate_only"
  | allRejected => "all_rejected"

/-- The policy that a text names, whatever its case and the blanks around it, or what is wrong
with the text. -/
def ofText (s : String) : Except String RejectionPolicy :=
  let s := Text.lowerAscii (Text.trim s)
  if s = duplicateOnly.name then .ok duplicateOnly
  else if s = allRejected.name then .ok allRejected
  else .error ("Unknown rejection policy: " ++ s)

end RejectionPolicy

end UsageBilling
