/-!
# Text inside markup

The five characters that mean something to HTML are written as escapes, so
that a text inside an element stays a text.
-/

namespace UsageBilling.Text

/-- One character as it is written inside an element. -/
def escapeChar : Char → List Char
  | '&' => "&amp;".toList
  | '<' => "&lt;".toList
  | '>' => "&gt;".toList
  | '"' => "&quot;".toList
  | '\'' => "&#x27;".toList
  | c => [c]

/-- A text as it is written inside an element. -/
def escape (cs : List Char) : List Char :=
  cs.flatMap escapeChar

/-- A paragraph that shows a text. -/
def paragraph (cs : List Char) : List Char :=
  "<p>".toList ++ escape cs ++ "</p>".toList

end UsageBilling.Text
