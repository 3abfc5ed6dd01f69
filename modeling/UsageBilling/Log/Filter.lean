import UsageBilling.Log.Directive

/-!
# Filters of the log

A filter is a list of directives, no two of them for the same places, scopes
and fields. An event passes if a directive about the scope in which it happens
lets it pass, or if that directive does which is the most specific one about
the event itself. What no directive is about does not pass.
-/

namespace UsageBilling

/-- Which events are logged. -/
abbrev LogFilter := List LogDirective

namespace LogFilter

/-- A filter with one more directive, which replaces the one of the same aim. -/
def add (filter : LogFilter) (d : LogDirective) : LogFilter :=
  filter.filter (!·.sameAim d) ++ [d]

/-- The filter of some directives, the later ones of which replace earlier ones. -/
def ofDirectives (ds : List LogDirective) : LogFilter :=
  ds.foldl add []

/-- The texts of the directives: what stands between commas, unless nothing does. -/
def parts (s : String) : List String :=
  ((Text.pieces ',' s.toList).map String.ofList).filter (!·.isEmpty)

/-- The filter that a text describes, if each of its directives can be read. -/
def ofText? (s : String) : Option LogFilter :=
  match (parts s).mapM LogDirective.ofText with
  | .ok ds => some (ofDirectives ds)
  | .error _ => none

/-- A filter without directives lets errors pass. -/
def orErrors : LogFilter → LogFilter
  | [] => [{ rank := LogLevel.error.rank }]
  | filter => filter

/-- The filter of the directives in a text that can be read, and what is said of the others. -/
def ofTextLoosely (s : String) : LogFilter × List String :=
  let results := (parts s).map fun part => (part, LogDirective.ofText part)
  (orErrors (ofDirectives (results.filterMap fun (_, result) => result.toOption)),
    results.filterMap fun (part, result) => match result with
      | .ok _ => none
      | .error fault => some ("ignoring `" ++ part ++ "`: " ++ fault.message))

/-- The rank up to which all events in a scope pass. -/
def scopeRank (filter : LogFilter) (s : LogScope) : Nat :=
  ((filter.filter (·.isAboutScope s)).map (·.rank)).foldl max 0

/-- The most specific directive about an event. -/
def directiveFor? (e : LogEvent) : LogFilter → Option LogDirective
  | [] => none
  | d :: rest =>
    match directiveFor? e rest with
    | some best => if d.isAboutEvent e && d.outweighs best then some d else some best
    | none => if d.isAboutEvent e then some d else none

/-- An event passes the filter. -/
def passes (filter : LogFilter) (e : LogEvent) : Bool :=
  e.scope.any (fun s => e.level.rank ≤ filter.scopeRank s) ||
    (filter.directiveFor? e).any fun d => e.level.rank ≤ d.rank

end LogFilter

end UsageBilling
