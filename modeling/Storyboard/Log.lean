/-!
# The log

An entry tells how grave an event is, which part of the library reports it, and
what happened. Functions return their entries in the order of events.
-/

namespace Storyboard

/-- How grave an event is. -/
inductive LogLevel where
  | debug
  | info
  | warning
  | error
deriving DecidableEq, Repr

/-- The part of the library that reports an event. -/
inductive LogArea where
  | settings
  | canvas
  | retry
  | model
  | store
  | generation
  | host
  | tracing
  | server
deriving DecidableEq, Repr

/-- A reported event. -/
structure LogEntry where
  level : LogLevel
  area : LogArea
  message : String
deriving DecidableEq, Repr

/-- The reported events, first to last. -/
abbrev Log := List LogEntry

end Storyboard
