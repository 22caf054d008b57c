/-!
# Faults of a JSON text

Reading a text goes from left to right and stops at the first thing it cannot accept. That thing
is of one of three kinds.
-/

namespace ExplorerClient.Json

/-- What stops the reading of a text. -/
inductive Fault where
  /-- The text ends where more of it is needed. -/
  | truncated
  /-- The text is not JSON, or not JSON that this reader represents. -/
  | malformed
  /-- The text is JSON so far, but of another form than the one asked for. -/
  | mismatched
  deriving DecidableEq

end ExplorerClient.Json
