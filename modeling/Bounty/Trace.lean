/-!
Diagnostic lines, each with its category in brackets.
-/
namespace Bounty

abbrev Trace := List String

def traceLine (category message : String) : String := s!"[{category}] {message}"

def Trace.note (trace : Trace) (category message : String) : Trace :=
  trace ++ [traceLine category message]

end Bounty
