/-!
# Pieces of a text

A text that is cut wherever a separator stands.

## Main definitions

* `pieces`: what stands between the separators.
-/

namespace TrafficGateway

/-- What stands between the separators of a text, in order. A text without separators is its only
piece. -/
def pieces (separator : Char) (s : String) : List String :=
  (s.toList.splitOn separator).map String.ofList

end TrafficGateway
