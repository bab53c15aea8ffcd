import TrafficGateway.Route.Spec

/-!
# Paths of forwarded requests

A route may change the path of its requests before they are sent on. The query is kept.

## Main definitions

* `dropPrefix?`: what is left of a list after a prefix.
* `PathRule.apply`: the path that is sent on.
* `PathRule.target`: the path and the query that are sent on.
-/

namespace TrafficGateway

/-- What is left of a list after a prefix. -/
def dropPrefix? {α : Type} [DecidableEq α] : List α → List α → Option (List α)
  | [], as => some as
  | _ :: _, [] => none
  | p :: ps, a :: as => if p = a then dropPrefix? ps as else none

/-- The path with a slash in front, if it has none. -/
def rootedPath (path : List Char) : List Char :=
  match path with
  | '/' :: _ => path
  | _ => '/' :: path

namespace PathRule

/-- The path before a slash is put in front. A path that does not start with the prefix to be
stripped is kept. -/
def bare (rule : PathRule) (path : List Char) : List Char :=
  match rule with
  | .copyFullPath => path
  | .stripPrefix start => (dropPrefix? start.toList path).getD path
  | .replaceAny fixed => fixed.toList

/-- The path that is sent on, which starts with a slash. -/
def apply (rule : PathRule) (path : String) : String :=
  String.ofList (rootedPath (rule.bare path.toList))

/-- The path that is sent on and the query after a question mark, unless it is empty. -/
def target (rule : PathRule) (path : String) (query : Option String) : String :=
  match query with
  | some query => if query.isEmpty then rule.apply path else rule.apply path ++ "?" ++ query
  | none => rule.apply path

end PathRule

end TrafficGateway
