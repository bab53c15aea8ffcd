import TrafficGateway.Regex.Reader

/-!
# Engines of regular expressions

What comparisons, conditions and the cache of patterns need of regular expressions is little: a text is
a pattern or not, and what a pattern compiles into finds out whether a part of a text matches. All that
is said of them holds for any engine that can do this, whatever its syntax and its limits are.

The engine of gateways is that of `Regex`. It knows the general categories, the scripts and the
properties in `CharProperty`; a text that names another property, such as the extensions of a script or
`Extended_Pictographic`, is no pattern for it. How much room a pattern may take is an estimate.

## Main definitions

* `RegexEngine`: an engine.
* `RegexEngine.standard`: the engine of gateways.
-/

namespace TrafficGateway

/-- An engine of regular expressions: what a text compiles into, if it is a pattern, and whether some
part of a text matches that. -/
class RegexEngine where
  Compiled : Type
  read : String → Option Compiled
  isMatch : Compiled → String → Bool

/-- The engine of gateways. -/
instance RegexEngine.standard : RegexEngine :=
  ⟨Regex, Regex.read, Regex.isMatch⟩

end TrafficGateway
