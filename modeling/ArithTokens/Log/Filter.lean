import ArithTokens.Log.Directive

/-!
# Log filters

A filter is a list of directives. The most specific directive about the heading of an entry decides
whether the entry is shown, and without one nothing is shown.
-/

namespace ArithTokens

/-- A choice of what is shown, as directives in the order in which they were given. -/
structure Filter where
  directives : List Directive
deriving DecidableEq, Repr

namespace Filter

/-- What is shown if nothing else is asked for: warnings and errors. -/
def standard : Filter := ⟨[⟨[], .everything, .warn⟩]⟩

/-- Directives are separated by commas, and nothing between two commas is no directive. -/
def ofText? (text : String) : Option Filter :=
  (((text.toList.splitOn ',').filter (· ≠ [])).mapM Directive.ofText?).map Filter.mk

/-- The filter that a setting asks for. Without a setting, or with one that cannot be read, it is
the standard one. -/
def ofSetting (setting : Option String) : Filter := (setting.bind ofText?).getD standard

/-- The more specific of two directives about a heading, the later one if neither is. -/
def moreSpecific (earlier later : Directive) : Directive :=
  if earlier.isNarrower later then earlier else later

/-- The most specific of the directives about a heading. -/
def directive? (filter : Filter) (heading : Heading) : Option Directive :=
  match filter.directives.filter (·.concerns heading) with
  | [] => none
  | first :: rest => some (rest.foldl moreSpecific first)

/-- How much is shown under a heading; nothing if no directive is about it. -/
def limit (filter : Filter) (heading : Heading) : Level :=
  ((filter.directive? heading).map Directive.limit).getD .off

/-- Says that an entry with this heading is shown. -/
def shows (filter : Filter) (heading : Heading) : Bool :=
  (filter.limit heading).shows heading.level

end Filter

end ArithTokens
