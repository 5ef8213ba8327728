/-
Which functions count as entry points, and which are never reported.
-/
import Deadwood.Glob
import Deadwood.Symbol

namespace Deadwood

/-- A policy on entry points. `keepAlive` holds full paths, ends of paths and patterns of further entry points;
`ignored` holds patterns of functions that are never reported. -/
structure Policy where
  visibilities : List Visibility := [.everyone]
  entryNames : List String := ["main"]
  includeTests : Bool := true
  includeForeign : Bool := true
  includeTraitImpls : Bool := true
  keepAlive : List String := []
  ignored : List String := []
  deriving DecidableEq, Repr

namespace Policy

/-- Whether one of the `keepAlive` entries names a function. -/
def keepsAlive (policy : Policy) (symbol : Symbol) : Bool :=
  policy.keepAlive.any fun pattern =>
    symbol.fullPath == pattern || ModulePath.endsWith symbol.fullPath pattern ||
      globMatches pattern symbol.fullPath

/-- Whether a function is an entry point. -/
def isRoot (policy : Policy) (symbol : Symbol) : Bool :=
  policy.visibilities.contains symbol.visibility || policy.entryNames.contains symbol.name ||
    (policy.includeTests && symbol.isTest) || (policy.includeForeign && symbol.isForeign) ||
    (policy.includeTraitImpls && symbol.traitName.isSome) || policy.keepsAlive symbol

/-- Whether a function is never reported. -/
def ignores (policy : Policy) (symbol : Symbol) : Bool :=
  policy.ignored.any fun pattern => globMatches pattern symbol.fullPath

end Policy

end Deadwood
