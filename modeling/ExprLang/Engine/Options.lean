import ExprLang.Engine.Cache
import ExprLang.Tree.Parse

/-!
# ExprLang.Engine.Options

What can be chosen when an engine is made.
-/

namespace ExprLang

/-- The options of an engine. -/
structure Options where
  /-- The number of compiled expressions that are kept. -/
  cacheLimit : Nat
  /-- How deeply expressions may nest. -/
  maxDepth : Nat
  deriving DecidableEq

/-- Some of the options; the others stay as they are. -/
structure PartialOptions where
  cacheLimit : Option Nat
  maxDepth : Option Nat
  deriving DecidableEq

namespace Options

/-- The options of an engine that is not given any. -/
def standard : Options := ⟨defaultCacheLimit, defaultDepth⟩

/-- Replaces the options that are given. -/
def override (o : Options) (p : PartialOptions) : Options :=
  ⟨p.cacheLimit.getD o.cacheLimit, p.maxDepth.getD o.maxDepth⟩

/-- The debugging form of options. -/
def debug (o : Options) : String :=
  "EngineOptions \x7b cache_limit: " ++ toString o.cacheLimit ++ ", max_parse_depth: " ++
    toString o.maxDepth ++ " \x7d"

end Options

end ExprLang
