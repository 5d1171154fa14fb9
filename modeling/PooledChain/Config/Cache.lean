/-
Configuration of the statement cache.
-/
import PooledChain.Definition.Properties
import PooledChain.Operation

namespace PooledChain

/-- What a cache keeps. -/
structure CacheConfig where
  prepared : Bool
  callable : Bool
  /-- How many statements a connection keeps; zero turns the cache off. -/
  max : Nat
  deriving DecidableEq, Repr, Inhabited

namespace CacheConfig

/-- A cache for prepared statements, fifty of them. -/
def standard : CacheConfig := ⟨true, false, 50⟩

/-- Reads `prepared`, `callable` and `max`, in this order. -/
def ofProperties (p : Properties) : Except ConfigError CacheConfig := do
  let prepared ← p.boolOr "prepared" standard.prepared
  let callable ← p.boolOr "callable" standard.callable
  let max ← p.natOr "max" standard.max
  return ⟨prepared, callable, max⟩

/-- The kinds of statements that are cached. -/
def kinds (c : CacheConfig) : List StatementKind :=
  if c.max == 0 then []
  else (if c.prepared then [.prepared] else []) ++ (if c.callable then [.callable] else [])

/-- Whether there is a kind that the cache keeps. -/
def isEnabled (c : CacheConfig) : Bool :=
  !c.kinds.isEmpty

end CacheConfig

end PooledChain
