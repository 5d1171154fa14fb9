/-
How the chain of a new connection is given: written as one text, or
link by link, each link written or made beforehand.
-/
import PooledChain.Factory

namespace PooledChain

/-- A link as a session names it. -/
inductive LinkSpec
  /-- By its definition. -/
  | written (definition : String)
  /-- A link that no definition can name. -/
  | made (link : Link)
  deriving DecidableEq, Repr, Inhabited

/-- A chain as a session names it. -/
inductive ChainSpec
  /-- By a list of definitions. -/
  | written (definitions : String)
  /-- Link by link. -/
  | listed (links : List LinkSpec)
  deriving DecidableEq, Repr, Inhabited

/-- The link that is meant. -/
def LinkSpec.link : LinkSpec → Except Error Link
  | made link => .ok link
  | written text =>
    match Definition.parse text.toList with
    | .error e => .error (.config e)
    | .ok d => d.link

/-- The links that are meant; the first one that cannot be made is
reported. -/
def LinkSpec.links : List LinkSpec → Except Error (List Link)
  | [] => .ok []
  | spec :: specs =>
    match spec.link with
    | .error e => .error e
    | .ok link => (links specs).map (link :: ·)

/-- The links of the chain, or why it cannot be made. -/
def ChainSpec.links : ChainSpec → Except Error (List Link)
  | written text => Definition.chain text
  | listed specs => LinkSpec.links specs

end PooledChain
