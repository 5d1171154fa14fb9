/-
Looking for one text inside another, character by character.
-/

namespace PooledChain.Text

/-- Whether `needle` stands somewhere in `hay` as one piece. -/
def occursIn (needle : List Char) : List Char → Bool
  | [] => needle.isEmpty
  | c :: hay => needle.isPrefixOf (c :: hay) || occursIn needle hay

end PooledChain.Text
