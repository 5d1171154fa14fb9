/-
Definitions: the written form of a chain.

A chain is written as its links, one after the other with semicolons
between them: `QueryStatsRecorder(threshold=100);StatementCache(max=50)`.
Each link has a name, which may be dotted and whose last part selects
the link, and may have properties in parentheses.
-/
import PooledChain.Definition.Properties

namespace PooledChain

/-- A link as it is written down: its name and its properties. -/
structure Definition where
  name : String
  properties : Properties
  deriving DecidableEq, Repr, Inhabited

namespace Definition

-- ================================================ names

/-- What an identifier may begin with. -/
def isIdentifierHead (c : Char) : Bool :=
  c.isAlpha || c == '_'

/-- What may follow in an identifier. -/
def isIdentifierTail (c : Char) : Bool :=
  c.isAlphanum || c == '_'

/-- A letter or underscore, then letters, digits and underscores, all
of them ASCII. -/
def isIdentifier : List Char → Bool
  | [] => false
  | c :: cs => isIdentifierHead c && cs.all isIdentifierTail

/-- Identifiers joined by single dots. -/
def isName (cs : List Char) : Bool :=
  (Text.pieces '.' cs).all isIdentifier

/-- A definition of that name, if it is one, without properties. -/
def named (name : List Char) : Except ConfigError Definition :=
  if name.isEmpty then .error .emptyName
  else if isName name then .ok ⟨String.ofList name, .empty⟩
  else .error (.invalidName (String.ofList name))

/-- The last part of a dotted name. -/
def shortName (d : Definition) : String :=
  String.ofList (Text.lastPiece '.' d.name.toList)

-- ================================================ reading

/-- The text before a final closing parenthesis, if there is one. -/
def beforeClosing? (cs : List Char) : Option (List Char) :=
  match cs.reverse with
  | ')' :: body => some body.reverse
  | _ => none

/-- One link, `Name` or `Name(key=value,...)`. The properties are read
before the name is judged, so of two faults the one in the properties
is reported. -/
def parse (entry : List Char) : Except ConfigError Definition :=
  let entry := Text.trim entry
  match Text.cut? '(' entry with
  | none => named entry
  | some (name, rest) =>
    match beforeClosing? (Text.trimEnd rest) with
    | none => .error (.unbalanced (String.ofList entry))
    | some body =>
      match Properties.parse body with
      | .error e => .error e
      | .ok properties =>
        match named (Text.trim name) with
        | .error e => .error e
        | .ok d => .ok { d with properties }

/-- A list of links; blank entries are skipped, and the first entry
that cannot be read decides the failure. -/
def parseList (text : List Char) : Except ConfigError (List Definition) :=
  ((Text.pieces ';' text).filter fun entry => !Text.allBlank entry).mapM parse

end Definition

end PooledChain
