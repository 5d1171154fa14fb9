/-
Statements and connections as diagnostics show them: the name of the
type, and its fields in braces.
-/
import PooledChain.Chain.Lifecycle
import PooledChain.Text.Quoted

namespace PooledChain

/-- The names of a chain's links, the terminal last. -/
def linkNames (links : List Link) : List String :=
  links.map (·.name) ++ [Link.terminalName]

/-- A truth value as it is shown. -/
def boolText (b : Bool) : String :=
  if b then "true" else "false"

/-- A text that may be missing. -/
def optionText : Option String → String
  | some text => "Some(" ++ Text.quoted text ++ ")"
  | none => "None"

namespace State

/-- A connection with its links, and whether it is closed. -/
def connectionText (s : State) (connection : Connection) : String :=
  "Connection \x7b links: [" ++
    ", ".intercalate ((linkNames connection.links).map Text.quoted) ++
    "], closed: " ++ boolText (s.isClosedTerminal connection.terminal) ++ " \x7d"

/-- A statement with its kind and its SQL, and whether it is closed. -/
def statementText (s : State) (id : LayerId) (layer : Layer) : String :=
  "Statement \x7b kind: " ++ layer.kind.label ++ ", sql: " ++ optionText layer.sql ++
    ", closed: " ++ boolText (s.isClosed id) ++ " \x7d"

end State

/-- A physical connection; its number, which differs from run to run, is
left out. -/
def Physical.text (p : Physical) : String :=
  "PooledConnection \x7b id: _, discarded: " ++ boolText p.discarded ++
    ", checkouts: " ++ toString p.checkouts ++ " \x7d"

/-- A reference that does not keep a connection alive, while it lives. -/
def liveReferenceText : String := "WeakConnection(true)"

end PooledChain
