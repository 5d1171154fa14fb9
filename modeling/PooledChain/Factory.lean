/-
Making links from their definitions.
-/
import PooledChain.Definition.Basic
import PooledChain.Link

namespace PooledChain

namespace Definition

/-- The link that a definition names. The last part of the name selects
it, and two of the kinds answer to a second name. -/
def link (d : Definition) : Except Error Link :=
  match d.shortName with
  | "StatementDecorator" => .ok .decorator
  | "StatementCache" => (CacheConfig.ofProperties d.properties).mapError .config |>.map .cache
  | "LeakedStatementTracker" => .ok .leakTracker
  | "StatementFinalizer" => .ok .leakTracker
  | "QueryStatsRecorder" =>
    (RecorderConfig.ofProperties d.properties).mapError .config |>.map .recorder
  | "SlowQueryReport" =>
    (RecorderConfig.ofProperties d.properties).mapError .config |>.map .recorder
  | _ => .error (.unknownLink d.name)

/-- The links that definitions name, in order; the first definition that
names none decides the failure. -/
def links : List Definition → Except Error (List Link)
  | [] => .ok []
  | d :: ds =>
    match d.link with
    | .error e => .error e
    | .ok link => (links ds).map (link :: ·)

/-- The links of a written chain. The whole text is read before the
first link is made. -/
def chain (text : String) : Except Error (List Link) :=
  match parseList text.toList with
  | .error e => .error (.config e)
  | .ok ds => links ds

end Definition

end PooledChain
