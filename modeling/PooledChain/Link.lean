/-
The links a chain is made of.

Links of the library's own kinds decorate the statements that a
connection makes, each for its own reason: to guard a closed handle, to
keep statements for reuse, to close what was forgotten, to time
executions, to count. The others observe a chain or stand in for one:
they log what passes, answer in place of the links below, or change the
SQL on its way down.

A `Link` says what a link is and how it is configured. What it
remembers between calls is kept apart, under the connection it belongs
to and its place in the chain.
-/
import PooledChain.Config.Cache
import PooledChain.Config.Recorder
import PooledChain.Error

namespace PooledChain

/-- What an answering link says to an operation. -/
inductive Canned
  | bool (value : Bool)
  | unit
  | text (value : String)
  | fail (error : DriverError)
  /-- Asks the end of the chain, past all links in between. -/
  | terminal
  deriving DecidableEq, Repr, Inhabited

/-- What stands in a chain above the terminal. -/
inductive Link
  /-- Wraps every statement, so that a closed handle stays closed. -/
  | decorator
  /-- Keeps closed statements and hands them out again. -/
  | cache (config : CacheConfig)
  /-- Closes what is still open when the connection closes. -/
  | leakTracker
  /-- Times executions and records the slow ones. -/
  | recorder (config : RecorderConfig)
  /-- Counts statements made and statements closed. -/
  | counter
  /-- Logs what passes. -/
  | probe (label : String)
  /-- Passes everything on. -/
  | bare
  /-- Answers some operations, by name, and passes the others on. -/
  | answering (answers : List (String × Canned))
  /-- Puts a text before every SQL text that passes. -/
  | prepending (text : String)
  /-- Wraps statements of some kinds and logs what is done with them;
  operations of the listed names are answered without being run. -/
  | watcher (label : String) (kinds : List StatementKind) (answered : List String)
  deriving DecidableEq, Repr, Inhabited

namespace Link

/-- The name by which a chain lists the link. -/
def name : Link → String
  | decorator => "StatementDecorator"
  | cache _ => "StatementCache"
  | leakTracker => "LeakedStatementTracker"
  | recorder _ => "QueryStatsRecorder"
  | counter => "StatementCounter"
  | probe _ => "Probe"
  | bare => "Bare"
  | answering _ => "Answer"
  | prepending _ => "Prefix"
  | watcher _ _ _ => "Hooks"

/-- The end of every chain. -/
def terminalName : String := "TerminalInterceptor"

/-- The kinds of statements that the link decorates. -/
def decorates : Link → List StatementKind
  | decorator => StatementKind.all
  | cache config => config.kinds
  | leakTracker => StatementKind.all
  | recorder _ => StatementKind.all
  | counter => StatementKind.all
  | watcher _ kinds _ => kinds
  | _ => []

/-- What the link keeps, if it is a cache. -/
def cacheConfig? : Link → Option CacheConfig
  | cache config => some config
  | _ => none

/-- What the link records, if it is a recorder. -/
def recorderConfig? : Link → Option RecorderConfig
  | recorder config => some config
  | _ => none

/-- Whether the link hands statements out again. -/
def isCache (l : Link) : Bool := l.cacheConfig?.isSome

/-- Whether the link times executions. -/
def isRecorder (l : Link) : Bool := l.recorderConfig?.isSome

/-- Whether the link lists open statements. -/
def isLeakTracker : Link → Bool
  | leakTracker => true
  | _ => false

/-- Whether the link counts statements. -/
def isCounter : Link → Bool
  | counter => true
  | _ => false

/-- Whether the link wraps statements and does nothing else. -/
def isDecorator : Link → Bool
  | decorator => true
  | _ => false

end Link

end PooledChain
