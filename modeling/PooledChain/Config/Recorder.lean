/-
Configuration of the query statistics recorder.
-/
import PooledChain.Definition.Properties
import PooledChain.Sql.Sanitized

namespace PooledChain

/-- What a recorder records. -/
structure RecorderConfig where
  /-- Executions longer than this many milliseconds are recorded; -1
  records all of them. -/
  threshold : Int
  /-- How many SQL texts a pool keeps figures for. -/
  maxQueries : Nat
  /-- Whether a recorded execution is also logged. -/
  logSlow : Bool
  sanitization : Sanitization
  deriving DecidableEq, Repr, Inhabited

namespace RecorderConfig

/-- Executions of more than 100 milliseconds, for at most a thousand texts,
sanitized and written to the log. -/
def standard : RecorderConfig := ⟨100, 1000, true, .standard⟩

/-- Values that cannot work are refused. -/
def validate (c : RecorderConfig) : Except ConfigError Unit :=
  if c.threshold < -1 then .error (.thresholdTooLow c.threshold)
  else if c.maxQueries == 0 then .error .noQueries
  else .ok ()

/-- Reads `sanitize`, `threshold`, `maxQueries` and `logSlow`, in this
order, and then judges the whole. -/
def ofProperties (p : Properties) : Except ConfigError RecorderConfig := do
  let sanitize ← p.boolOr "sanitize" true
  let threshold ← p.intOr "threshold" standard.threshold
  let maxQueries ← p.natOr "maxQueries" standard.maxQueries
  let logSlow ← p.boolOr "logSlow" standard.logSlow
  let config := ⟨threshold, maxQueries, logSlow, if sanitize then .standard else .off⟩
  config.validate
  return config

/-- Whether an execution of that many milliseconds is recorded. -/
def records (c : RecorderConfig) (elapsed : Nat) : Bool :=
  c.threshold < (elapsed : Int)

end RecorderConfig

end PooledChain
