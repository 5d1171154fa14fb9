/-
The figures of one SQL text at one moment, ready to be shown.
-/
import PooledChain.Statistics.Mean
import PooledChain.Statistics.Moment
import PooledChain.Text.JsonString

namespace PooledChain.Statistics

/-- The figures of one SQL text. -/
structure Summary where
  sql : String
  /-- How many executions there were. -/
  count : UInt64
  /-- How long they took together. -/
  totalMs : UInt64
  /-- How long the fastest one took. -/
  minMs : UInt64
  /-- When the fastest execution started. -/
  minAt : Option Moment
  /-- How long the slowest one took. -/
  maxMs : UInt64
  /-- When the slowest execution started. -/
  maxAt : Option Moment
  deriving DecidableEq, Repr, Inhabited

namespace Summary

/-- The mean time of an execution. -/
def averageMs (s : Summary) : Float :=
  mean s.totalMs s.count

/-- A moment as readers see it, or a dash. -/
def timeText (t : Option Moment) : String :=
  (t.map Moment.offsetText).getD "-"

/-- One line for readers, the slowest execution first. -/
def text (s : Summary) : String :=
  "QueryStats[query: " ++ s.sql ++
  ", count: " ++ toString s.count.toNat ++
  ", max_ms: " ++ toString s.maxMs.toNat ++
  ", max_at: " ++ timeText s.maxAt ++
  ", min_ms: " ++ toString s.minMs.toNat ++
  ", min_at: " ++ timeText s.minAt ++
  ", total_ms: " ++ toString s.totalMs.toNat ++
  ", avg_ms: " ++ twoPlaces s.averageMs.toBits ++ "]"

/-- A moment as it stands in JSON. -/
def timeJson (t : Option Moment) : String :=
  match t with
  | some m => Text.jsonString m.zuluText
  | none => "null"

/-- One JSON object without spaces, its fields in this order. -/
def json (s : Summary) : String :=
  "\x7b\"sql\":" ++ Text.jsonString s.sql ++
  ",\"count\":" ++ toString s.count.toNat ++
  ",\"total_ms\":" ++ toString s.totalMs.toNat ++
  ",\"min_ms\":" ++ toString s.minMs.toNat ++
  ",\"min_at\":" ++ timeJson s.minAt ++
  ",\"max_ms\":" ++ toString s.maxMs.toNat ++
  ",\"max_at\":" ++ timeJson s.maxAt ++ "\x7d"

end Summary

end PooledChain.Statistics
