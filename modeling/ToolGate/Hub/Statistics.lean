import ToolGate.Calendar
import ToolGate.Hub.Record

/-!
# Call statistics and discovery

The hub publishes its servers together with statistics on the calls of
their tools.
-/

namespace ToolGate.Hub

/-- How long calls take, in microseconds: the mean and three percentiles. -/
structure Latency where
  avg : Binary64
  p90 : Binary64
  p99 : Binary64
  p999 : Binary64
deriving DecidableEq

namespace Latency

/-- Read latencies. -/
def ofJson? (value : Json) : Option Latency := do
  let fields ← fields? ["avg", "p90", "p99", "p999"] value
  let avg ← requiredField Json.binary64? fields "avg"
  let p90 ← requiredField Json.binary64? fields "p90"
  let p99 ← requiredField Json.binary64? fields "p99"
  let p999 ← requiredField Json.binary64? fields "p999"
  some { avg, p90, p99, p999 }

/-- Write latencies. -/
def toJson (latency : Latency) : Json :=
  .object
    [("avg", .ofBinary64 latency.avg),
      ("p90", .ofBinary64 latency.p90),
      ("p99", .ofBinary64 latency.p99),
      ("p999", .ofBinary64 latency.p999)]

end Latency

/-- What is known about the calls of a tool. -/
structure CallStatistics where
  calls : UInt64
  latency : Latency
  coverage : Binary64
  errors : UInt64
  accuracy : Binary64
deriving DecidableEq

namespace CallStatistics

/-- Read the statistics of calls. -/
def ofJson? (value : Json) : Option CallStatistics := do
  let fields ← fields? ["calls", "latencyUsec", "coverage", "errors", "accuracy"] value
  let calls ← requiredField Json.word? fields "calls"
  let latency ← requiredField Latency.ofJson? fields "latencyUsec"
  let coverage ← requiredField Json.binary64? fields "coverage"
  let errors ← requiredField Json.word? fields "errors"
  let accuracy ← requiredField Json.binary64? fields "accuracy"
  some { calls, latency, coverage, errors, accuracy }

/-- Write the statistics of calls. -/
def toJson (statistics : CallStatistics) : Json :=
  .object
    [("calls", .ofWord statistics.calls),
      ("latencyUsec", statistics.latency.toJson),
      ("coverage", .ofBinary64 statistics.coverage),
      ("errors", .ofWord statistics.errors),
      ("accuracy", .ofBinary64 statistics.accuracy)]

/-- The share of calls that failed, zero if there was none. -/
def errorRate (statistics : CallStatistics) : Binary64 :=
  ((Binary64.ofNat statistics.errors.toNat).div?
    (Binary64.ofNat statistics.calls.toNat)).getD (.zero false)

end CallStatistics

/-- The statistics of one tool at one time. -/
structure ToolStatistics where
  tool : String
  statistics : CallStatistics
  timestamp : String
deriving DecidableEq

namespace ToolStatistics

/-- Read the statistics of a tool. -/
def ofJson? (value : Json) : Option ToolStatistics := do
  let fields ← fields? ["toolName", "stats", "timestamp"] value
  let tool ← requiredField Json.string? fields "toolName"
  let statistics ← requiredField CallStatistics.ofJson? fields "stats"
  let timestamp ← requiredField Json.string? fields "timestamp"
  some { tool, statistics, timestamp }

/-- Write the statistics of a tool. -/
def toJson (entry : ToolStatistics) : Json :=
  .object
    [("toolName", .string entry.tool),
      ("stats", entry.statistics.toJson),
      ("timestamp", .string entry.timestamp)]

/-- The time of the statistics, if its text is a timestamp. -/
def recordedAt? (entry : ToolStatistics) : Option Calendar.Timestamp :=
  Calendar.timestamp? entry.timestamp

end ToolStatistics

/-- A server as discovery presents it. -/
structure DiscoveredServer where
  id : String
  name : String
  description : String
  categories : List String
  tags : List String
  pricePerCall : Binary64
  toolCount : UInt64
  toolStatistics : List ToolStatistics
deriving DecidableEq

namespace DiscoveredServer

/-- The names of the fields, in order. -/
def fieldNames : List String :=
  ["id", "name", "description", "categories", "tags", "pricePerCall", "toolCount", "toolStats"]

/-- Read a discovered server. -/
def ofJson? (value : Json) : Option DiscoveredServer := do
  let fields ← fields? fieldNames value
  let id ← requiredField Json.string? fields "id"
  let name ← requiredField Json.string? fields "name"
  let description ← requiredField Json.string? fields "description"
  let categories ← requiredField (list? Json.string?) fields "categories"
  let tags ← requiredField (list? Json.string?) fields "tags"
  let pricePerCall ← requiredField Json.binary64? fields "pricePerCall"
  let toolCount ← requiredField Json.word? fields "toolCount"
  let toolStatistics ← requiredField (list? ToolStatistics.ofJson?) fields "toolStats"
  some { id, name, description, categories, tags, pricePerCall, toolCount, toolStatistics }

/-- Write a discovered server. -/
def toJson (server : DiscoveredServer) : Json :=
  .object
    [("id", .string server.id),
      ("name", .string server.name),
      ("description", .string server.description),
      ("categories", strings server.categories),
      ("tags", strings server.tags),
      ("pricePerCall", .ofBinary64 server.pricePerCall),
      ("toolCount", .ofWord server.toolCount),
      ("toolStats", .array (server.toolStatistics.map ToolStatistics.toJson))]

end DiscoveredServer

/-- What discovery answers. -/
structure Discovery where
  servers : List DiscoveredServer
  totalCount : UInt64
deriving DecidableEq

namespace Discovery

/-- Read a discovery answer. -/
def ofJson? (value : Json) : Option Discovery := do
  let fields ← fields? ["servers", "totalCount"] value
  let servers ← requiredField (list? DiscoveredServer.ofJson?) fields "servers"
  let totalCount ← requiredField Json.word? fields "totalCount"
  some { servers, totalCount }

/-- Write a discovery answer. -/
def toJson (discovery : Discovery) : Json :=
  .object
    [("servers", .array (discovery.servers.map DiscoveredServer.toJson)),
      ("totalCount", .ofWord discovery.totalCount)]

end Discovery

end ToolGate.Hub
