import ObservabilityLab.Errors

/-!
# Trace evidence

The provenance of a trace, and what the bundle compiler reads of one normalized trace: its source,
its scenario, and its content hash. The remaining fields of a trace are the JSON object `fields`,
which only the content hash covers.
-/

namespace ObservabilityLab

open Python

structure TraceSourceRef where
  platform : String
  project : Option String
  traceId : String
  runId : Option String := none
  url : Option String := none
deriving DecidableEq

structure TraceEvidence where
  source : TraceSourceRef
  scenarioId : Option String
  /-- The other fields as they are dumped, without the stored content hash. -/
  fields : List (String × PyValue)

open PyValue in
def TraceSourceRef.dump (r : TraceSourceRef) : PyValue :=
  dict [("platform", str r.platform), ("project", ofOption r.project),
    ("trace_id", str r.traceId), ("run_id", ofOption r.runId), ("url", ofOption r.url)]

/-- The stable hash of one piece of evidence, which excludes the stored hash itself. -/
def computeContentHash [HashFunctions] (evidence : TraceEvidence) : HexDigest :=
  HashFunctions.jsonSha256 (.dict (("source", evidence.source.dump) ::
    ("scenario_id", .ofOption evidence.scenarioId) :: evidence.fields))

end ObservabilityLab
