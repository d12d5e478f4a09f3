import SinkPipeline.Json.Writer
import SinkPipeline.Path
import SinkPipeline.Process.Env
import SinkPipeline.SinkName

/-! # The projected environment

  What a plan tells all its processes: which sink they work for, in which mode
  and, if the caller wants it, in which context.  The context is one variable
  that holds JSON in printable ASCII with the members in the order of their
  names.
-/

namespace SinkPipeline.Projection

/-- The path of a sink: that of its item, or else its key. -/
def sinkPath (itemPath : Option String) (key : String) : Path := .ofString (itemPath.getD key)

/-- The variables that every process of a plan is given. -/
def entries (sink : Path) (name : SinkName) (mode : String) : Env :=
  [("CAPEXEC_MODE", if mode = "" then "build" else mode), ("CAPEXEC_SINK", sink.toString),
    ("CAPEXEC_DIR", sink.parent.toString), ("CAPEXEC_BASENAME", name.basename),
    ("CAPEXEC_NATURE", name.natureToken)]

/-- The text of a context; no context is an empty object. -/
def contextText (context : Json) : String :=
  ((context.nonNull?).getD (.obj [])).render Json.spacedSorted

/-- The variables with the context of the run. -/
def withContext (env : Env) (context : Json) : Env :=
  env.set "CAPEXEC_CONTEXT_JSON" (contextText context)

end SinkPipeline.Projection
