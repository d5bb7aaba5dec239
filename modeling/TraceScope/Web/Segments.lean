import TraceScope.Inventory.Document
import TraceScope.Web.Options
import TraceScope.Web.Response

/-!
# Posted segments

Segments can be posted as a JSON object together with their inventory and options. All of it is
read before the analysis begins.
-/

namespace TraceScope

structure Posting where
  config : Config
  inventory : Inventory
  segments : List Segment

namespace Posting

/-- A member that may be left out or empty, as an empty object then. -/
def part (payload : Value) (name : Text) : Except Fault Value := do
  let v ← payload.memberD name .null
  return if v.truthy then v else .object []

def ofValue (stack : Stack) (payload segments : Value) : Except Fault Posting := do
  let config ← Config.ofOptions stack (← part payload "config")
  let inventory ← Inventory.ofValue (← part payload "inventory")
  let segments ← (← segments.elements).mapM (Segment.ofValue stack)
  return { config, inventory, segments }

def respondTo (server : Server) (payload : Value) : Response :=
  match payload with
  | .object members =>
    match Value.memberOf "segments" members with
    | some segments =>
      match ofValue server.stack payload segments with
      | .ok p => server.ofAnalysis p.inventory p.config (Analyzer.processAll p.segments)
      | .error f => server.unreadable f
    | none => server.problem 400 "Expected a JSON object with \"segments\""
  | _ => server.problem 400 "Expected a JSON object with \"segments\""

/-- Answers a request. What is not JSON is handed over as null. -/
def respond (server : Server) (request : Incoming Value) : Response :=
  match request.taken with
  | .ok payload => respondTo server payload
  | .error refusal => refusal

end Posting

end TraceScope
