import TraceScope.Host
import TraceScope.Report

/-!
# Responses

A response has a status and a JSON body. An answer that cannot be presented as JSON is a bare server
error.
-/

namespace TraceScope

/-- What a web service runs on: how a value is presented as JSON, the plain name that stands for the
name of a file, and whether a file can be taken away again. -/
structure Server extends Host where
  jsonify : Value → Except Fault Value
  plainName : String → String
  removing : Place → Option Fault := fun _ => none

/-- An answer to a request; without a body it is not JSON. -/
structure Response where
  status : Nat
  body : Option Value

namespace Response

def serverError : Response := ⟨500, none⟩

def tooLarge : Response := ⟨413, none⟩

end Response

namespace Server

def json (server : Server) (status : Nat) (v : Value) : Response :=
  match server.jsonify v with
  | .ok body => ⟨status, some body⟩
  | .error _ => .serverError

def problemBody (message : Text) : Value := .object [("error", .text message)]

def problem (server : Server) (status : Nat) (message : Text) : Response :=
  server.json status (problemBody message)

/-- Whether a fault is blamed on the values in the request. -/
def isRejection (f : Fault) : Bool :=
  match f.kind with
  | .wrongType | .badValue | .format | .unicode | .incomplete => true
  | _ => false

def unreadable (server : Server) (f : Fault) : Response :=
  if isRejection f then server.problem 400 f.message else .serverError

def failed (server : Server) (f : Fault) : Response :=
  match f.kind with
  | .lookup => server.problem 422 ("Unresolvable identity: " ++ f.message)
  | .format => server.problem 400 f.message
  | _ => server.problem 500 f.message

/-- The answer with a report; a report that cannot be made is a server error. -/
def ofReport (server : Server) : Except Fault Report → Response
  | .ok r => server.json 200 r.toValue
  | .error _ => .serverError

def ofAnalysis (server : Server) (inv : Inventory) (config : Config)
    (analysis : Step Analyzer) : Response :=
  match analysis { inventory := inv, config } with
  | (a, none) => server.ofReport (Report.ofAnalyzer a)
  | (_, some f) => server.failed f

end Server

/-- What the framework makes of the content of a request: it refuses it with a status of its own, or
hands over what it read. -/
inductive Received (α : Type)
  | refused (status : Nat)
  | handed (a : α)

/-- A request: the number of bytes of its content that are asked for, and what the framework makes
of them. -/
structure Incoming (α : Type) where
  contentLength : Nat
  received : Received α

namespace Incoming

def maxLength : Nat := 500 * 1024 * 1024

/-- What was handed over, or the answer to a request that is not taken in. -/
def taken {α : Type} (r : Incoming α) : Except Response α :=
  if maxLength < r.contentLength then .error .tooLarge
  else match r.received with
    | .refused status => .error ⟨status, none⟩
    | .handed a => .ok a

end Incoming

end TraceScope
