import PathQuery.Query.Rendering
import PathQuery.Walk.Evaluate

/-!
# Running one query

A request names a query and, unless only its form is of interest, a document. The query is
compiled first, so that a request with a bad query fails the same way whatever its document is.
-/

namespace PathQuery.Command

/-- One run of a query. -/
structure Request where
  path : String
  /-- The text of the document. -/
  input? : Option String := none
  /-- Look at the form of the query only. -/
  syntaxOnly : Bool := false
  settings : Settings := .standard

/-- What a request comes to. -/
inductive Answer where
  /-- The canonical form of the query. -/
  | canonical (text : String)
  | result (json : Json)

/-- Why a request has no answer. -/
inductive Failure where
  | query (fault : QueryFault)
  | eval (fault : EvalFault)
  /-- The document is not JSON. -/
  | notJson
  /-- The bytes of the document are not UTF-8. -/
  | notText
  | noInput

/-- The words for a failure. -/
def Failure.message : Failure → String
  | .query fault => "Compile error: " ++ fault.message
  | .eval fault => "Evaluation error: " ++ fault.message
  | .notJson => "Invalid JSON"
  | .notText => "IO error: stream did not contain valid UTF-8"
  | .noInput => "No input provided. Use --input or pipe JSON to stdin."

/-- Runs a query on the text of a document. -/
def run (settings : Settings) (query : Query) (text : String) : Except Failure Answer :=
  match Value.ofText? text with
  | none => .error .notJson
  | some document =>
    match Query.evaluate settings query document with
    | .error fault => .error (.eval fault)
    | .ok result => .ok (.result result.toJson)

/-- Answers a request. -/
def Request.execute (request : Request) : Except Failure Answer :=
  match Query.compile request.settings request.path with
  | .error fault => .error (.query fault)
  | .ok query =>
    if request.syntaxOnly then .ok (.canonical (Query.render query))
    else
      match request.input? with
      | none => .error .noInput
      | some text => run request.settings query text

end PathQuery.Command
