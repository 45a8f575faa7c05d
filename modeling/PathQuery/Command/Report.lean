import PathQuery.Command.Arguments

/-!
# The report of a run

The whole command is a function of its arguments and of the bytes on its standard input. Code 0
stands for an answer, 1 for a request that fails, 2 for a line that is no request.
-/

namespace PathQuery.Command

/-- What a run leaves: the exit code and what it writes. -/
structure Report where
  code : Nat
  out : String := ""
  err : String := ""
deriving DecidableEq, Repr

/-- How to call the command. -/
def usage : String := "Usage: jsonpath [OPTIONS] <PATH>\n"

/-- What the options do. -/
def manual : String :=
  "Evaluate JSONPath queries with script expressions against JSON\n\n" ++ usage ++
  "\nArguments:\n" ++
  "  <PATH>  The path to evaluate, e.g. '$.store.book[?(@.price < 10)].title'\n" ++
  "\nOptions:\n" ++
  "  -i, --input <INPUT>  JSON input (reads from stdin if not provided)\n" ++
  "  -p, --pretty         Pretty-print the output\n" ++
  "      --syntax-only    Only validate syntax, don't execute\n" ++
  "      --lenient        Accept whitespace inside bracket segments\n" ++
  "      --index-objects  Allow indices and slices over objects, in key order\n" ++
  "  -v, --verbose        Accepted for scripts that ask for details\n" ++
  "  -h, --help           Print help\n" ++
  "  -V, --version        Print version\n"

/-- What is wrong with a line. -/
def Stop.message : Stop → String
  | .help => manual
  | .version => "jsonpath 0.1.0\n"
  | .unknown argument => "unexpected argument '" ++ argument ++ "' found"
  | .repeated argument => "the argument '" ++ argument ++ "' cannot be used multiple times"
  | .unwantedValue argument => "unexpected value in '" ++ argument ++ "'"
  | .missingValue => "a value is required for '--input <INPUT>' but none was supplied"
  | .missingPath => "the following required arguments were not provided:\n  <PATH>"

/-- Help and version are answers; all else is a wrong call. -/
def Stop.report : Stop → Report
  | .help => { code := 0, out := Stop.message .help }
  | .version => { code := 0, out := Stop.message .version }
  | stop => { code := 2, err := "error: " ++ stop.message ++ "\n\n" ++ usage }

/-- The line that tells an answer. -/
def Answer.line (pretty : Bool) : Answer → String
  | .canonical text => "Syntax is valid: " ++ text ++ "\n"
  | .result json => (if pretty then json.pretty else json.compact) ++ "\n"

/-- The document of a run: the input option, or the bytes of the standard input if it is read
and there are any to read. -/
def Arguments.document (args : Arguments) (bytes? : Option ByteArray) :
    Except Failure (Option String) :=
  if args.readsInput then
    match bytes? with
    | none => .ok none
    | some bytes =>
      match String.fromUTF8? bytes with
      | some text => .ok (some text)
      | none => .error .notText
  else .ok args.input?

/-- Whether a line asks for the standard input. -/
def asksForInput (line : List String) : Bool :=
  match Arguments.ofList line with
  | .ok args => args.path?.isSome && args.readsInput
  | .error _ => false

/-- Reports a failure. -/
def Failure.report (failure : Failure) : Report where
  code := 1
  err := failure.message ++ "\n"

/-- Runs the command. -/
def report (line : List String) (bytes? : Option ByteArray) : Report :=
  match Arguments.ofList line with
  | .error stop => stop.report
  | .ok args =>
    match args.path? with
    | none => Stop.report .missingPath
    | some path =>
      match args.document bytes? with
      | .error failure => failure.report
      | .ok input? =>
        match (args.request path input?).execute with
        | .error failure => failure.report
        | .ok answer => { code := 0, out := answer.line (args.has .pretty) }

end PathQuery.Command
