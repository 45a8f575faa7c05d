import PathQuery.Command.Basic

/-!
# The command line

A line has one path, options with a value, and switches that are given or not. Options are
called by a word after two dashes or by a letter after one; letters may share a dash, and a
value may follow its option in the same argument. After two lone dashes everything is a path.
No option and no switch may be given twice.
-/

namespace PathQuery.Command

/-- What may be turned on. -/
inductive Switch where
  | pretty
  | syntaxOnly
  | lenient
  | indexObjects
  | verbose
deriving DecidableEq, Repr

/-- What an argument may call by name. -/
inductive Flag where
  | switch (s : Switch)
  /-- The document, as the value of the option. -/
  | input
  | help
  | version
deriving DecidableEq, Repr

/-- The flag of a word. -/
def Flag.ofWord? (word : List Char) : Option Flag :=
  if word = "pretty".toList then some (.switch .pretty)
  else if word = "syntax-only".toList then some (.switch .syntaxOnly)
  else if word = "lenient".toList then some (.switch .lenient)
  else if word = "index-objects".toList then some (.switch .indexObjects)
  else if word = "verbose".toList then some (.switch .verbose)
  else if word = "input".toList then some .input
  else if word = "help".toList then some .help
  else if word = "version".toList then some .version
  else none

/-- The flag of a letter. -/
def Flag.ofLetter? : Char → Option Flag
  | 'p' => some (.switch .pretty)
  | 'v' => some (.switch .verbose)
  | 'i' => some .input
  | 'h' => some .help
  | 'V' => some .version
  | _ => none

/-- Why a line is not run. -/
inductive Stop where
  | help
  | version
  | unknown (argument : String)
  | repeated (argument : String)
  /-- A value for a flag that takes none. -/
  | unwantedValue (argument : String)
  | missingValue
  | missingPath
deriving DecidableEq, Repr

/-- What has been read of a line. -/
structure Arguments where
  path? : Option String := none
  input? : Option String := none
  switches : List Switch := []

namespace Arguments

/-- Whether a switch is on. -/
def has (args : Arguments) (s : Switch) : Bool :=
  args.switches.contains s

/-- Turns a switch on. -/
def turnOn (args : Arguments) (argument : String) (s : Switch) : Except Stop Arguments :=
  if args.has s then .error (.repeated argument)
  else .ok { args with switches := s :: args.switches }

/-- Takes the value of the input option. -/
def setInput (args : Arguments) (text : String) : Except Stop Arguments :=
  match args.input? with
  | some _ => .error (.repeated "--input")
  | none => .ok { args with input? := some text }

/-- Takes the path. -/
def setPath (args : Arguments) (text : String) : Except Stop Arguments :=
  match args.path? with
  | some _ => .error (.unknown text)
  | none => .ok { args with path? := some text }

/-- Reads letters that share a dash. Tells also whether the input option still waits for its
value, which else is what follows the letter, with or without an equals sign. -/
def readLetters (argument : String) (args : Arguments) :
    List Char → Except Stop (Arguments × Bool)
  | [] => .ok (args, false)
  | c :: rest =>
    match Flag.ofLetter? c with
    | none => .error (.unknown argument)
    | some .help => .error .help
    | some .version => .error .version
    | some (.switch s) => do readLetters argument (← args.turnOn argument s) rest
    | some .input =>
      match rest with
      | [] => .ok (args, true)
      | '=' :: value => do return (← args.setInput (String.ofList value), false)
      | value => do return (← args.setInput (String.ofList value), false)

/-- Reads what stands after two dashes: a word, and a value behind an equals sign. Tells also
whether the input option still waits for its value. -/
def readWord (argument : String) (args : Arguments) (cs : List Char) :
    Except Stop (Arguments × Bool) :=
  let value? := (cs.dropWhile (· ≠ '=')).tail?
  match Flag.ofWord? (cs.takeWhile (· ≠ '=')), value? with
  | none, _ => .error (.unknown argument)
  | some .input, none => .ok (args, true)
  | some .input, some value => do return (← args.setInput (String.ofList value), false)
  | some _, some _ => .error (.unwantedValue argument)
  | some .help, none => .error .help
  | some .version, none => .error .version
  | some (.switch s), none => do return (← args.turnOn argument s, false)

/-- Reads the arguments after two lone dashes. -/
def readPaths (args : Arguments) : List String → Except Stop Arguments
  | [] => .ok args
  | path :: rest => do readPaths (← args.setPath path) rest

/-- Reads a line. While the input option waits for its value, an argument that calls a flag is
not taken for it. -/
def read (args : Arguments) (waits : Bool) : List String → Except Stop Arguments
  | [] => if waits then .error .missingValue else .ok args
  | argument :: rest =>
    match argument.toList, waits with
    | '-' :: _ :: _, true => .error .missingValue
    | _, true => do read (← args.setInput argument) false rest
    | ['-', '-'], false => readPaths args rest
    | '-' :: '-' :: word, false => do
      let (args, waits) ← readWord argument args word
      read args waits rest
    | '-' :: letter :: more, false => do
      let (args, waits) ← readLetters argument args (letter :: more)
      read args waits rest
    | _, false => do read (← args.setPath argument) false rest

/-- The arguments of a line. -/
def ofList (line : List String) : Except Stop Arguments :=
  read {} false line

/-- Whether the document is to be read from the standard input. -/
def readsInput (args : Arguments) : Bool :=
  args.input?.isNone && !args.has .syntaxOnly

/-- The request of a line, given the path and the document. -/
def request (args : Arguments) (path : String) (input? : Option String) : Request where
  path := path
  input? := input?
  syntaxOnly := args.has .syntaxOnly
  settings := {
    lenient := args.has .lenient
    indexObjects := args.has .indexObjects }

end Arguments

end PathQuery.Command
