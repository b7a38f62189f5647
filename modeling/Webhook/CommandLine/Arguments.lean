import Webhook.CommandLine.Flag

/-!
# Reading the command line

Arguments are read from left to right.  An option stands with its value in one argument or in two,
and a value of its own argument does not start with a dash.  Such a value is read when the next
option is met, or at the end.  An argument that is no option and no value is refused at once, even
if the value before it is wrong.

Options that are not given are then taken from the environment.
-/

namespace Webhook.CommandLine

/-- What can be wrong with the command line. -/
inductive UsageFault where
  /-- An argument is no option and no value. -/
  | unexpected (argument : String)
  /-- An option is given a second time. -/
  | repeated (flag : Flag)
  /-- A value is given to an option that takes none. -/
  | surplusValue (value shown : String)
  /-- The value of an option is wrong. -/
  | badValue (flag : Flag) (value : String) (fault : ValueFault)
  deriving DecidableEq, Repr

/-- The words for what is wrong. -/
def UsageFault.message : UsageFault → String
  | unexpected argument => "unexpected argument '" ++ argument ++ "' found"
  | repeated flag => "the argument '" ++ flag.shown ++ "' cannot be used multiple times"
  | surplusValue value shown =>
    "unexpected value '" ++ value ++ "' for '" ++ shown ++ "' found; no more were expected"
  | badValue flag _ .required =>
    "a value is required for '" ++ flag.shown ++ "' but none was supplied"
  | badValue flag value .notListed => "invalid value '" ++ value ++ "' for '" ++ flag.shown ++ "'"
  | badValue flag value (.malformed reason) =>
    "invalid value '" ++ value ++ "' for '" ++ flag.shown ++ "': " ++ reason

/-- Why the command line is not run. -/
inductive Stop where
  /-- The user asked for help. -/
  | help
  /-- The user asked for the version. -/
  | version
  /-- Something is wrong. -/
  | fault (f : UsageFault)
  deriving DecidableEq, Repr

/-- How far the command line is read. -/
structure Reading where
  /-- What was given so far. -/
  given : Given
  /-- The option that was met last, if its value is not read yet, with its value if it is there. -/
  pending : Option (Flag × Option String)

namespace Reading

/-- Nothing is read. -/
def start : Reading := ⟨.nothing, none⟩

/-- Reads several values of an option. -/
def readAll (f : Flag) (texts : List String) : Except Stop (List f.Value) :=
  texts.mapM fun text => (f.read text).mapError fun fault => .fault (.badValue f text fault)

/-- Stores the values of an option.  Those of a list follow the ones it has. -/
def store (g : Given) (f : Flag) (texts : List String) : Except Stop Given := do
  match f.arity with
  | .list _ => return g.set f (g.many f [] ++ (← readAll f texts))
  | _ =>
    if g.has f then throw (.fault (.repeated f))
    return g.set f (← readAll f texts)

/-- Reads the value that waits to be read. -/
def settle (r : Reading) : Except Stop Given :=
  match r.pending with
  | none => .ok r.given
  | some (f, none) => .error (.fault (.badValue f "" .required))
  | some (f, some text) => store r.given f (f.divide text)

/-- Goes on after an option whose values are known. -/
def give (r : Reading) (f : Flag) (texts : List String) : Except Stop Reading := do
  return ⟨← store (← r.settle) f texts, none⟩

/-- Goes on after an option whose value is the next argument. -/
def await (r : Reading) (f : Flag) : Except Stop Reading := do
  return ⟨← r.settle, some (f, none)⟩

/-- Stops for a request of the user, unless a value before it is wrong. -/
def stopFor {α : Type} (r : Reading) (stop : Stop) : Except Stop α := do
  let _ ← r.settle
  throw stop

/-- Refuses something at once. -/
def refuse {α : Type} (f : UsageFault) : Except Stop α := .error (.fault f)

/-- The part before the first equals sign, and the part after it if there is one. -/
def divideAtEquals (text : List Char) : String × Option String :=
  let before := String.ofList (text.takeWhile (· != '='))
  match text.dropWhile (· != '=') with
  | [] => (before, none)
  | _ :: after => (before, some (String.ofList after))

/-- Reads an option by its name, with the value that is attached to it. -/
def named (r : Reading) (name : String) (attached : Option String) : Except Stop Reading :=
  match name, attached, Flag.ofName? name with
  | "help", none, _ => r.stopFor .help
  | "help", some value, _ => refuse (.surplusValue value "--help")
  | "version", none, _ => r.stopFor .version
  | "version", some value, _ => refuse (.surplusValue value "--version")
  | _, _, none => refuse (.unexpected ("--" ++ name))
  | _, none, some f => if f.arity = .switch then r.give f ["true"] else r.await f
  | _, some value, some f =>
    if f.arity = .switch then refuse (.surplusValue value f.shown) else r.give f (f.divide value)

/-- Reads an option by its letter, with what is attached to it. -/
def lettered (r : Reading) (c : Char) (attached : List Char) : Except Stop Reading :=
  match c, attached, Flag.ofLetter? c with
  | 'h', _, _ => r.stopFor .help
  | 'V', _, _ => r.stopFor .version
  | _, _, none => refuse (.unexpected (String.ofList ['-', c]))
  | _, [], some f => r.await f
  | _, '=' :: value, some f => r.give f (f.divide (String.ofList value))
  | _, value, some f => r.give f (f.divide (String.ofList value))

/-- Reads an argument that is no option. -/
def plain (r : Reading) (argument : String) : Except Stop Reading :=
  match r.pending with
  | some (f, none) => .ok { r with pending := some (f, some argument) }
  | _ => refuse (.unexpected argument)

/-- Reads an argument other than the two dashes that end the options. -/
def next (r : Reading) (argument : String) : Except Stop Reading :=
  match argument.toList with
  | '-' :: '-' :: text =>
    let (name, attached) := divideAtEquals text
    r.named name attached
  | '-' :: c :: attached => r.lettered c attached
  | _ => r.plain argument

/-- Reads arguments.  After two dashes no argument is an option or a value. -/
def arguments (r : Reading) : List String → Except Stop Given
  | [] => r.settle
  | ["--"] => r.settle
  | "--" :: argument :: _ => refuse (.unexpected argument)
  | argument :: more => do (← r.next argument).arguments more

/-- Takes an option from the environment if it is not given. -/
def fromEnvironment (env : List (String × String)) (g : Given) (f : Flag) : Except Stop Given :=
  match g.has f, env.lookup f.envName with
  | false, some text => store g f (f.divide text)
  | _, _ => .ok g

end Reading

/-- What is given by the command line and the environment.  The command line counts more. -/
def readGiven (arguments : List String) (env : List (String × String)) : Except Stop Given := do
  Flag.all.foldlM (Reading.fromEnvironment env) (← Reading.start.arguments arguments)

end Webhook.CommandLine
