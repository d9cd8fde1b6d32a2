/-!
# Arguments

The arguments of the command that generates bindings: options with a value, which stands behind
the option or is attached to it, and flags. Everything but contracts may be given once.

Arguments are taken one at a time. An option whose value is still to come, or has only just come,
is settled when the next option or flag arrives, or at the end; an argument that means nothing
ends the reading at once, whatever is unsettled.
-/

namespace AbiBindings

/-- An option with a value. -/
inductive ValueOption where
  | settings
  | contract
  | outputDirectory
  | library
  deriving DecidableEq

/-- A flag. -/
inductive Flag where
  | clean
  | dryRun
  | verbose
  deriving DecidableEq

/-- What the arguments say. -/
structure Arguments where
  settings? : Option String := none
  contracts : List String := []
  outputDirectory? : Option String := none
  library? : Option String := none
  clean : Bool := false
  dryRun : Bool := false
  verbose : Bool := false

/-- Why the arguments are refused. -/
inductive ArgumentFault where
  | unknown (argument : String)
  | missingValue (option : ValueOption)
  | repeated
  /-- A flag has a value. -/
  | unexpectedValue
  /-- Not a fault of the arguments: they ask for help. -/
  | helpRequested
  deriving DecidableEq

/-- What the name of an option stands for. -/
inductive OptionName where
  | value (o : ValueOption)
  | flag (f : Flag)
  | help

namespace OptionName

/-- The option with a long name. -/
def ofLong? (name : String) : Option OptionName :=
  if name = "config" then some (value .settings)
  else if name = "abi" then some (value .contract)
  else if name = "output-dir" then some (value .outputDirectory)
  else if name = "library" then some (value .library)
  else if name = "clean" then some (flag .clean)
  else if name = "dry-run" then some (flag .dryRun)
  else if name = "verbose" then some (flag .verbose)
  else if name = "help" then some help
  else none

/-- The option with a short name. -/
def ofShort? (c : Char) : Option OptionName :=
  if c = 'c' then some (value .settings)
  else if c = 'o' then some (value .outputDirectory)
  else if c = 'v' then some (flag .verbose)
  else if c = 'h' then some help
  else none

end OptionName

namespace Arguments

/-- Give an option a value. -/
def setValue (a : Arguments) (o : ValueOption) (v : String) : Except ArgumentFault Arguments :=
  match o with
  | .contract => .ok { a with contracts := a.contracts ++ [v] }
  | .settings =>
    if a.settings?.isSome then .error .repeated else .ok { a with settings? := some v }
  | .outputDirectory =>
    if a.outputDirectory?.isSome then .error .repeated
    else .ok { a with outputDirectory? := some v }
  | .library =>
    if a.library?.isSome then .error .repeated else .ok { a with library? := some v }

/-- Set a flag. -/
def setFlag (a : Arguments) (f : Flag) : Except ArgumentFault Arguments :=
  match f with
  | .clean => if a.clean then .error .repeated else .ok { a with clean := true }
  | .dryRun => if a.dryRun then .error .repeated else .ok { a with dryRun := true }
  | .verbose => if a.verbose then .error .repeated else .ok { a with verbose := true }

end Arguments

/-- The arguments taken so far, and the option that is not settled. -/
structure ArgumentReading where
  arguments : Arguments := {}
  /-- An option behind which a value may stand, and the value once it has come. -/
  pending : Option (ValueOption × Option String) := none
  /-- Whether two hyphens have ended the options. -/
  closed : Bool := false

namespace ArgumentReading

/-- Settle the option that is not settled. -/
def settle (r : ArgumentReading) : Except ArgumentFault Arguments :=
  match r.pending with
  | none => .ok r.arguments
  | some (o, none) => .error (.missingValue o)
  | some (o, some v) => r.arguments.setValue o v

/-- Take an option, with the value attached to it if there is one. -/
def takeNamed (r : ArgumentReading) (n : OptionName) (attached? : Option String) :
    Except ArgumentFault ArgumentReading :=
  match n, attached? with
  | .value o, some v => do return { arguments := ← (← r.settle).setValue o v }
  | .value o, none => do return { arguments := ← r.settle, pending := some (o, none) }
  | .flag _, some _ => .error .unexpectedValue
  | .flag f, none => do return { arguments := ← (← r.settle).setFlag f }
  | .help, some _ => .error .unexpectedValue
  | .help, none => do
    let _ ← r.settle
    throw .helpRequested

/-- Take an argument behind two hyphens: a name, and a value behind an equals sign. -/
def takeLong (r : ArgumentReading) (body : List Char) : Except ArgumentFault ArgumentReading :=
  let name := String.ofList (body.takeWhile (· != '='))
  let attached? := match body.dropWhile (· != '=') with
    | _ :: v => some (String.ofList v)
    | [] => none
  match OptionName.ofLong? name with
  | some n => r.takeNamed n attached?
  | none => .error (.unknown ("--" ++ name))

/-- Take short names that stand together. What follows an option with a value is its value, which
an equals sign may precede. -/
def takeShort (r : ArgumentReading) : List Char → Except ArgumentFault ArgumentReading
  | [] => .ok r
  | c :: rest =>
    match OptionName.ofShort? c with
    | none => .error (.unknown ("-" ++ String.singleton c))
    | some (.value o) =>
      let attached? := match rest with
        | [] => none
        | '=' :: v => some (String.ofList v)
        | v => some (String.ofList v)
      r.takeNamed (.value o) attached?
    | some n => do (← r.takeNamed n none).takeShort rest

/-- Take an argument that is no option: the value of an option that waits for one. -/
def takeValue (r : ArgumentReading) (s : String) : Except ArgumentFault ArgumentReading :=
  match r.pending with
  | some (o, none) => .ok { r with pending := some (o, some s) }
  | _ => .error (.unknown s)

/-- Take one argument. -/
def step (r : ArgumentReading) (s : String) : Except ArgumentFault ArgumentReading :=
  if r.closed then .error (.unknown s)
  else
    match s.toList with
    | ['-', '-'] => .ok { r with closed := true }
    | '-' :: '-' :: body => r.takeLong body
    | '-' :: c :: rest => r.takeShort (c :: rest)
    | _ => r.takeValue s

end ArgumentReading

/-- What a list of arguments says. -/
def Arguments.parse (args : List String) : Except ArgumentFault Arguments := do
  (← args.foldlM ArgumentReading.step {}).settle

end AbiBindings
