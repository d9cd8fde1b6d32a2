import AbiBindings.Command.Codegen

/-!
# The program

The program has one command, `codegen`. It ends with code 0 when the command succeeds, 1 when it
fails, and 2 when the arguments are refused.
-/

namespace AbiBindings

variable {m : Type → Type} [Monad m] [Access m]

/-- The name of the program. -/
def programName : String :=
  "abi-bindgen"

/-- The version of the program. -/
def programVersion : String :=
  "0.1.0"

/-- How the program is called. -/
def usage : String :=
  "Usage: " ++ programName ++ " codegen [OPTIONS]\n\n"
    ++ "  -c, --config <FILE>      TOML file listing the contracts to bind\n"
    ++ "      --abi <NAME=PATH>    Contract name and interface file, repeatable\n"
    ++ "  -o, --output-dir <PATH>  Output directory for generated files\n"
    ++ "      --library <MODULE>   Module the generated code imports the library from\n"
    ++ "      --clean              Remove previously generated files first\n"
    ++ "      --dry-run            Preview generated code without writing files\n"
    ++ "  -v, --verbose            Enable verbose output\n"
    ++ "  -h, --help               Print help\n"
    ++ "  -V, --version            Print version\n"

/-- How the program ends. -/
inductive Exit where
  | success
  /-- Help or the version was asked for. -/
  | shown (text : String)
  | failure (e : Error)
  | refused

namespace Exit

/-- The code that the program ends with. -/
def code : Exit → UInt8
  | success => 0
  | shown _ => 0
  | failure _ => 1
  | refused => 2

/-- What the program says when it does not succeed: the error, and below it the cause where that
is a fault of the file system; how it is called where the arguments are refused. -/
def errorText : Exit → String
  | failure e =>
    "Error: " ++ e.message ++ "\n" ++
      (match e with
      | .io fault => "\nCaused by:\n    " ++ fault.message ++ "\n"
      | _ => "")
  | refused => usage
  | success => ""
  | shown _ => ""

end Exit

/-- The text that arguments without a command ask for, if they ask for one. -/
def shownFor? (args : List String) : Option String :=
  let version := programName ++ " " ++ programVersion ++ "\n"
  match args with
  | ["help"] => some usage
  | ["help", command] => if command = "codegen" ∨ command = "help" then some usage else none
  | first :: _ =>
    if first = "--version" then some version
    else if first = "--help" then some usage
    else
      match first.toList with
      | '-' :: 'V' :: _ => some version
      | '-' :: 'h' :: _ => some usage
      | _ => none
  | [] => none

/-- Print a text that was asked for. -/
def showText (text : String) : m Exit := do
  Access.print text
  return .shown text

/-- Run the program. -/
def runProgram (args : List String) : m Exit := do
  match args with
  | "codegen" :: rest =>
    match Arguments.parse rest with
    | .error .helpRequested => showText usage
    | .error _ => return .refused
    | .ok a =>
      match ← (a.run : ExceptT Error m (List String)).run with
      | .ok _ => return .success
      | .error e => return .failure e
  | _ =>
    match shownFor? args with
    | some text => showText text
    | none => return .refused

end AbiBindings
