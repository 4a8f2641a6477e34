/-
# CommandLine -- the shell as a program

The program reads its own options, and then runs one line (`-c`) or the lines of
its standard input.  Its status is the code that `exit` asked for, or else the
status of the line; input that simply ends leaves status 0.
-/
import PipelineShell.Arguments
import PipelineShell.Interpreter

namespace PipelineShell.CommandLine

set_option autoImplicit false

variable {W : Type} [Host W] [ArgumentReader]

/-! ## Options -/

/-- The options of the program, which is called `name`. -/
def grammar (name : String) : Arguments.Grammar where
  flags :=
    [⟨"command", ["-c", "--command"], true⟩, ⟨"log-level", ["--log-level"], true⟩,
      ⟨"allow-exit", ["--allow-exit"], false⟩]
  operands := 0
  usage :=
    "Usage: " ++ name ++ " [-c <command>] [--log-level <log-level>] [--allow-exit]\n\n" ++
    "A small interactive shell with pipelines and a handful of builtins.\n\nOptions:\n" ++
    "  -c, --command     run a single line and exit with its status\n" ++
    "  --log-level       log level used when RUST_LOG is not set\n" ++
    "  --allow-exit      enable the `exit` builtin\n" ++
    "  --help, help      display usage information\n"

structure Options where
  /-- The one line to run. -/
  command : Option String
  /-- The builtin `exit` is known. -/
  allowExit : Bool
  deriving DecidableEq, Repr

def optionsOf (reading : Arguments.Reading) : Options :=
  ⟨reading.values.lookup "command", reading.switches.contains "allow-exit"⟩

/-! ## The session at the start -/

/-- The session that a process begins with: all of its environment, its directory
or else a dot, and its user and group. -/
def initialSession (world : W) : Session where
  bindings := Host.environment world
  directory :=
    match Host.currentDirectory world with
    | .ok directory => directory
    | .error _ => Path.ofString "."
  user := (Host.account world).user
  group := (Host.account world).group
  exitCode := none

def registryOf (options : Options) : Registry :=
  if options.allowExit then Registry.withBuiltins.register .exit else Registry.withBuiltins

/-! ## Running -/

/-- The report of input that cannot be read. -/
def terminalError (fault : IoError) : String :=
  "Error: terminal error\n\nCaused by:\n    0: " ++ fault.message ++ "\n    1: " ++ fault.message

def panicStatus : ExitCode := 101

/-- Runs the program with its options; answers the status it ends with. -/
def runWith [LineEditor W] (options : Options) : StateM (Context W) ExitCode := do
  let registry := registryOf options
  match options.command with
  | some line =>
    match ← Interpreter.evaluateAndPrint registry line with
    | .ok status => pure ((← Context.ask (·.exitCode)).getD status)
    | .error _ => pure panicStatus
  | none =>
    match ← Interpreter.repl registry with
    | .ok (.ok code) => pure (code.getD 0)
    | .ok (.error fault) =>
      -- This last report may get lost: nothing comes after it.
      let _ ← Context.act (Output.writeLine .standardError (terminalError fault))
      pure 1
    | .error _ => pure panicStatus

def answer (name : String) (early : EarlyExit) : StateM W ExitCode := do
  if early.success then
    match ← Output.writeLine .standardOutput early.output with
    | (_, .ok ()) =>
      let _ ← Host.flush .standardOutput
      pure 0
    | (_, .error _) => pure panicStatus
  else
    match ← Output.writeLine .standardError
      (early.output ++ "\nRun " ++ name ++ " --help for more information.") with
    | (_, .ok ()) => pure 1
    | (_, .error _) => pure panicStatus

/-- The exit status that the system keeps of a code: its low eight bits. -/
def statusByte (code : ExitCode) : Nat := (code % 256).toNat

/-- Runs the program called `name` on its words; answers its exit status. -/
def run [LineEditor W] (name : String) (words : List String) : StateM W Nat := do
  match ArgumentReader.read (grammar name) words with
  | .error early => statusByte <$> answer name early
  | .ok reading =>
    let world ← get
    let (code, context) := runWith (optionsOf reading) ⟨initialSession world, world, []⟩
    set context.world
    pure (statusByte code)

/-- Runs the program on words that need not be text; the first that is not is
reported. -/
def runBytes [LineEditor W] (name : String) (words : List Bytes) : StateM W Nat := do
  match words.find? fun word => (Utf8.decode? word).isNone with
  | some word =>
    match ← Output.writeLine .standardError ("Invalid utf8: " ++ Utf8.decodeLossy word) with
    | (_, .ok ()) => pure 1
    | (_, .error _) => pure (statusByte panicStatus)
  | none => run name (words.map Utf8.decodeLossy)

end PipelineShell.CommandLine
