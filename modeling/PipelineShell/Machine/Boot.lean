/-
# Machine.Boot -- a machine at its start

A machine starts with the usual directories, its programs, and nothing running
but the shell.
-/
import PipelineShell.Machine.Host
import PipelineShell.Machine.Utility

namespace PipelineShell.Machine

set_option autoImplicit false

/-- The place of a path that is written with slashes between names. -/
def placeOf (path : String) : Place := (Path.ofString path).names

def usualDirectories : List String :=
  ["/usr/bin", "/usr/sbin", "/usr/lib", "/usr/lib64", "/usr/libexec", "/usr/include", "/usr/src",
    "/usr/games", "/usr/share", "/usr/share/doc", "/usr/share/man", "/usr/local/bin",
    "/usr/local/sbin", "/usr/local/lib", "/usr/local/share", "/usr/local/etc",
    "/usr/local/include", "/usr/local/src", "/usr/local/games", "/etc", "/etc/default",
    "/dev/shm", "/dev/pts", "/tmp", "/root", "/home", "/boot", "/media", "/mnt", "/opt", "/srv",
    "/run/lock", "/proc/self/fd", "/sys", "/var/backups", "/var/cache", "/var/lib", "/var/local",
    "/var/log", "/var/mail", "/var/opt", "/var/spool", "/var/tmp"]

def usualLinks : List (String × String) :=
  [("/bin", "usr/bin"), ("/sbin", "usr/sbin"), ("/lib", "usr/lib"), ("/lib64", "usr/lib64"),
    ("/usr/bin/sh", "dash"), ("/var/run", "/run"), ("/var/lock", "/run/lock"),
    ("/dev/fd", "/proc/self/fd"), ("/dev/stdin", "/proc/self/fd/0"),
    ("/dev/stdout", "/proc/self/fd/1"), ("/dev/stderr", "/proc/self/fd/2"),
    ("/usr/local/man", "share/man")]

def descriptorFiles : List (Place × Node) :=
  (List.range 20).map fun n => (placeOf "/proc/self/fd" ++ [Ascii.decimal n], .descriptor n)

/-- The number of the shell's process. -/
def firstPid : Nat := 4000

def ownProgram : Place := placeOf "/proc" ++ [Ascii.decimal firstPid, ascii "exe"]

/-- The programs and devices, and the files that programs look into. -/
def usualFiles : List (Place × Node) :=
  Utility.names.map (fun name => (placeOf "/usr/bin" ++ [ascii name], .program name)) ++
    usualLinks.map (fun entry => (placeOf entry.1, .link (Path.ofString entry.2))) ++
    descriptorFiles ++
    [(ownProgram, .program Utility.ownName), (placeOf "/dev/null", .null),
      (placeOf "/dev/full", .full), (placeOf "/dev/zero", .zero),
      (placeOf "/etc/passwd", .file (ascii "root:x:0:0:root:/root:/bin/bash\n") 0o644 0),
      (placeOf "/etc/group", .file (ascii "root:x:0:\n") 0o644 0),
      (placeOf "/etc/hostname", .file (ascii "localhost\n") 0o644 0)]

def usualTree : Tree :=
  usualFiles.foldl (fun tree entry => tree.put entry.1 entry.2)
    ((usualDirectories.map placeOf ++ [ownProgram.dropLast]).foldl Tree.makeDirectories ⟨[]⟩)

def superuser : Account := ⟨"root", "root", some (Path.ofString "/root")⟩

/-- A machine on which nothing has happened yet, and whose standard input is empty. -/
def boot (environment : Environment) : Machine where
  tree := usualTree
  library := Utility.program
  directory := []
  environment := environment
  account := superuser
  opened := #[⟨.null, 0, true, true, false⟩]
  pipes := #[]
  nameless := #[]
  couriers := []
  sinks := []
  buffers := []
  console := ⟨0, [], [], false, [], []⟩
  processes := []
  shell := firstPid
  lastPid := firstPid
  clock := 0
  steps := 0
  turn := 0

/-- Makes a file with some content the standard input of the shell. -/
def withInput (machine : Machine) (content : Bytes) : Machine :=
  let (input, machine) := machine.addFile content
  { machine with console := { machine.console with input, readAhead := [] } }

/-- Makes standard input empty again. -/
def withoutInput (machine : Machine) : Machine :=
  { machine with console := { machine.console with input := 0, readAhead := [] } }

/-- Nothing more can be written to standard output. -/
def withFullOutput (machine : Machine) : Machine :=
  { machine with console := { machine.console with full := true } }

/-- Everything written to the machine's standard output. -/
def printed (machine : Machine) : Bytes := machine.console.output.reverse.flatten

/-- Everything written to the machine's standard error. -/
def complained (machine : Machine) : Bytes := machine.console.error.reverse.flatten

/-- What the shell kept back is passed on when it ends. -/
def shutDown (machine : Machine) : Machine := machine.flushConsole.2

end PipelineShell.Machine
