import HostAccess.ProgramCheck
import HostAccess.Shell.Run

/-!
# Starting programs

A program is found by its path, or by its name in the folders of a search path. It has to be a file
that can be executed and that names its interpreter in its first line. The interpreter that is known
here is the shell.
-/
namespace HostAccess.Shell

def shells : List Path := ["/bin/sh", "/usr/bin/sh"].map Utf8.encode

def searchPath : Bytes := Utf8.encode "PATH"

def program (files : FileTree) (path : Path) : Except SystemError Bytes := do
  match files.entryAt? (← files.locate path) with
  | some (.file contents ⟨true, _⟩) => .ok contents
  | some _ => .error (.errno Errno.accessDenied)
  | none => .error (.errno Errno.noEntry)

/-- Looks a program up in folders. That a folder or the program is not there counts less than any
other reason why the program cannot be started. -/
def search (files : FileTree) (name : Bytes) :
    SystemError → List Bytes → Except SystemError (Path × Bytes)
  | cause, [] => .error cause
  | cause, folder :: rest =>
    let path := Path.join folder name
    match program files path with
    | .ok contents => .ok (path, contents)
    | .error (.errno n) =>
      if n = Errno.noEntry ∨ n = Errno.notFolder then search files name cause rest
      else if n = Errno.accessDenied then search files name (.errno n) rest
      else .error (.errno n)
    | .error other => .error other

def find (files : FileTree) (environment : Environment) (p : Path) :
    Except SystemError (Path × Bytes) :=
  if p.contains Path.slash || p.isEmpty then (program files p).map fun contents => (p, contents)
  else
    search files p (.errno Errno.noEntry)
      (Pieces.split 0x3A ((environment.get? searchPath).getD []))

/-- The interpreter that the first line of a program names. -/
def interpreter? (contents : Bytes) : Option Path :=
  match contents with
  | 0x23 :: 0x21 :: rest =>
    let line := (rest.takeWhile (· != 0x0A)).dropWhile fun b => b == 0x20 || b == 0x09
    some (line.takeWhile fun b => b != 0x20 && b != 0x09)
  | _ => none

def ending : Flow → ProgramEnd
  | .exit code => .exited code
  | .kill signal => .killed signal
  | .next | .leave | .again => .exited 0

/-- Runs a script with arguments. Its input is empty; its variables are its own, its changes to
files are not. -/
def interpret {ν : Type} (path : Path) (contents : Bytes) (args : List Bytes) (w : World ν) :
    ProgramRun × World ν :=
  let machine : Machine := {
    files := w.files
    environment := w.environment
    name := ofBytes path
    args := args.map ofBytes
    input := []
    output := []
    status := 0 }
  let (flow, machine) := runScript (ofBytes contents) machine
  (⟨toBytes machine.output, ending flow⟩, { w with files := machine.files })

def launch {ν : Type} : Launcher ν := fun path args w =>
  match find w.files w.environment path with
  | .error cause => (.error cause, w)
  | .ok (path, contents) =>
    match interpreter? contents with
    | none => (.error (.errno Errno.notExecutable), w)
    | some shell =>
      if shells.contains shell then
        let (run, w) := interpret path contents args w
        (.ok run, w)
      else
        match program w.files shell with
        | .error cause => (.error cause, w)
        | .ok _ => (.error (.errno Errno.notExecutable), w)

end HostAccess.Shell
