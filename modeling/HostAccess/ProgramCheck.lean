import HostAccess.Harness

/-!
# The account check by a program

A check can be left to a program of its own: it is given the user and the service, finds the rest in
its surroundings, and its exit code is the result code. A program that is killed gives no code.
-/
namespace HostAccess

inductive ProgramEnd where
  | exited (code : Nat)
  | killed (signal : Nat)
  deriving DecidableEq, Repr

structure ProgramRun where
  output : Bytes
  ending : ProgramEnd
  deriving DecidableEq, Repr

abbrev Launcher (ν : Type) :=
  Path → List Bytes → World ν → Except SystemError ProgramRun × World ν

namespace ProgramCheck

variable {ν : Type}

def record (program : Path) (user service : String) (output : Bytes) : Record :=
  ⟨Component.pam.target, .debug,
    program.display ++ " " ++ user ++ " " ++ service ++ ": " ++
      String.ofList (Text.trimEnd (Utf8.lossy output).toList)⟩

/-- The verdict that the end of a program is. -/
def verdict : ProgramEnd → Verdict
  | .exited code => .code (Int32.ofNat code)
  | .killed signal => .failure (.terminated ("killed by signal " ++ toString signal))

/-- The checker that runs a program. What holds a NUL cannot be told to a program. -/
def checker (launch : Launcher ν) (program : Path) : Checker ν := fun user service w =>
  let args := [Utf8.encode user, Utf8.encode service]
  if Bytes.hasNul program || args.any Bytes.hasNul then
    (.failure (.system .nulInArgument), w)
  else
    match launch program args w with
    | (.error cause, w) => (.failure (.system cause), w)
    | (.ok run, w) =>
      (verdict run.ending,
        { w with journal := w.journal ++ [record program user service run.output] })

end ProgramCheck

end HostAccess
