import HostAccess.Pam.Command
import HostAccess.ProgramCheck
import HostAccess.Proofs.Client
import HostAccess.Proofs.Transaction
import HostAccess.Proofs.Utf8

/-!
# The command and the check in this process

The command asks the stack for what a check in this process asks it for, and its exit status is what
such a check comes to, as far as eight bits can tell. If the codes of the stack have no more than eight
bits, then a check that is left to the command comes to the same code, and a failed start comes to a
code that is not the one for success.
-/
namespace HostAccess

/-- What a program that can be started ends with is the verdict. -/
theorem ProgramCheck.checker_of_ran {ν : Type} {launch : Launcher ν} {program : Path}
    {user service : String} {w : World ν} {ran : ProgramRun} (nameable : Bytes.hasNul program = false)
    (plainUser : '\x00' ∉ user.toList) (plainService : '\x00' ∉ service.toList)
    (launched : (launch program [Utf8.encode user, Utf8.encode service] w).1 = .ok ran) :
    (checker launch program user service w).1 = verdict ran.ending := by
  have nul (text : String) (plain : '\x00' ∉ text.toList) : Bytes.hasNul (Utf8.encode text) = false := by
    rwa [← Bool.not_eq_true, Utf8.hasNul_encode]
  have sendable : (Bytes.hasNul program ||
      [Utf8.encode user, Utf8.encode service].any Bytes.hasNul) = false := by
    simp [nameable, nul user plainUser, nul service plainService]
  simp only [checker, sendable, Bool.false_eq_true, if_false]
  generalize launch program [Utf8.encode user, Utf8.encode service] w = outcome at launched ⊢
  obtain ⟨ended, after⟩ := outcome
  obtain rfl : ended = .ok ran := launched
  rfl

namespace Pam

/-- A stack whose codes fit into an exit status. -/
structure Stack.IsNarrow (stack : Stack) : Prop where
  start : ∀ service user,
    0 ≤ (stack.startCode service user).toInt ∧ (stack.startCode service user).toInt ≤ 255
  account : ∀ handle, 0 ≤ (stack.accountCode handle).toInt ∧ (stack.accountCode handle).toInt ≤ 255

/-- What becomes of a transaction, as a code: what the account phase says, or a start that fails, or a
system error if there is no handle. -/
def Stack.finalCode (stack : Stack) (service user : String) : Int32 :=
  if stack.startCode service user = 0 then
    match stack.handle? service user with
    | some handle => stack.accountCode handle
    | none => Result.systemError.code
  else stack.startCode service user

theorem Stack.IsNarrow.finalCode {stack : Stack} (narrow : stack.IsNarrow) (service user : String) :
    0 ≤ (stack.finalCode service user).toInt ∧ (stack.finalCode service user).toInt ≤ 255 := by
  have missing : 0 ≤ Result.systemError.code.toInt ∧ Result.systemError.code.toInt ≤ 255 := by decide
  unfold Stack.finalCode
  split
  · cases stack.handle? service user with
    | some handle => exact narrow.account handle
    | none => exact missing
  · exact narrow.start service user

/-- No failure is taken for a success. -/
theorem Stack.finalCode_eq_zero_iff (stack : Stack) (service user : String) :
    stack.finalCode service user = 0 ↔ stack.startCode service user = 0 ∧
      ∃ handle, stack.handle? service user = some handle ∧ stack.accountCode handle = 0 := by
  unfold Stack.finalCode
  by_cases succeeded : stack.startCode service user = 0
  · rw [if_pos succeeded]
    cases stack.handle? service user with
    | some handle => simp [succeeded]
    | none => simp [Result.code]
  · simp [succeeded]

namespace Command

variable {ν : Type}

/-! ## How the command exits -/

/-- The code that tells how a transaction came out. -/
def exitCodeOf : Except CheckFailure Int32 → Int32
  | .ok code => code
  | .error (.notStarted result) => result.code
  | .error _ => Result.systemError.code

theorem subject_eq (args : List String) :
    subject args = (args.headD "dummy", args.tail.headD "pam_hbac_test") := by
  cases args with
  | nil => rfl
  | cons user rest => cases rest <;> rfl

theorem exitCodeOf_transact (stack : Stack) {user service : String} (plainUser : '\x00' ∉ user.toList)
    (plainService : '\x00' ∉ service.toList) :
    exitCodeOf (transact stack user service).1 = stack.finalCode service user := by
  by_cases succeeded : stack.startCode service user = 0
  · cases given : stack.handle? service user with
    | none =>
      rw [transact_of_handleless stack plainUser plainService succeeded given]
      simp only [exitCodeOf, Stack.finalCode, succeeded, given, if_true]
    | some handle =>
      rw [transact_of_given stack plainUser plainService succeeded given]
      simp only [exitCodeOf, Stack.finalCode, succeeded, given, if_true]
  · rw [transact_of_failed stack plainUser plainService succeeded]
    simp only [exitCodeOf, Result.code_ofCode, Stack.finalCode, if_neg succeeded]

theorem run_asks (stack : Stack) (threshold : Threshold) {args : List String} {user service : String}
    (named : subject args = (user, service)) :
    (run stack threshold args).events = (transact stack user service).2 ∧
      (run stack threshold args).exitCode = exitCodeOf (transact stack user service).1 := by
  simp only [run, named]
  generalize transact stack user service = transacted
  obtain ⟨answer, events⟩ := transacted
  cases answer with
  | ok code => exact ⟨rfl, rfl⟩
  | error failure => cases failure <;> exact ⟨rfl, rfl⟩

theorem status_eq (r : Run) : (r.status : Int) = r.exitCode.toInt % 256 := by
  unfold Run.status
  omega

/-- A code that fits into an exit status is found again in it. -/
theorem ofNat_status {r : Run} (narrow : 0 ≤ r.exitCode.toInt ∧ r.exitCode.toInt ≤ 255) :
    Int32.ofNat r.status = r.exitCode := by
  have same : (r.status : Int) = r.exitCode.toInt := by
    rw [status_eq]
    omega
  rw [← Int32.ofInt_eq_ofNat, same, Int32.ofInt_toInt]

/-! ## The command as a program -/

/-- What a caller sees of a run of the command. -/
def ended (r : Run) : ProgramRun := ⟨Utf8.encode r.stdout, .exited r.status⟩

/-- A launcher for which the command is the program at a path. What it does to the rest of the world is
left open. -/
structure IsAt (launch : Launcher ν) (program : Path) (stack : Stack) (threshold : Threshold) :
    Prop where
  nameable : Bytes.hasNul program = false
  runs : ∀ (args : List String) (w : World ν), (∀ arg ∈ args, '\x00' ∉ arg.toList) →
    (launch program (args.map Utf8.encode) w).1 = .ok (ended (run stack threshold args))

/-- A check that is left to the command comes to what becomes of the transaction. -/
theorem verdict_eq {stack : Stack} {threshold : Threshold} {launch : Launcher ν} {program : Path}
    {user service : String} (plainUser : '\x00' ∉ user.toList) (plainService : '\x00' ∉ service.toList)
    (at_ : IsAt launch program stack threshold) (narrow : stack.IsNarrow) (w : World ν) :
    (ProgramCheck.checker launch program user service w).1 =
      .code (stack.finalCode service user) := by
  have exit : (run stack threshold [user, service]).exitCode = stack.finalCode service user :=
    (run_asks stack threshold rfl).2.trans (exitCodeOf_transact stack plainUser plainService)
  have fits := narrow.finalCode service user
  rw [← exit] at fits ⊢
  have ran := at_.runs [user, service] w (by simp [plainUser, plainService])
  rw [ProgramCheck.checker_of_ran at_.nameable plainUser plainService ran]
  simp only [ended, ProgramCheck.verdict, ofNat_status fits]

theorem checker_code_iff {stack : Stack} {user service : String} {w : World ν} {code : Int32} :
    (checker stack user service w).1 = .code code ↔ (transact stack user service).1 = .ok code := by
  unfold checker
  cases (transact stack user service).1 <;> simp

theorem checker_failure_iff {stack : Stack} {user service : String} {w : World ν}
    {failure : CheckFailure} :
    (checker stack user service w).1 = .failure failure ↔
      (transact stack user service).1 = .error failure := by
  unfold checker
  cases (transact stack user service).1 <;> simp

theorem plain_headD {args : List String} {default : String}
    (plain : ∀ arg ∈ args, '\x00' ∉ arg.toList) (plainDefault : '\x00' ∉ default.toList) :
    '\x00' ∉ (args.headD default).toList := by
  cases args with
  | nil => exact plainDefault
  | cons arg rest => exact plain arg List.mem_cons_self

/-- **The command agrees with the check in this process.** For the user and the service that its
arguments name, it asks the stack for exactly what a transaction asks for, and its exit status is the
code of the account phase, or of a start that failed, or that of a system error if there was no handle,
each modulo 256. So for a stack whose codes fit into an exit status, a check that is left to the
command comes to the same code as a check in this process, or to the code of the failure if that one
cannot say; and it comes to success only if a handle was given and the account phase granted access. -/
theorem command_agrees (stack : Stack) (threshold : Threshold) :
    (∀ (args : List String) (user service : String), (∀ arg ∈ args, '\x00' ∉ arg.toList) →
      user = args.headD "dummy" → service = args.tail.headD "pam_hbac_test" →
      (run stack threshold args).events = (transact stack user service).2 ∧
      (∀ code, (transact stack user service).1 = .ok code →
        ((run stack threshold args).status : Int) = code.toInt % 256) ∧
      (stack.startCode service user ≠ 0 →
        ((run stack threshold args).status : Int) = (stack.startCode service user).toInt % 256) ∧
      (stack.startCode service user = 0 → stack.handle? service user = none →
        (run stack threshold args).status = 4)) ∧
    (stack.IsNarrow → ∀ (launch : Launcher ν) (program : Path), IsAt launch program stack threshold →
      ∀ user service : String, '\x00' ∉ user.toList → '\x00' ∉ service.toList → ∀ w v : World ν,
        (∀ code, (checker stack user service v).1 = .code code →
          (ProgramCheck.checker launch program user service w).1 = .code code) ∧
        (∀ result, (checker stack user service v).1 = .failure (.notStarted result) →
          (ProgramCheck.checker launch program user service w).1 = .code result.code) ∧
        ((ProgramCheck.checker launch program user service w).1 = .code 0 ↔
          stack.startCode service user = 0 ∧
            ∃ handle, stack.handle? service user = some handle ∧ stack.accountCode handle = 0)) := by
  constructor
  · rintro args user service plain rfl rfl
    have plainUser : '\x00' ∉ (args.headD "dummy").toList := plain_headD plain (by decide)
    have plainService : '\x00' ∉ (args.tail.headD "pam_hbac_test").toList :=
      plain_headD (fun arg h => plain arg (List.mem_of_mem_tail h)) (by decide)
    obtain ⟨events, exit⟩ := run_asks stack threshold (subject_eq args)
    rw [status_eq, exit]
    refine ⟨events, fun code answer => by rw [answer]; rfl, ?_⟩
    have status := status_eq (run stack threshold args)
    rw [exit] at status
    rw [exitCodeOf_transact stack plainUser plainService] at status ⊢
    unfold Stack.finalCode at status ⊢
    refine ⟨fun failed => by rw [if_neg failed], fun succeeded missing => ?_⟩
    simp only [succeeded, missing, if_true] at status
    exact Int.ofNat_inj.mp status
  · intro narrow launch program at_ user service plainUser plainService w v
    have code := exitCodeOf_transact stack plainUser plainService
    rw [verdict_eq plainUser plainService at_ narrow, ← code]
    refine ⟨fun said answer => ?_, fun result answer => ?_, ?_⟩
    · rw [checker_code_iff.mp answer]
      rfl
    · rw [checker_failure_iff.mp answer]
      rfl
    · rw [code]
      simpa using stack.finalCode_eq_zero_iff service user

/-! ## A launcher -/

/-- A launcher for which every path is that of the command. Arguments that are no texts end it in a
panic. -/
def launcher (stack : Stack) (threshold : Threshold) : Launcher ν := fun _ args w =>
  match args.mapM Utf8.decode? with
  | some args => (.ok (ended (run stack threshold args)), w)
  | none => (.ok ⟨[], .exited 101⟩, w)

theorem mapM_encode (args : List String) : (args.map Utf8.encode).mapM Utf8.decode? = some args := by
  induction args with
  | nil => rfl
  | cons arg rest ih => simp [Utf8.decode?_encode, ih]

theorem isAt_launcher (stack : Stack) (threshold : Threshold) {program : Path}
    (nameable : Bytes.hasNul program = false) :
    IsAt (launcher (ν := ν) stack threshold) program stack threshold := by
  refine ⟨nameable, fun args w _ => ?_⟩
  simp only [launcher, mapM_encode]

/-- A stack that gives a handle and denies access. -/
def denying : Stack where
  start := fun _ _ => .answer (0, some 1)
  account := fun _ _ => .answer Result.permissionDenied.code
  finish := fun _ _ => .answer Result.success.code

theorem command_agrees_denied :
    ((run denying none ["alice", "login", "further"]).status : Int) = 6 ∧
      denying.IsNarrow ∧ IsAt (launcher (ν := Unit) denying none) [0x2F, 0x70] denying none ∧
      (checker denying "alice" "login" (World.blank ())).1 = .code 6 ∧
      (ProgramCheck.checker (launcher denying none) [0x2F, 0x70] "alice" "login" (World.blank ())).1 =
        .code 6 := by
  have none_fits : 0 ≤ (0 : Int32).toInt ∧ (0 : Int32).toInt ≤ 255 := by decide
  have six_fits : 0 ≤ (6 : Int32).toInt ∧ (6 : Int32).toInt ≤ 255 := by decide
  have narrow : denying.IsNarrow := ⟨fun _ _ => none_fits, fun _ => six_fits⟩
  have at_ : IsAt (launcher (ν := Unit) denying none) [0x2F, 0x70] denying none :=
    isAt_launcher (ν := Unit) denying none (by decide)
  have denied : (transact denying "alice" "login").1 = .ok 6 :=
    congrArg Prod.fst (transact_of_given denying (by decide) (by decide) rfl rfl)
  obtain ⟨exits, agrees⟩ := command_agrees (ν := Unit) denying none
  have checked := (checker_code_iff (w := World.blank ())).mpr denied
  refine ⟨?_, narrow, at_, checked, ?_⟩
  · exact (exits ["alice", "login", "further"] "alice" "login" (by decide) rfl rfl).2.1 6 denied
  · exact (agrees narrow _ _ at_ "alice" "login" (by decide) (by decide) (World.blank ())
      (World.blank ())).1 6 checked

end Command

end Pam

end HostAccess
