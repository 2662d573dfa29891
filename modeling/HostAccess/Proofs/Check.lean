import HostAccess.Harness
import HostAccess.Proofs.Guards
import HostAccess.Proofs.Utf8

/-!
# How a check runs

A check ends in one of five ways: the name of the service is refused, the host cannot be a value of
the variable, the configuration or the description of the service cannot be written, or the checker
is asked. `Checks` says for each of them when it happens, how the check ends, and what world it
leaves; what else is known of checks is read off it.

A checker is a function and cannot be watched, so questions are counted by a checker that records
them. `check_checks` says that a check with that checker differs from the check itself in the record
alone.
-/
namespace HostAccess

variable {ν : Type}

/-! ## Recording what a checker is asked -/

/-- A question to a checker: the world in which it was asked, its answer, and the world it left. -/
structure Call (ν : Type) where
  user : String
  service : String
  found : World ν
  verdict : Verdict
  left : World ν

def World.recording (w : World ν) (calls : List (Call ν)) : World (ν × List (Call ν)) where
  files := w.files
  environment := w.environment
  journal := w.journal
  wire := w.wire
  credential := w.credential
  outside := (w.outside, calls)

def World.unrecorded (w : World (ν × List (Call ν))) : World ν where
  files := w.files
  environment := w.environment
  journal := w.journal
  wire := w.wire
  credential := w.credential
  outside := w.outside.1

/-- A checker that does the same and records every question. -/
def Checker.recorded (checker : Checker ν) : Checker (ν × List (Call ν)) :=
  fun user service w =>
    let (verdict, left) := checker user service w.unrecorded
    (verdict, left.recording (w.outside.2 ++ [⟨user, service, w.unrecorded, verdict, left⟩]))

/-- The recording checker answers as the other does and adds the question to the record. -/
theorem Checker.recorded_of_answer (checker : Checker ν) {user service : String} {w left : World ν}
    {verdict : Verdict} {log : List (Call ν)} (answer : checker user service w = (verdict, left)) :
    checker.recorded user service (w.recording log) =
      (verdict, left.recording (log ++ [⟨user, service, w, verdict, left⟩])) := by
  have hw : (w.recording log).unrecorded = w := rfl
  unfold recorded
  rw [hw, answer]
  rfl

def Verdict.answered : Verdict → Ending (Except CheckFailure Int32)
  | .code c => .done (.ok c)
  | .failure cause => .done (.error cause)
  | .panic text => .panicked (.stated text)

theorem Checker.ask_of_answer (checker : Checker ν) {user service : String} {w left : World ν}
    {verdict : Verdict} (answer : checker user service w = (verdict, left)) :
    checker.ask user service w = (verdict.answered, left) := by
  unfold ask
  rw [answer]
  cases verdict <;> rfl

namespace Harness

/-- The same harness with a checker that records every question. -/
def recorded (h : Harness ν) : Harness (ν × List (Call ν)) where
  serviceDir := h.serviceDir
  modulePath := h.modulePath
  configPath := h.configPath
  directory := h.directory
  server := h.server
  defaultHost := h.defaultHost
  checker := h.checker.recorded

/-! ## What is put in place, and what is taken away -/

def hostVariable : Bytes := Utf8.encode Variable.hostName

def hostValue (h : Harness ν) (host : Option String) : Bytes := Utf8.encode (h.effectiveHost host)

/-- What is written to a file for a check. If that fails, it is told why, and what the tree is then. -/
def lay (path : Path) (text : String) (t : FileTree) : Except (Error × FileTree) FileTree :=
  (t.write path (Utf8.encode text)).mapError fun (cause, left) => (.io (some path) cause, left)

/-- The tree with the configuration in it, if the account module is configured by a file. -/
def layConfig (h : Harness ν) (host : Option String) (t : FileTree) :
    Except (Error × FileTree) FileTree :=
  match h.configPath with
  | some path => lay path (h.configText (h.effectiveHost host)) t
  | none => .ok t

def layService (h : Harness ν) (service : String) (t : FileTree) :
    Except (Error × FileTree) FileTree := lay (h.serviceFile service) h.serviceText t

def serviceGuard (h : Harness ν) (service : String) : Guard := ⟨h.serviceFile service, .pam⟩

@[simp] theorem serviceGuard_path (h : Harness ν) (service : String) :
    (h.serviceGuard service).path = h.serviceFile service := rfl

def configGuard? (h : Harness ν) : Option Guard := h.configPath.map fun path => ⟨path, .pam⟩

def clearConfig (h : Harness ν) (t : FileTree) : FileTree :=
  match h.configPath with
  | some path => t.discard path
  | none => t

def clear (h : Harness ν) (service : String) (t : FileTree) : FileTree :=
  h.clearConfig (t.discard (h.serviceFile service))

def configReleased (h : Harness ν) (t : FileTree) : Except Error Unit :=
  match h.configGuard? with
  | some guard => guard.released t
  | none => .ok ()

/-- What is written down of the removal of the configuration that nobody is told of. -/
def configComplaints (h : Harness ν) (t : FileTree) : Journal :=
  match h.configGuard? with
  | some guard => guard.complaints t
  | none => []

/-- How a check ends once the checker has answered. An answer that is no code counts first, then a
description of the service that could not be removed, then a configuration that could not be. -/
def conclusion (h : Harness ν) (service : String) (verdict : Verdict) (t : FileTree) :
    Ending Int32 :=
  match verdict with
  | .panic text => .panicked (.stated text)
  | .failure cause => .failed (.check cause)
  | .code c =>
    match (h.serviceGuard service).released t,
      h.configReleased (t.discard (h.serviceFile service)) with
    | .error e, _ => .failed e
    | .ok (), .error e => .failed e
    | .ok (), .ok () => .done c

/-- What is written down when a check ends after the checker has answered. -/
def closingRecords (h : Harness ν) (user service : String) (host : Option String)
    (verdict : Verdict) (t : FileTree) : Journal :=
  match verdict with
  | .panic _ =>
    (h.serviceGuard service).complaints t ++
      h.configComplaints (t.discard (h.serviceFile service))
  | .failure _ | .code _ =>
    match h.conclusion service verdict t with
    | .done c => [⟨Component.pam.target, .info,
        "account check for " ++ user ++ " on " ++ service ++ " from " ++ h.effectiveHost host ++
          ": " ++ toString c.toInt⟩]
    | .failed _ | .panicked _ => []

/-- The world that the checker finds: the variable is set and the files are written. -/
def found (h : Harness ν) (service : String) (host : Option String) (t : FileTree)
    (w : World ν) : World ν :=
  { w with
    files := t
    environment := w.environment.set hostVariable (h.hostValue host)
    journal := w.journal ++
      [⟨Component.pam.target, .debug, "wrote " ++ (h.serviceFile service).display⟩] }

/-- The world `v` with the variable of the host as it is in `w`, with other files and with further
records. -/
def putBack (w v : World ν) (t : FileTree) (records : Journal) : World ν :=
  { v with
    files := t
    environment := v.environment.restore hostVariable (w.environment.get? hostVariable)
    journal := v.journal ++ records }

def exported (h : Harness ν) (host : Option String) (w : World ν) : World ν :=
  { w with environment := w.environment.set hostVariable (h.hostValue host) }

/-- The ways that a check can go from a world: what the checker is asked, how the check ends, and the
world after it. -/
inductive Checks (h : Harness ν) (user service : String) (host : Option String) (w : World ν) :
    List (Call ν) → Ending Int32 → World ν → Prop where
  | misnamed (named : isServiceName service = false) :
    Checks h user service host w [] (.failed (.usage (.serviceName service))) w
  | unexportable (named : isServiceName service = true)
    (nul : Bytes.hasNul (h.hostValue host) = true) :
    Checks h user service host w [] (.panicked .unusableVariable) w
  | unconfigured {t : FileTree} {e : Error} (named : isServiceName service = true)
    (nul : Bytes.hasNul (h.hostValue host) = false)
    (config : h.layConfig host w.files = .error (e, t)) :
    Checks h user service host w [] (.failed e) (putBack w (h.exported host w) t [])
  | undescribed {t u : FileTree} {e : Error} (named : isServiceName service = true)
    (nul : Bytes.hasNul (h.hostValue host) = false)
    (config : h.layConfig host w.files = .ok t)
    (description : h.layService service t = .error (e, u)) :
    Checks h user service host w [] (.failed e)
      (putBack w (h.exported host w) (h.clearConfig u) (h.configComplaints u))
  | asked {t u : FileTree} {verdict : Verdict} {left : World ν}
    (named : isServiceName service = true) (nul : Bytes.hasNul (h.hostValue host) = false)
    (config : h.layConfig host w.files = .ok t) (description : h.layService service t = .ok u)
    (answer : h.checker user service (h.found service host u w) = (verdict, left)) :
    Checks h user service host w [⟨user, service, h.found service host u w, verdict, left⟩]
      (h.conclusion service verdict left.files)
      (putBack w left (h.clear service left.files)
        (h.closingRecords user service host verdict left.files))

/-! ## A check goes one of these ways -/

theorem accepts_hostValue (h : Harness ν) (host : Option String) :
    Environment.accepts hostVariable (h.hostValue host) = !Bytes.hasNul (h.hostValue host) := by
  have hname : Environment.isName hostVariable = true := by decide
  simp [Environment.accepts, hname]

theorem lay_eq_ok_iff {path : Path} {text : String} {t u : FileTree} :
    lay path text t = .ok u ↔ t.write path (Utf8.encode text) = .ok u := by
  unfold lay
  cases t.write path (Utf8.encode text) <;> simp

theorem lay_eq_error_iff {path : Path} {text : String} {t u : FileTree} {e : Error} :
    lay path text t = .error (e, u) ↔ ∃ cause,
      t.write path (Utf8.encode text) = .error (cause, u) ∧ Error.io (some path) cause = e := by
  unfold lay
  cases t.write path (Utf8.encode text) with
  | ok v => simp
  | error failure =>
    obtain ⟨cause, left⟩ := failure
    constructor
    · intro h
      obtain ⟨rfl, rfl⟩ := Prod.mk.inj (Except.error.inj h)
      exact ⟨cause, rfl, rfl⟩
    · rintro ⟨cause, h, rfl⟩
      obtain ⟨rfl, rfl⟩ := Prod.mk.inj (Except.error.inj h)
      rfl

/-- Nothing is run if the configuration cannot be written. -/
theorem underConfig_of_error {α : Type} {h : Harness ν} {host : Option String} {x : Act ν α}
    {w : World ν} {t : FileTree} {e : Error} (config : h.layConfig host w.files = .error (e, t)) :
    h.underConfig (h.effectiveHost host) x w = (.failed e, { w with files := t }) := by
  unfold layConfig at config
  unfold underConfig
  cases hp : h.configPath with
  | none =>
    rw [hp] at config
    cases config
  | some path =>
    rw [hp] at config
    obtain ⟨cause, hw, rfl⟩ := lay_eq_error_iff.mp config
    exact Guard.around_of_error hw

def closeConfig {α : Type} (h : Harness ν) (ending : Ending α) (w : World ν) :
    Ending (α × Except Error Unit) × World ν :=
  match h.configGuard? with
  | some guard => guard.close ending w
  | none =>
    match ending with
    | .done a => (.done (a, .ok ()), w)
    | .failed e => (.failed e, w)
    | .panicked p => (.panicked p, w)

theorem closeConfig_done {α : Type} (h : Harness ν) (a : α) (w : World ν) :
    h.closeConfig (.done a) w =
      (.done (a, h.configReleased w.files), { w with files := h.clearConfig w.files }) := by
  unfold closeConfig configReleased clearConfig configGuard?
  cases h.configPath with
  | none => rfl
  | some path => rfl

theorem closeConfig_failed {α : Type} (h : Harness ν) (e : Error) (w : World ν) :
    h.closeConfig (α := α) (.failed e) w = (.failed e, { w with
      files := h.clearConfig w.files
      journal := w.journal ++ h.configComplaints w.files }) := by
  unfold closeConfig configComplaints clearConfig configGuard?
  cases h.configPath with
  | none => simp
  | some path => rfl

theorem closeConfig_panicked {α : Type} (h : Harness ν) (p : Panic) (w : World ν) :
    h.closeConfig (α := α) (.panicked p) w = (.panicked p, { w with
      files := h.clearConfig w.files
      journal := w.journal ++ h.configComplaints w.files }) := by
  unfold closeConfig configComplaints clearConfig configGuard?
  cases h.configPath with
  | none => simp
  | some path => rfl

/-- What is run while the configuration stands finds it written, and it is removed after that. -/
theorem underConfig_of_ok {α : Type} {h : Harness ν} {host : Option String} {x : Act ν α}
    {w : World ν} {t : FileTree} (config : h.layConfig host w.files = .ok t) :
    h.underConfig (h.effectiveHost host) x w =
      h.closeConfig (x { w with files := t }).1 (x { w with files := t }).2 := by
  unfold layConfig at config
  unfold underConfig closeConfig configGuard?
  cases hp : h.configPath with
  | none =>
    rw [hp] at config
    cases config
    simp only [Option.map_none, Act.bind_apply]
    generalize x w = run
    obtain ⟨ending, v⟩ := run
    cases ending <;> rfl
  | some path =>
    rw [hp] at config
    exact Guard.around_of_ok (lay_eq_ok_iff.mp config)

/-- The checker is not asked if the description of the service cannot be written. -/
theorem underService_of_error {h : Harness ν} {user service : String} {w : World ν} {u : FileTree}
    {e : Error} (description : h.layService service w.files = .error (e, u)) :
    h.underService user service w = (.failed e, { w with files := u }) := by
  obtain ⟨cause, hw, rfl⟩ := lay_eq_error_iff.mp description
  exact Guard.around_of_error hw

/-- The checker is asked in the world with the description written, which is removed after that. -/
theorem underService_of_ok {h : Harness ν} {user service : String} {host : Option String}
    {w left : World ν} {t u : FileTree} {verdict : Verdict}
    (description : h.layService service t = .ok u)
    (answer : h.checker user service (h.found service host u w) = (verdict, left)) :
    h.underService user service { h.exported host w with files := t } =
      (h.serviceGuard service).close verdict.answered left := by
  have hask : (do
      Act.note .pam .debug ("wrote " ++ (h.serviceFile service).display)
      h.checker.ask user service : Act ν _) { h.exported host w with files := u } =
        (verdict.answered, left) := h.checker.ask_of_answer answer
  unfold underService
  rw [Guard.around_of_ok (w := { h.exported host w with files := t }) (lay_eq_ok_iff.mp description),
    hask]
  rfl

theorem check_of_misnamed {h : Harness ν} {user service : String} {host : Option String}
    {w : World ν} (named : isServiceName service = false) :
    h.check user service host w = (.failed (.usage (.serviceName service)), w) := by
  simp [check, named, Act.fail]

theorem check_of_unexportable {h : Harness ν} {user service : String} {host : Option String}
    {w : World ν} (named : isServiceName service = true)
    (nul : Bytes.hasNul (h.hostValue host) = true) :
    h.check user service host w = (.panicked .unusableVariable, w) := by
  have ha := h.accepts_hostValue host
  rw [nul] at ha
  unfold check
  rw [named]
  exact Override.around_of_not_accepts ha

/-- How a check goes on from what the checker answered and from what came of both removals. -/
def tell (h : Harness ν) (user service : String) (host : Option String) :
    (Except CheckFailure Int32 × Except Error Unit) × Except Error Unit → Act ν Int32
  | ((answer, serviceRemoved), configRemoved) => do
    let code ← Act.ofExcept (answer.mapError Error.check)
    Act.ofExcept serviceRemoved
    Act.ofExcept configRemoved
    Act.note .pam .info ("account check for " ++ user ++ " on " ++ service ++ " from " ++
      h.effectiveHost host ++ ": " ++ toString code.toInt)
    return code

theorem tell_failure (h : Harness ν) (user service : String) (host : Option String)
    (cause : CheckFailure) (serviceRemoved configRemoved : Except Error Unit) (w : World ν) :
    h.tell user service host ((.error cause, serviceRemoved), configRemoved) w =
      (.failed (.check cause), w) := rfl

theorem tell_code (h : Harness ν) (user service : String) (host : Option String) (c : Int32)
    (serviceRemoved configRemoved : Except Error Unit) (w : World ν) :
    h.tell user service host ((.ok c, serviceRemoved), configRemoved) w =
      match serviceRemoved, configRemoved with
      | .error e, _ => (.failed e, w)
      | .ok (), .error e => (.failed e, w)
      | .ok (), .ok () => (.done c, { w with journal := w.journal ++
          [⟨Component.pam.target, .info,
            "account check for " ++ user ++ " on " ++ service ++ " from " ++
              h.effectiveHost host ++ ": " ++ toString c.toInt⟩] }) := by
  cases serviceRemoved with
  | error e => rfl
  | ok done =>
    cases configRemoved with
    | error e => rfl
    | ok done => rfl

/-- A check whose service and host can be used runs with the variable set, and puts it back. -/
theorem check_of_exportable {h : Harness ν} {user service : String} {host : Option String}
    {w v : World ν} {ending : Ending Int32} (named : isServiceName service = true)
    (nul : Bytes.hasNul (h.hostValue host) = false)
    (run : (h.underConfig (h.effectiveHost host) (h.underService user service) >>=
      h.tell user service host) (h.exported host w) = (ending, v)) :
    h.check user service host w = (ending, { v with
      environment := v.environment.restore hostVariable (w.environment.get? hostVariable) }) := by
  have ha := h.accepts_hostValue host
  rw [nul] at ha
  have hc : h.check user service host w =
      Override.around hostVariable (h.hostValue host)
        (h.underConfig (h.effectiveHost host) (h.underService user service) >>=
          h.tell user service host) w := by
    unfold check
    rw [named]
    rfl
  rw [hc, Override.around_of_accepts ha]
  unfold exported at run
  rw [run]

theorem check_of_unconfigured {h : Harness ν} {user service : String} {host : Option String}
    {w : World ν} {t : FileTree} {e : Error} (named : isServiceName service = true)
    (nul : Bytes.hasNul (h.hostValue host) = false)
    (config : h.layConfig host w.files = .error (e, t)) :
    h.check user service host w = (.failed e, putBack w (h.exported host w) t []) := by
  have hu : h.underConfig (h.effectiveHost host) (h.underService user service) (h.exported host w) =
      (.failed e, { h.exported host w with files := t }) := underConfig_of_error config
  rw [check_of_exportable named nul (by rw [Act.bind_apply, hu])]
  simp [putBack, exported]

theorem check_of_undescribed {h : Harness ν} {user service : String} {host : Option String}
    {w : World ν} {t u : FileTree} {e : Error} (named : isServiceName service = true)
    (nul : Bytes.hasNul (h.hostValue host) = false)
    (config : h.layConfig host w.files = .ok t)
    (description : h.layService service t = .error (e, u)) :
    h.check user service host w =
      (.failed e,
        putBack w (h.exported host w) (h.clearConfig u) (h.configComplaints u)) := by
  have hs : h.underService user service { h.exported host w with files := t } =
      (.failed e, { h.exported host w with files := u }) := underService_of_error description
  have hu := underConfig_of_ok (x := h.underService user service) (w := h.exported host w) config
  rw [hs] at hu
  rw [check_of_exportable named nul (by rw [Act.bind_apply, hu, closeConfig_failed])]
  simp [putBack, exported]

theorem check_of_asked {h : Harness ν} {user service : String} {host : Option String}
    {w left : World ν} {t u : FileTree} {verdict : Verdict} (named : isServiceName service = true)
    (nul : Bytes.hasNul (h.hostValue host) = false)
    (config : h.layConfig host w.files = .ok t) (description : h.layService service t = .ok u)
    (answer : h.checker user service (h.found service host u w) = (verdict, left)) :
    h.check user service host w = (h.conclusion service verdict left.files,
      putBack w left (h.clear service left.files)
        (h.closingRecords user service host verdict left.files)) := by
  have hs : h.underService user service { h.exported host w with files := t } =
      (h.serviceGuard service).close verdict.answered left := underService_of_ok description answer
  have hu := underConfig_of_ok (x := h.underService user service) (w := h.exported host w) config
  rw [hs] at hu
  -- Once both files are removed, all that is left of the check is to tell what came of it.
  have run : ∀ {answer : Except CheckFailure Int32} {serviceRemoved configRemoved} {v : World ν},
      h.underConfig (h.effectiveHost host) (h.underService user service) (h.exported host w) =
        (.done ((answer, serviceRemoved), configRemoved), v) →
      (h.underConfig (h.effectiveHost host) (h.underService user service) >>=
        h.tell user service host) (h.exported host w) =
          h.tell user service host ((answer, serviceRemoved), configRemoved) v := by
    intro _ _ _ _ hd
    rw [Act.bind_apply, hd]
  cases verdict with
  | panic text =>
    simp only [Verdict.answered, Guard.close, closeConfig_panicked, serviceGuard_path] at hu
    rw [check_of_exportable named nul (by rw [Act.bind_apply, hu])]
    simp [conclusion, putBack, closingRecords, clear]
  | failure cause =>
    simp only [Verdict.answered, Guard.close, closeConfig_done, serviceGuard_path] at hu
    rw [check_of_exportable named nul ((run hu).trans (h.tell_failure ..))]
    simp [conclusion, putBack, closingRecords, clear]
  | code c =>
    simp only [Verdict.answered, Guard.close, closeConfig_done, serviceGuard_path] at hu
    have hrun := (run hu).trans (h.tell_code ..)
    cases hs : (h.serviceGuard service).released left.files with
    | error e =>
      rw [hs] at hrun
      rw [check_of_exportable named nul hrun]
      simp [conclusion, putBack, closingRecords, clear, hs]
    | ok done =>
      cases hc : h.configReleased (left.files.discard (h.serviceFile service)) with
      | error e =>
        rw [hs, hc] at hrun
        rw [check_of_exportable named nul hrun]
        simp [conclusion, putBack, closingRecords, clear, hs, hc]
      | ok done =>
        rw [hs, hc] at hrun
        rw [check_of_exportable named nul hrun]
        simp [conclusion, putBack, closingRecords, clear, hs, hc]

/-- Every check goes one of the five ways, and with a checker that records what it is asked it goes
the same way and leaves the record of just these questions. -/
theorem check_checks (h : Harness ν) (user service : String) (host : Option String) (w : World ν) :
    ∃ calls, Checks h user service host w calls (h.check user service host w).1
        (h.check user service host w).2 ∧
      ∀ log, h.recorded.check user service host (w.recording log) =
        ((h.check user service host w).1,
          (h.check user service host w).2.recording (log ++ calls)) := by
  cases named : isServiceName service with
  | false =>
    refine ⟨[], ?_, fun log => ?_⟩
    · rw [check_of_misnamed named]
      exact .misnamed named
    · rw [check_of_misnamed named, check_of_misnamed named, List.append_nil]
  | true =>
    cases nul : Bytes.hasNul (h.hostValue host) with
    | true =>
      refine ⟨[], ?_, fun log => ?_⟩
      · rw [check_of_unexportable named nul]
        exact .unexportable named nul
      · rw [check_of_unexportable named nul, check_of_unexportable (h := h.recorded) named nul,
          List.append_nil]
    | false =>
      cases config : h.layConfig host w.files with
      | error failure =>
        obtain ⟨e, t⟩ := failure
        refine ⟨[], ?_, fun log => ?_⟩
        · rw [check_of_unconfigured named nul config]
          exact .unconfigured named nul config
        · rw [check_of_unconfigured named nul config,
            check_of_unconfigured (h := h.recorded) (w := w.recording log) named nul config,
            List.append_nil]
          rfl
      | ok t =>
        cases description : h.layService service t with
        | error failure =>
          obtain ⟨e, u⟩ := failure
          refine ⟨[], ?_, fun log => ?_⟩
          · rw [check_of_undescribed named nul config description]
            exact .undescribed named nul config description
          · rw [check_of_undescribed named nul config description,
              check_of_undescribed (h := h.recorded) (w := w.recording log) named nul config
                description, List.append_nil]
            rfl
        | ok u =>
          obtain ⟨verdict, left, answer⟩ :
              ∃ verdict left, h.checker user service (h.found service host u w) = (verdict, left) :=
            ⟨_, _, rfl⟩
          refine ⟨[⟨user, service, h.found service host u w, verdict, left⟩], ?_, fun log => ?_⟩
          · rw [check_of_asked named nul config description answer]
            exact .asked named nul config description answer
          -- The recorded check finds what the check finds: nothing is recorded before the question.
          · have recorded : h.recorded.checker user service
                (h.recorded.found service host u (w.recording log)) =
                  (verdict, left.recording
                    (log ++ [⟨user, service, h.found service host u w, verdict, left⟩])) :=
              h.checker.recorded_of_answer answer
            rw [check_of_asked named nul config description answer,
              check_of_asked (h := h.recorded) (w := w.recording log) named nul config description
                recorded]
            rfl

end Harness

end HostAccess
