import HostAccess.Pam.Transaction
import HostAccess.Proofs.Codes

/-!
# A transaction and its handle

Whatever the stack does: a transaction is started once, and it is checked and ended once each if the
start gave a handle and not at all if it gave none. The handle that was given is the one that is used,
the end is the last thing that is asked of the stack, and every conversation is refused.
-/
namespace HostAccess.Pam

variable {α : Type}

/-! ## What a stack comes to -/

/-- A conversation that is refused, as it is recorded. -/
def Event.refusal (place : Option Responses) : Event :=
  .conversed place Result.conversationError.code (place.map fun _ => none)

namespace Deliberation

/-- What a stack answers if every conversation with it is refused. -/
def decision : Deliberation α → α
  | .answer a => a
  | .converse place next =>
    (next Result.conversationError.code (place.map fun _ => none)).decision

/-- The places that a stack gives for responses on its way to that answer. -/
def places : Deliberation α → List (Option Responses)
  | .answer _ => []
  | .converse place next =>
    place :: (next Result.conversationError.code (place.map fun _ => none)).places

theorem hear_eq (d : Deliberation α) : d.hear = (d.decision, d.places.map Event.refusal) := by
  induction d with
  | answer a => rfl
  | converse place next ih =>
    have later := ih Result.conversationError.code (place.map fun _ => none)
    simp only [hear, refuse, later]
    rfl

end Deliberation

namespace Stack

def startCode (stack : Stack) (service user : String) : Int32 :=
  (stack.start service user).decision.1

def handle? (stack : Stack) (service user : String) : Option Handle :=
  (stack.start service user).decision.2

def accountCode (stack : Stack) (handle : Handle) : Int32 := (stack.account handle silent).decision

/-- The conversations that a stack holds when it is called. -/
def conversations (stack : Stack) : Event → List (Option Responses)
  | .started service user => (stack.start service user).places
  | .accountCheck handle flags => (stack.account handle flags).places
  | .ended handle status => (stack.finish handle status).places
  | .conversed .. => []

/-- A call and the conversations that the stack holds in it. -/
def heard (stack : Stack) (call : Event) : List Event :=
  call :: (stack.conversations call).map Event.refusal

end Stack

/-! ## Calls -/

/-- Whether the stack is asked for something. In a conversation it is the stack that asks. -/
def Event.isCall : Event → Bool
  | .started .. | .accountCheck .. | .ended .. => true
  | .conversed .. => false

/-- What is asked of the stack. -/
def calls (events : List Event) : List Event := events.filter Event.isCall

@[simp] theorem calls_refusals (places : List (Option Responses)) :
    calls (places.map Event.refusal) = [] := by
  induction places with
  | nil => rfl
  | cons place rest ih => exact ih

/-- Conversations are no calls, so of what is heard only the calls are calls. -/
theorem calls_heard (stack : Stack) {asked : List Event} (all : ∀ e ∈ asked, e.isCall = true) :
    calls (asked.flatMap stack.heard) = asked := by
  induction asked with
  | nil => rfl
  | cons call rest ih =>
    have first : call.isCall = true := all call List.mem_cons_self
    have later := ih fun e he => all e (List.mem_cons_of_mem _ he)
    have silence : ((stack.conversations call).map Event.refusal).filter Event.isCall = [] :=
      calls_refusals (stack.conversations call)
    simp only [calls] at later ⊢
    simp only [List.flatMap_cons, Stack.heard, List.filter_append, List.filter_cons, first, if_true,
      silence, later, List.cons_append, List.nil_append]

/-! ## Transactions -/

section

variable (stack : Stack) {user service : String}

theorem transact_of_nul (nul : '\x00' ∈ user.toList ∨ '\x00' ∈ service.toList) :
    transact stack user service = (.error .unexpectedNul, []) := by
  have barred : (service.contains '\x00' || user.contains '\x00') = true := by
    simpa [or_comm] using nul
  have begun : Transaction.begin stack service user = (.error .unexpectedNul, []) := by
    unfold Transaction.begin
    rw [if_pos barred]
  simp only [transact, begun]

variable (plainUser : '\x00' ∉ user.toList) (plainService : '\x00' ∉ service.toList)

include plainUser plainService

theorem begin_of_plain :
    Transaction.begin stack service user =
      if stack.startCode service user ≠ 0 then
        (.error (.notStarted (Result.ofCode (stack.startCode service user))),
          stack.heard (.started service user))
      else match stack.handle? service user with
        | none => (.error (.notStarted .systemError), stack.heard (.started service user))
        | some handle => (.ok ⟨handle, none⟩, stack.heard (.started service user)) := by
  have admitted : (service.contains '\x00' || user.contains '\x00') = false := by
    simp [plainUser, plainService]
  simp only [Transaction.begin, admitted, Bool.false_eq_true, if_false, Deliberation.hear_eq]
  rfl

/-- A start that fails is all there is. -/
theorem transact_of_failed (failed : stack.startCode service user ≠ 0) :
    transact stack user service =
      (.error (.notStarted (Result.ofCode (stack.startCode service user))),
        [.started service user].flatMap stack.heard) := by
  have begun := begin_of_plain stack plainUser plainService
  rw [if_pos failed] at begun
  simp only [transact, begun, List.flatMap_cons, List.flatMap_nil, List.append_nil]

/-- A start that gives no handle is all there is. -/
theorem transact_of_handleless (succeeded : stack.startCode service user = 0)
    (missing : stack.handle? service user = none) :
    transact stack user service =
      (.error (.notStarted .systemError), [.started service user].flatMap stack.heard) := by
  have begun := begin_of_plain stack plainUser plainService
  rw [if_neg (not_not_intro succeeded), missing] at begun
  simp only [transact, begun, List.flatMap_cons, List.flatMap_nil, List.append_nil]

/-- A handle that is given is checked with and then ended with what the check said. -/
theorem transact_of_given {handle : Handle} (succeeded : stack.startCode service user = 0)
    (given : stack.handle? service user = some handle) :
    transact stack user service =
      (.ok (stack.accountCode handle),
        [.started service user, .accountCheck handle silent,
          .ended handle (stack.accountCode handle ||| dataSilent)].flatMap stack.heard) := by
  have begun := begin_of_plain stack plainUser plainService
  rw [if_neg (not_not_intro succeeded), given] at begun
  simp only [transact, begun, Transaction.account, Transaction.close, Deliberation.hear_eq,
    List.flatMap_cons, List.flatMap_nil, List.append_nil, List.append_assoc]
  rfl

/-- What happens is what is asked of the stack and what is heard of it. -/
theorem transact_heard :
    ∃ asked : List Event, (∀ e ∈ asked, e.isCall = true) ∧
      (transact stack user service).2 = asked.flatMap stack.heard := by
  by_cases failed : stack.startCode service user ≠ 0
  · rw [transact_of_failed stack plainUser plainService failed]
    exact ⟨_, by simp [Event.isCall], rfl⟩
  have succeeded : stack.startCode service user = 0 := Decidable.not_not.mp failed
  cases given : stack.handle? service user with
  | none =>
    rw [transact_of_handleless stack plainUser plainService succeeded given]
    exact ⟨_, by simp [Event.isCall], rfl⟩
  | some handle =>
    rw [transact_of_given stack plainUser plainService succeeded given]
    exact ⟨_, by simp [Event.isCall], rfl⟩

end

/-- **A handle is used once and always ended, whatever the stack does.** Nothing is asked of the stack
for a name that holds a NUL. Otherwise it is asked for a start once. If that fails, or gives no handle,
it is asked for nothing more; if it gives a handle, the account phase is run with that handle once and
the transaction is ended once, with the code of the account phase, and that is all. In each call every
conversation that the stack holds is refused, and nothing else happens. -/
theorem handle_used_once (stack : Stack) (user service : String) :
    ('\x00' ∈ user.toList ∨ '\x00' ∈ service.toList →
      transact stack user service = (.error .unexpectedNul, [])) ∧
    ('\x00' ∉ user.toList → '\x00' ∉ service.toList →
      (stack.startCode service user ≠ 0 →
        (∃ result : Result, result.code = stack.startCode service user ∧
          (transact stack user service).1 = .error (.notStarted result)) ∧
        calls (transact stack user service).2 = [.started service user]) ∧
      (stack.startCode service user = 0 → stack.handle? service user = none →
        (transact stack user service).1 = .error (.notStarted .systemError) ∧
        calls (transact stack user service).2 = [.started service user]) ∧
      ∀ handle, stack.startCode service user = 0 → stack.handle? service user = some handle →
        (transact stack user service).1 = .ok (stack.accountCode handle) ∧
        calls (transact stack user service).2 =
          [.started service user, .accountCheck handle silent,
            .ended handle (stack.accountCode handle ||| dataSilent)]) ∧
    (transact stack user service).2 = (calls (transact stack user service).2).flatMap stack.heard := by
  by_cases nul : '\x00' ∈ user.toList ∨ '\x00' ∈ service.toList
  · have run := transact_of_nul stack nul
    refine ⟨fun _ => run, fun plainUser plainService => ?_, by rw [run]; rfl⟩
    exact absurd nul (not_or.mpr ⟨plainUser, plainService⟩)
  obtain ⟨plainUser, plainService⟩ := not_or.mp nul
  refine ⟨fun h => absurd h nul, fun _ _ => ?_, ?_⟩
  · have asked : calls ([.started service user].flatMap stack.heard) = [.started service user] :=
      calls_heard stack (by simp [Event.isCall])
    refine ⟨fun failed => ?_, fun succeeded missing => ?_, fun handle succeeded given => ?_⟩
    · rw [transact_of_failed stack plainUser plainService failed]
      exact ⟨⟨_, Result.code_ofCode _, rfl⟩, asked⟩
    · rw [transact_of_handleless stack plainUser plainService succeeded missing]
      exact ⟨rfl, asked⟩
    · rw [transact_of_given stack plainUser plainService succeeded given]
      exact ⟨rfl, calls_heard stack (by simp [Event.isCall])⟩
  · obtain ⟨asked, all, events⟩ := transact_heard stack plainUser plainService
    rw [events, calls_heard stack all]

/-- A stack that asks twice, the second time with no place for responses, and answers with what it was
told, as a negative code. -/
def sulking : Stack where
  start := fun _ _ => .answer (0, some 7)
  account := fun _ _ =>
    .converse (some (some 3)) fun result _ => .converse none fun _ _ => .answer (-result)
  finish := fun _ _ => .answer 0

/-- A negative code has the bit of the flag already, so it is what the transaction ends with. -/
theorem handle_used_once_sulking :
    (transact sulking "alice" "login").1 = .ok (-19) ∧
      calls (transact sulking "alice" "login").2 =
        [.started "login" "alice", .accountCheck 7 silent, .ended 7 (-19)] ∧
      Event.conversed (some (some 3)) 19 (some none) ∈ (transact sulking "alice" "login").2 := by
  obtain ⟨-, plain, events⟩ := handle_used_once sulking "alice" "login"
  obtain ⟨answer, asked⟩ := (plain (by decide) (by decide)).2.2 7 rfl rfl
  refine ⟨answer, asked, ?_⟩
  rw [events, asked]
  decide

end HostAccess.Pam
