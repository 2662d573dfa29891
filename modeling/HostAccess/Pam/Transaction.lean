import HostAccess.Harness

/-!
# PAM transactions

A check in this process is a transaction with the PAM stack: it is started for a service and a user,
the account phase runs once, and the transaction is ended with what the account phase said. A
transaction that could not be started is not ended. The account phase has nothing to ask, so every
conversation is refused.

The stack is not ours: what it answers, and which conversations it holds before it does, is left
open.
-/
namespace HostAccess.Pam

abbrev Responses := Option Nat

/-- The answer to a conversation: it is refused, and the place for responses, if one is given, is
made to point to nothing. -/
def refuse (place : Option Responses) : Int32 × Option Responses :=
  (Result.conversationError.code, place.map fun _ => none)

/-- How a stack comes to an answer: at once, or after a conversation, with or without a place for
responses, going by its result and by what is left in the place. -/
inductive Deliberation (α : Type) where
  | answer (a : α)
  | converse (place : Option Responses) (next : Int32 → Option Responses → Deliberation α)

/-- What a stack knows a transaction by. -/
abbrev Handle := Nat

/-- How a stack behaves. It answers a start with a code and with a handle, or with none. -/
structure Stack where
  start : String → String → Deliberation (Int32 × Option Handle)
  account : Handle → Int32 → Deliberation Int32
  finish : Handle → Int32 → Deliberation Int32

inductive Event where
  | started (service user : String)
  | accountCheck (handle : Handle) (flags : Int32)
  | ended (handle : Handle) (status : Int32)
  /-- A conversation, its result, and what it has left in the place for responses. -/
  | conversed (place : Option Responses) (result : Int32) (left : Option Responses)
  deriving DecidableEq, Repr

/-- The flag that the account phase gets: it is to show nothing. -/
def silent : Int32 := 0x8000

/-- The flag that is added when a transaction ends: nothing is to be shown. -/
def dataSilent : Int32 := 0x40000000

/-- Hears a stack out. -/
def Deliberation.hear {α : Type} : Deliberation α → α × List Event
  | .answer a => (a, [])
  | .converse place next =>
    let (result, left) := refuse place
    let (a, events) := (next result left).hear
    (a, .conversed place result left :: events)

/-- A transaction that has been started, and what the account phase said in it, if it has run. -/
structure Transaction where
  handle : Handle
  status : Option Int32
  deriving DecidableEq, Repr

namespace Transaction

def begin (stack : Stack) (service user : String) : Except CheckFailure Transaction × List Event :=
  if service.contains '\x00' || user.contains '\x00' then (.error .unexpectedNul, [])
  else
    let ((code, handle?), events) := (stack.start service user).hear
    let events := .started service user :: events
    if code ≠ Result.success.code then (.error (.notStarted (Result.ofCode code)), events)
    else match handle? with
      | none => (.error (.notStarted .systemError), events)
      | some handle => (.ok ⟨handle, none⟩, events)

def account (stack : Stack) (t : Transaction) : Int32 × Transaction × List Event :=
  let (code, events) := (stack.account t.handle silent).hear
  (code, { t with status := some code }, .accountCheck t.handle silent :: events)

/-- Ends a transaction with what the account phase said; with success if it has not run. What the
stack says to that does not matter. -/
def close (stack : Stack) (t : Transaction) : List Event :=
  let status := t.status.getD Result.success.code ||| dataSilent
  .ended t.handle status :: (stack.finish t.handle status).hear.2

end Transaction

/-- A transaction for a user and a service: the code of the account phase, or why there is none, and
what happened. Once it has been started it is ended. -/
def transact (stack : Stack) (user service : String) : Except CheckFailure Int32 × List Event :=
  match Transaction.begin stack service user with
  | (.error failure, events) => (.error failure, events)
  | (.ok t, events) =>
    let (code, t, account) := t.account stack
    (.ok code, events ++ account ++ t.close stack)

def transactionRecord (user service : String) (code : Int32) : Record :=
  ⟨Component.pam.target, .debug,
    "pam_acct_mgmt(" ++ service ++ ", " ++ user ++ ") returned " ++ toString code.toInt⟩

def checker {ν : Type} (stack : Stack) : Checker ν := fun user service w =>
  match (transact stack user service).1 with
  | .ok code =>
    (.code code, { w with journal := w.journal ++ [transactionRecord user service code] })
  | .error failure => (.failure failure, w)

end HostAccess.Pam
