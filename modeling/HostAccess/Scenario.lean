import HostAccess.Harness

/-!
# Scenarios

A scenario asserts what account checks decide. A decision that is not the asserted one is a panic;
every other failure is an error, so that a check that could not be made is never taken for a wrong
decision.
-/
namespace HostAccess.Scenario

variable {ν : Type}

def returns (h : Harness ν) (user service : String) (host : Option String) : Act ν Outcome := do
  return Outcome.ofCode (← h.check user service host)

def assertReturns (h : Harness ν) (user service : String) (expected : Outcome)
    (host : Option String) : Act ν Unit := do
  let observed ← returns h user service host
  if observed.toCode != expected.toCode then
    Act.panic (.mismatch user service (h.effectiveHost host) expected observed)

def assertAllowed (h : Harness ν) (user service : String) (host : Option String) : Act ν Unit :=
  assertReturns h user service .allowed host

def assertDenied (h : Harness ν) (user service : String) (host : Option String) : Act ν Unit :=
  assertReturns h user service .denied host

end HostAccess.Scenario
