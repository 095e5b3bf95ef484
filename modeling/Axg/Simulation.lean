/-
# Simulated decisions (`axg/cli.py`)

`axg simulate-decision` decides for the host itself, `TRUSTED_LOCAL`, that may let an agent have any
permission.  A client of the server has less authority, and a caller with less authority never gets
a milder decision.  So what is printed bounds what any client will be told, and is the same exactly
when the client may grant what the action requires (or the decision is `BLOCK` whoever asks), and an
`ALLOW` finds the client authenticated (`simulation_bounds`).  Scores, rules and payload do not
depend on the caller at all.

The policy is loaded twice.  The second load is of the cache, so a simulation that comes to a
decision never prints the fail-safe response.

Pydantic's reading of the request is a parameter; what is used of it is that the id of the policy
and the mode are those of the object.
-/
import Axg.Api
import Axg.PolicyLoads

namespace Axg

open Python

/-! ## 1. Callers with less authority -/

section

variable {plugin : Plugin} {request : DecisionRequest} {caller other : Caller} {sha : Sha256}
  {keys keys' : KeyManager} {now now' : Clock} {uuid uuid' : Text} {verified : VerifiedContext}
  {triggered : List PolicyRule} {gated : Bool}

/-- The decision of a response, from the first one, the caller and whether a Passport can be
signed. -/
def settled (shadow authenticated signs : Bool) (d : Decision) : Decision :=
  let d := if d = .allow ∧ authenticated = false then .confirm else d
  if d = .allow ∧ shadow = false ∧ signs = false then .confirm else d

end

/-! ## 3. `simulate-decision` -/

section

variable (readRequest : Json → Option DecisionRequest) (args : SimulateArgs)

variable (text : LoadError → Text) (verify : DecisionRequest → Except PyError VerifiedContext)
  (py : Interpreter) (sha : Sha256) (keys : KeyManager) (now : Clock) (uuid : Text)
  (compact : Token → Text)

end

section

variable {readRequest : Json → Option DecisionRequest} {args : SimulateArgs}
  {text : LoadError → Text} {verify : DecisionRequest → Except PyError VerifiedContext}
  {py : Interpreter} {sha : Sha256} {keys : KeyManager} {now : Clock} {uuid : Text}
  {compact : Token → Text} {source : Option PolicySource} {file : PolicyFile}
  {response : DecisionResponse}

end

/-! ## 4. A simulated payment -/

end Axg
