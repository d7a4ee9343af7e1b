import Signpost.Settings.Basic
import Signpost.Token.Desk

/-!
# Where tokens come from

A token is fixed, or a client's latest one is kept and renewed when it is needed.
-/

namespace Signpost.Token

inductive Issuer where
  | fixed (text : String)
  | client (client : Client) (stored : Option Token)
  deriving DecidableEq, Repr

def Issuer.ofCredentials : Settings.Credentials → Issuer
  | .fixed text => .fixed text
  | .client url id secret => .client ⟨url, id, secret⟩ none

/-- The token for one caller, who is alone. -/
def Issuer.obtain {m : Type → Type} [Monad m] (network : Http.Network m) :
    Issuer → m (Except Fault String × Issuer)
  | .fixed text => pure (.ok text, .fixed text)
  | .client who stored => do
    match valid? stored (← network.now) with
    | some text => pure (.ok text, .client who stored)
    | none =>
      let exchange ← network.send who.request
      let (stored, result) := settle stored (← network.now) exchange
      pure (result, .client who stored)

end Signpost.Token
