import Signpost.Token.Basic

/-!
# The token desk

Callers come to a desk for a token and are let in one at a time in the order of their coming. Who
finds a valid token takes it, who finds none makes a request and waits for its end inside, so that
those behind can share what it brings. A request that brings no token changes nothing.
-/

namespace Signpost.Token

/-- How a caller was served: with the stored token, or by a request of its own. -/
inductive Service where
  | stored (text : String)
  | requested (result : Except Fault String)

def Service.result : Service → Except Fault String
  | .stored text => .ok text
  | .requested result => result

inductive Caller where
  | waiting
  | requesting
  | served (service : Service)

structure Desk where
  stored : Option Token
  callers : List Caller

inductive Event where
  | come
  | enter (i : Nat) (now : Time.Instant)
  | learn (i : Nat) (now : Time.Instant) (exchange : Http.Exchange)

/-- The token that may be given out. -/
def valid? (stored : Option Token) (now : Time.Instant) : Option String :=
  (stored.filter (·.isValid now)).map Token.text

/-- What the end of a request leaves stored, and what it is for its caller. -/
def settle (stored : Option Token) (now : Time.Instant) (exchange : Http.Exchange) :
    Option Token × Except Fault String :=
  match ofExchange now exchange with
  | .ok token => (some token, .ok token.text)
  | .error fault => (stored, .error fault)

namespace Desk

def empty : Desk :=
  ⟨none, []⟩

/-- Whether a caller is inside. -/
def isBusy (d : Desk) : Bool :=
  d.callers.any fun
    | .requesting => true
    | _ => false

/-- The first caller in the order of coming that still waits. -/
def next? (d : Desk) : Option Nat :=
  d.callers.findIdx? fun
    | .waiting => true
    | _ => false

def enter (d : Desk) (i : Nat) (now : Time.Instant) : Desk :=
  match valid? d.stored now with
  | some text => { d with callers := d.callers.set i (.served (.stored text)) }
  | none => { d with callers := d.callers.set i .requesting }

def learn (d : Desk) (i : Nat) (now : Time.Instant) (exchange : Http.Exchange) : Desk :=
  let (stored, result) := settle d.stored now exchange
  ⟨stored, d.callers.set i (.served (.requested result))⟩

def step? (d : Desk) : Event → Option Desk
  | .come => some { d with callers := d.callers ++ [.waiting] }
  | .enter i now => if !d.isBusy && d.next? == some i then some (d.enter i now) else none
  | .learn i now exchange =>
    match d.callers[i]? with
    | some .requesting => some (d.learn i now exchange)
    | _ => none

/-- The desk after events in order, if each can happen. -/
def run? (d : Desk) : List Event → Option Desk
  | [] => some d
  | e :: events => (d.step? e).bind fun d => d.run? events

end Signpost.Token.Desk
