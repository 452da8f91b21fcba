import ForwardProxy.Config.Environment
import ForwardProxy.Request

/-!
This module contains sessions: runs of steps on a configuration under construction, the current
configuration, and a stored one, which stays as it was when it was stored.
-/

namespace ForwardProxy

structure Session where
  builder : Config := {}
  current : Config := {}
  stored : Option Config := none
  deriving DecidableEq, Repr

namespace Session

inductive Step
  | set (setting : Config.Setting) (value : Text)
  | newBuilder
  | build
  | new (config : Config)
  | load (env : Environment)
  | reset
  | view
  /-- Asks whether the current configuration is the one under construction. -/
  | compare
  | store
  /-- Asks the stored configuration for the proxy. -/
  | call (url : Text)
  | resolve (url : Text)
  | proxyFor (url : Text)
  | resolveProxy (form : Request.Form) (request : Text)

inductive Answer
  | config (config : Config)
  | equal (isEqual : Bool)
  | stored
  | noneStored
  | refused (refusal : Request.Refusal)
  | decision (decision : Decision)
  | result (result : Except Failure (Option Url))

def withUrl (s : Text) (answer : Url → Answer) : Answer :=
  match Url.parse s with
  | .ok url => answer url
  | .error error => .refused (.url error)

def next (state : Session) : Step → Session
  | .set setting value => { state with builder := state.builder.set setting value }
  | .newBuilder => { state with builder := {} }
  | .build => { state with current := state.builder }
  | .new config => { state with current := config }
  | .load env => { state with current := (Config.load env).config }
  | .reset => { state with current := {} }
  | .store => { state with stored := some state.current }
  | _ => state

def answer (before after : Session) : Step → Answer
  | .set _ _ | .newBuilder => .config after.builder
  | .build | .new _ | .load _ | .reset | .view => .config after.current
  | .compare => .equal (before.current == before.builder)
  | .store => .stored
  | .call url =>
    match before.stored with
    | none => .noneStored
    | some config => withUrl url fun url => .result (config.proxyFor url)
  | .resolve url => withUrl url fun url => .decision (before.current.resolve url)
  | .proxyFor url => withUrl url fun url => .result (before.current.proxyFor url)
  | .resolveProxy form request =>
    match Request.read form request with
    | .ok request => .result (ForwardProxy.resolveProxy request before.current)
    | .error refusal => .refused refusal

def run (state : Session) : List Step → List Answer
  | [] => []
  | step :: steps =>
    let after := state.next step
    state.answer after step :: after.run steps

end Session

end ForwardProxy
