import NetControl.Bytes
import NetControl.OsError
import NetControl.Log.Event
import NetControl.Tether.Setting

/-!
What tethering asks of the world outside it, and how it goes on with each answer.

A `Plan` is an operation before anything outside has answered: a tree whose nodes read or write the
operation's own state, note a log event, or ask the outside and branch on the answer. `Plan.run`
follows the tree through a world that always answers, `Plan.attempt` through a world that may break
off, in which case the state stays as it was last written.
-/

namespace NetControl.Tether

/-- The two internet protocols. -/
inductive Family where
  | ipv4
  | ipv6
deriving Repr, DecidableEq

/-- A request to the world outside. -/
inductive Call where
  /-- Turns the forwarding of packets on or off. -/
  | switch (family : Family) (on : Bool)
  /-- Writes a setting of an interface. -/
  | set (interface : String) (setting : Setting)
  /-- Starts the forwarding daemon. -/
  | launch (arguments : List String)
  /-- Sends a frame to the running daemon. -/
  | send (frame : Bytes)
  /-- Tells the running daemon to end and waits until it has. -/
  | terminate
deriving Repr, DecidableEq

/-- What a successful request yields: a launch yields the number of the process. -/
def Call.Yield : Call → Type
  | launch _ => Nat
  | _ => Unit

/-- The answer to a request. -/
abbrev Call.Answer (c : Call) := Except OsError c.Yield

/-- An operation on a state `σ` with a result `α`. -/
inductive Plan (σ α : Type) : Type where
  /-- The operation is over. -/
  | done (a : α)
  /-- Goes on with the state. -/
  | read (next : σ → Plan σ α)
  /-- Replaces the state. -/
  | write (s : σ) (next : Plan σ α)
  /-- Asks the outside and goes on with its answer. -/
  | ask (c : Call) (next : c.Answer → Plan σ α)
  /-- Notes a log event. -/
  | note (e : Log.Event) (next : Plan σ α)

namespace Plan

variable {σ τ ω α β : Type}

/-- One operation after another. -/
def bind : Plan σ α → (α → Plan σ β) → Plan σ β
  | done a, f => f a
  | read next, f => read fun s => (next s).bind f
  | write s next, f => write s (next.bind f)
  | ask c next, f => ask c fun r => (next r).bind f
  | note e next, f => note e (next.bind f)

instance : Monad (Plan σ) where
  pure := done
  bind := bind

theorem bind_done (p : Plan σ α) : p.bind done = p := by
  induction p with
  | done a => rfl
  | read next ih => exact congrArg read (funext ih)
  | write s next ih => exact congrArg (write s) ih
  | ask c next ih => exact congrArg (ask c) (funext ih)
  | note e next ih => exact congrArg (note e) ih

theorem bind_bind {γ : Type} (p : Plan σ α) (f : α → Plan σ β) (g : β → Plan σ γ) :
    (p.bind f).bind g = p.bind fun a => (f a).bind g := by
  induction p with
  | done a => rfl
  | read next ih => exact congrArg read (funext ih)
  | write s next ih => exact congrArg (write s) ih
  | ask c next ih => exact congrArg (ask c) (funext ih)
  | note e next ih => exact congrArg (note e) ih

instance : LawfulMonad (Plan σ) :=
  LawfulMonad.mk' (Plan σ) bind_done (fun _ _ => rfl) bind_bind

/-- The state. -/
def get : Plan σ σ := read done

/-- Replaces the state. -/
def put (s : σ) : Plan σ Unit := write s (done ())

/-- Asks the outside. -/
def request (c : Call) : Plan σ c.Answer := ask c done

def log (e : Log.Event) : Plan σ Unit := note e (done ())

def logAll : List Log.Event → Plan σ Unit
  | [] => done ()
  | e :: rest => note e (logAll rest)

/-- An operation on a part of a larger state. -/
def zoom (get : τ → σ) (put : σ → τ → τ) : Plan σ α → Plan τ α
  | done a => done a
  | read next => read fun t => zoom get put (next (get t))
  | write s next => read fun t => write (put s t) (zoom get put next)
  | ask c next => ask c fun r => zoom get put (next r)
  | note e next => note e (zoom get put next)

/-! ## Following a plan -/

/-- Where an operation has led. -/
structure Outcome (σ ω α : Type) where
  /-- The result. -/
  value : α
  /-- The operation's own state. -/
  state : σ
  /-- The world outside. -/
  world : ω
  /-- The log events, in order. -/
  events : List Log.Event

/-- The outcome with a log event before its others. -/
def Outcome.after (e : Log.Event) (o : Outcome σ ω α) : Outcome σ ω α :=
  { o with events := e :: o.events }

/-- Follows a plan through a world that answers every request. -/
def run (answer : (c : Call) → ω → c.Answer × ω) : Plan σ α → σ → ω → Outcome σ ω α
  | done a, s, w => ⟨a, s, w, []⟩
  | read next, s, w => run answer (next s) s w
  | write s next, _, w => run answer next s w
  | ask c next, s, w => run answer (next (answer c w).1) s (answer c w).2
  | note e next, s, w => (run answer next s w).after e

/-- Follows a plan through a world that may break off at a request. -/
def attempt (answer : (c : Call) → ω → Option c.Answer × ω) :
    Plan σ α → σ → ω → Outcome σ ω (Option α)
  | done a, s, w => ⟨some a, s, w, []⟩
  | read next, s, w => attempt answer (next s) s w
  | write s next, _, w => attempt answer next s w
  | ask c next, s, w =>
    match (answer c w).1 with
    | some r => attempt answer (next r) s (answer c w).2
    | none => ⟨none, s, (answer c w).2, []⟩
  | note e next, s, w => (attempt answer next s w).after e

@[simp] theorem run_pure (answer : (c : Call) → ω → c.Answer × ω) (a : α) (s : σ) (w : ω) :
    run answer (pure a) s w = ⟨a, s, w, []⟩ := rfl

/-- Running one operation after another runs the second from where the first has led. -/
theorem run_bind (answer : (c : Call) → ω → c.Answer × ω) (p : Plan σ α) (f : α → Plan σ β)
    (s : σ) (w : ω) :
    run answer (p >>= f) s w =
      { run answer (f (run answer p s w).value) (run answer p s w).state (run answer p s w).world
        with events := (run answer p s w).events
          ++ (run answer (f (run answer p s w).value) (run answer p s w).state
            (run answer p s w).world).events } := by
  change run answer (p.bind f) s w = _
  induction p generalizing s w with
  | done a => simp [Plan.bind, run]
  | read next ih => simpa [Plan.bind, run] using ih s s w
  | write t next ih => simpa [Plan.bind, run] using ih t w
  | ask c next ih => simpa [Plan.bind, run] using ih (answer c w).1 s (answer c w).2
  | note e next ih => simp [Plan.bind, run, Outcome.after, ih s w]

/-- A world that never breaks off leads where the world that always answers leads. -/
theorem attempt_some (answer : (c : Call) → ω → c.Answer × ω) (p : Plan σ α) (s : σ) (w : ω) :
    attempt (fun c w => (some (answer c w).1, (answer c w).2)) p s w =
      { value := some (run answer p s w).value, state := (run answer p s w).state,
        world := (run answer p s w).world, events := (run answer p s w).events } := by
  induction p generalizing s w with
  | done a => rfl
  | read next ih => simpa [attempt, run] using ih s s w
  | write t next ih => simpa [attempt, run] using ih t w
  | ask c next ih => simpa [attempt, run] using ih (answer c w).1 s (answer c w).2
  | note e next ih => simp [attempt, run, Outcome.after, ih s w]

end Plan

end NetControl.Tether
