namespace Postroom

/-!
# Listeners

A listener hands out connections until it is stopped. Its loop can be started
once; stopping it twice is the same as stopping it once.
-/

/-- A listening server with the connections that it has handed out. -/
structure Listener where
  name : String
  /-- Whether the loop has been started. -/
  started : Bool
  stopping : Bool
  nextConnection : Nat
  /-- The connections that are being served or wait for a worker. -/
  connections : List Nat
  deriving Repr, DecidableEq

namespace Listener

/-- A listener whose loop has not been started. -/
def named (name : String) : Listener :=
  ⟨name, false, false, 0, []⟩

/-- Why the loop of a listener is not started twice. -/
def alreadyStarted (name : String) : String :=
  name ++ " accept loop already started"

/-- Start the loop. -/
def start (listener : Listener) : Except String Listener :=
  if listener.started then
    .error (alreadyStarted listener.name)
  else
    .ok { listener with started := true }

/-- Hand out a connection, unless the listener is being stopped. -/
def hand (listener : Listener) : Option (Nat × Listener) :=
  if listener.stopping then
    none
  else
    some (listener.nextConnection,
      { listener with
        nextConnection := listener.nextConnection + 1
        connections := listener.connections ++ [listener.nextConnection] })

/-- Forget a connection that has been served. -/
def forget
    (listener : Listener)
    (connection : Nat) :
    Listener :=
  { listener with
    connections := listener.connections.erase connection }

/-- Stop handing out connections. -/
def stop (listener : Listener) : Listener :=
  { listener with stopping := true }

@[simp] theorem stop_stop (listener : Listener) :
    listener.stop.stop = listener.stop :=
  rfl

@[simp] theorem hand_stop (listener : Listener) :
    listener.stop.hand = none :=
  rfl

end Listener

end Postroom
