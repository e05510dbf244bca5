import PayloadLedger.Notice.Message

namespace PayloadLedger

/-!
Publishers.

A publisher takes messages and may fail to.  A broadcast keeps the messages that its
subscriber has not yet received, up to a capacity that is a power of two, and drops the
oldest beyond it.  A stream server is sent one command for each message.
-/

/-- Messages for a subscriber in the same process. -/
structure Broadcast where
  capacity : Nat
  /-- There is a subscriber. -/
  subscribed : Bool
  /-- Messages not yet received, the oldest first. -/
  waiting : List Message := []
  /-- Messages dropped before they were received. -/
  missed : Nat := 0
  deriving DecidableEq, Repr

inductive Delivery
  | message (message : Message)
  /-- So many messages were dropped. -/
  | lagged (count : Nat)
  deriving DecidableEq, Repr

namespace Broadcast

/-- The least power of two that reaches `capacity`, doubling `power` at most `fuel`
times. -/
def powerOfTwo : Nat → Nat → Nat → Nat
  | 0, power, _ => power
  | fuel + 1, power, capacity =>
      if capacity ≤ power then power else powerOfTwo fuel (2 * power) capacity

/-- A broadcast with room for at least `capacity` messages and at least one. -/
def empty (capacity : Nat) (subscribed : Bool) : Broadcast where
  capacity := powerOfTwo 64 1 capacity
  subscribed := subscribed

/-- Take a message.  Without a subscriber it is gone. -/
def send (broadcast : Broadcast) (message : Message) : Broadcast :=
  if broadcast.subscribed then
    let waiting := broadcast.waiting ++ [message]
    if broadcast.capacity < waiting.length then
      { broadcast with waiting := waiting.drop 1, missed := broadcast.missed + 1 }
    else { broadcast with waiting }
  else broadcast

/-- Hand everything that waits to the subscriber. -/
def drain (broadcast : Broadcast) : List Delivery × Broadcast :=
  ((if broadcast.missed = 0 then [] else [.lagged broadcast.missed]) ++
      broadcast.waiting.map .message,
    { broadcast with waiting := [], missed := 0 })

end Broadcast

/-- How a stream server answers. -/
inductive StreamAnswer
  | accepts
  | refuses
  /-- The server hangs up, and takes nothing afterwards. -/
  | closes
  deriving DecidableEq, Repr

/-- A stream server and what it was sent. -/
structure StreamServer where
  name : String
  /-- The stream is trimmed to about this many messages. -/
  maxLength : Option Nat
  answer : StreamAnswer
  isOpen : Bool := true
  /-- The commands that were sent, as lists of arguments. -/
  sent : List (List String) := []
  deriving DecidableEq, Repr

namespace StreamServer

/-- The command that adds a message to the stream. -/
def command (server : StreamServer) (message : Message) : List String :=
  ["XADD", server.name] ++
    (match server.maxLength with
      | some length => ["MAXLEN", "~", toString length]
      | none => []) ++
    ["*", "message", message.body, "attributes", message.attributesJson.render]

end StreamServer

/-- Where messages go. -/
inductive Publisher
  | broadcast (broadcast : Broadcast)
  | stream (server : StreamServer)
  /-- Every message is refused for this reason. -/
  | unreachable (reason : String)

namespace Publisher

def publish (publisher : Publisher) (message : Message) : Except EventError Unit × Publisher :=
  match publisher with
  | broadcast channel => (.ok (), broadcast (channel.send message))
  | unreachable reason => (.error (.publish reason), publisher)
  | stream server =>
      if server.isOpen then
        let server := { server with sent := server.sent ++ [server.command message] }
        match server.answer with
        | .accepts => (.ok (), stream server)
        | .refuses => (.error .stream, stream server)
        | .closes => (.error .stream, stream { server with isOpen := false })
      else (.error .stream, publisher)

end Publisher

end PayloadLedger
