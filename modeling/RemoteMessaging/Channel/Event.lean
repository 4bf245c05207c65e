import RemoteMessaging.Ip.Basic
import RemoteMessaging.Text.Record

/-!
# Channels and their events

A channel is one end of a connection.  Every frame that arrives on it becomes an
event, which says where it arrived.
-/

namespace RemoteMessaging

/-- Which side opened the connection of a channel. -/
inductive ChannelRole where
  | server
  | client
  deriving DecidableEq, Repr

def ChannelRole.name : ChannelRole → String
  | .server => "Server"
  | .client => "Client"

/-- One end of a connection. -/
structure Channel where
  role : ChannelRole
  localAddress : SocketAddress
  remoteAddress : SocketAddress
  maxFrameLength : Nat
  deriving DecidableEq, Repr

/-- A payload that arrived on a channel. -/
structure Event where
  role : ChannelRole
  localAddress : SocketAddress
  remoteAddress : SocketAddress
  payload : List UInt8
  deriving DecidableEq, Repr

/-- The record form, with the length in place of the payload. -/
def Event.describe (event : Event) : String :=
  Text.record "TransportEvent"
    [("role", event.role.name), ("local", toString event.localAddress),
      ("remote", toString event.remoteAddress),
      ("len", toString event.payload.length)]

def Channel.event (channel : Channel) (payload : List UInt8) : Event :=
  ⟨channel.role, channel.localAddress, channel.remoteAddress, payload⟩

/-- Whether a channel is still in use, and what has become of its hook. -/
structure Activity where
  active : Bool
  /-- Something has to be told when the channel becomes inactive. -/
  hooked : Bool
  hookRuns : Nat
  deriving DecidableEq, Repr

namespace Activity

def start (hooked : Bool) : Activity :=
  ⟨true, hooked, 0⟩

/-- Clears the flag, and tells whether it was set. -/
def deactivate (activity : Activity) : Bool × Activity :=
  (activity.active, { activity with active := false })

/-- Clears the flag and runs the hook if the flag was set. -/
def markInactive (activity : Activity) : Activity :=
  let (first, activity) := activity.deactivate
  if first ∧ activity.hooked then
    { activity with hookRuns := activity.hookRuns + 1 }
  else activity

theorem active_markInactive (activity : Activity) :
    activity.markInactive.active = false := by
  obtain ⟨active, hooked, hookRuns⟩ := activity
  cases active <;> cases hooked <;> rfl

end Activity

end RemoteMessaging
