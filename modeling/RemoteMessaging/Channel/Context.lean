import RemoteMessaging.Channel.ErrorSink
import RemoteMessaging.Channel.ReadLoop

/-!
# Channels in use

A channel together with its activity and the sink to which its errors go.
-/

namespace RemoteMessaging

/-- A channel in use; `η` names error handlers. -/
structure ChannelContext (η : Type) where
  channel : Channel
  activity : Activity
  sink : ErrorSink η

/-- What others get to know of a channel. -/
inductive Delivery (η : Type) where
  | event (event : Event)
  | report (report : Report η)
  deriving DecidableEq, Repr

/-- The warning that goes with a delivery. -/
def Delivery.warning? {η : Type} : Delivery η → Option String
  | .event _ => none
  | .report made => made.warning?

namespace ChannelContext

variable {η : Type}

def start (channel : Channel) (hooked : Bool) : ChannelContext η :=
  ⟨channel, .start hooked, .empty⟩

def install (context : ChannelContext η) (handler : η) : ChannelContext η :=
  { context with sink := context.sink.install handler }

def report (context : ChannelContext η) (error : Error) : Delivery η :=
  .report (context.sink.report error)

def markInactive (context : ChannelContext η) : ChannelContext η :=
  { context with activity := context.activity.markInactive }

def deliver (context : ChannelContext η) : Channel.Notice → Delivery η
  | .event event => .event event
  | .error error => context.report error

def readLoop (context : ChannelContext η) (patience : Option Nat)
    (source : Source) : List (Delivery η) × ChannelContext η :=
  let (notices, activity) :=
    context.channel.readLoop context.activity patience source
  (notices.map context.deliver, { context with activity := activity })

end ChannelContext

end RemoteMessaging
