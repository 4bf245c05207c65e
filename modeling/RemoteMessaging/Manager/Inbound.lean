import RemoteMessaging.Channel.Context
import RemoteMessaging.Manager.Basic

/-!
# Channels of a manager

The read loop of a channel hands each payload to its manager, which decodes it and
passes the message to the handler of the moment.  While the loop reads, somebody may
install a handler, mark the channel as inactive, or signal a shutdown.

Decoding does not look at handlers, so reading a frame and passing its payload on is
one step.  A step that is not possible leaves everything as it is.
-/

namespace RemoteMessaging

/-- A channel that is read for a manager. -/
structure Inbound (μ η : Type) where
  manager : Manager μ η
  context : ChannelContext η
  source : Source
  ended : Bool
  /-- The payloads that the codec has seen. -/
  seen : List (List UInt8)
  dispatched : List (Dispatch μ η)
  reported : List (Report η)

/-- A step of the read loop, or of somebody else. -/
inductive Inbound.Action (η : Type) where
  | read
  | leave
  | register (handler : η)
  | deactivate
  deriving DecidableEq, Repr

namespace Inbound

variable {μ η : Type}

def start (manager : Manager μ η) (context : ChannelContext η)
    (source : Source) : Inbound μ η :=
  { manager := manager
    context := context
    source := source
    ended := false
    seen := []
    dispatched := []
    reported := [] }

def pass (inbound : Inbound μ η) (payload : List UInt8) : Inbound μ η :=
  { inbound with
    seen := inbound.seen ++ [payload]
    dispatched := inbound.dispatched ++
      [inbound.manager.dispatch (inbound.context.channel.event payload)] }

def report (inbound : Inbound μ η) (error : Error) : Inbound μ η :=
  { inbound with
    reported := inbound.reported ++ [inbound.context.sink.report error] }

/-- The read loop ends, and marks the channel as inactive. -/
def finish (inbound : Inbound μ η) : Inbound μ η :=
  { inbound with context := inbound.context.markInactive, ended := true }

def read (inbound : Inbound μ η) : Inbound μ η :=
  if inbound.ended then inbound
  else
    let channel := inbound.context.channel
    match Frame.read channel.maxFrameLength inbound.source with
    | (.payload payload, rest) => { inbound with source := rest }.pass payload
    | (.failed error, rest) =>
        ({ inbound with source := rest }.report
          (Operation.read.channelError channel.remoteAddress error)).finish
    | (.finished, rest) => { inbound with source := rest }.finish
    | (.waiting, _) => inbound

def step (inbound : Inbound μ η) : Action η → Inbound μ η
  | .read => inbound.read
  | .leave => if inbound.ended then inbound else inbound.finish
  | .register handler =>
      { inbound with manager := inbound.manager.registerHandler handler }
  | .deactivate => { inbound with context := inbound.context.markInactive }

def run (inbound : Inbound μ η) (actions : List (Action η)) : Inbound μ η :=
  actions.foldl step inbound

end Inbound

end RemoteMessaging
