import RemoteMessaging.Channel.Event
import RemoteMessaging.Error
import RemoteMessaging.Frame.Codec

/-!
# Reading a channel

A channel is read frame by frame until the stream ends, fails, or a shutdown is
seen.  A failure is reported once and ends the loop; whatever ends it, the
channel is inactive afterwards.
-/

namespace RemoteMessaging.Channel

/-- What the read loop tells others. -/
inductive Notice where
  | event (event : Event)
  | error (error : Error)
  deriving DecidableEq, Repr

/-- The notices of the read loop in order.  A shutdown is seen after `patience`
frames, if at all; a stream that stays open without a complete frame can only be
left by a shutdown. -/
def receive (channel : Channel) (patience : Option Nat) (source : Source) :
    List Notice :=
  if patience = some 0 then []
  else
    match step : Frame.read channel.maxFrameLength source with
    | (.payload bytes, rest) =>
        have := Frame.size_read step
        .event (channel.event bytes) ::
          receive channel (patience.map (· - 1)) rest
    | (.failed error, _) =>
        [.error (Operation.read.channelError channel.remoteAddress error)]
    | (.finished, _) => []
    | (.waiting, _) => []
  termination_by source.size

def readLoop (channel : Channel) (activity : Activity)
    (patience : Option Nat) (source : Source) : List Notice × Activity :=
  (channel.receive patience source, activity.markInactive)

end RemoteMessaging.Channel
