import RemoteMessaging.Channel.ReadLoop

/-!
# Reading a channel among others

The read loop of a channel is one of several tasks.  While it reads, a shutdown may
be signalled, and others may mark the channel as inactive, as often as they like.
To mark a channel takes two steps, clearing its flag and running its hook; others
may take steps between them.  A step that is not possible leaves everything as it
is.
-/

namespace RemoteMessaging

def Activity.runHook (activity : Activity) : Activity :=
  if activity.hooked then { activity with hookRuns := activity.hookRuns + 1 }
  else activity

/-- Where a call stands that marks a channel as inactive. -/
inductive Marking where
  | begun
  /-- The call has cleared the flag and is about to run the hook. -/
  | hooking
  | ended
  deriving DecidableEq, Repr

/-- The next step of a call that marks a channel as inactive. -/
def Marking.step (marking : Marking) (activity : Activity) : Marking × Activity :=
  match marking with
  | .begun =>
      let (first, activity) := activity.deactivate
      (if first then .hooking else .ended, activity)
  | .hooking => (.ended, activity.runHook)
  | .ended => (.ended, activity)

/-- A channel that is read. -/
structure ReadTask where
  channel : Channel
  activity : Activity
  source : Source
  signalled : Bool
  notices : List Channel.Notice
  /-- After the loop is left: where its own call stands that marks the channel. -/
  marking : Option Marking
  others : List Marking
  deriving DecidableEq, Repr

/-- A step of the read loop, or of somebody else. -/
inductive ReadTask.Action where
  | read
  /-- The loop sees the shutdown. -/
  | leave
  | mark
  | signal
  | call
  | proceed (position : Nat)
  deriving DecidableEq, Repr

namespace ReadTask

def start (channel : Channel) (hooked : Bool) (source : Source) : ReadTask :=
  { channel := channel
    activity := .start hooked
    source := source
    signalled := false
    notices := []
    marking := none
    others := [] }

def exit (task : ReadTask) : ReadTask :=
  { task with marking := some .begun }

def tell (task : ReadTask) (notice : Channel.Notice) : ReadTask :=
  { task with notices := task.notices ++ [notice] }

def read (task : ReadTask) : ReadTask :=
  if task.marking.isSome then task
  else
    match Frame.read task.channel.maxFrameLength task.source with
    | (.payload payload, rest) =>
        { task with source := rest }.tell (.event (task.channel.event payload))
    | (.failed error, rest) =>
        ({ task with source := rest }.tell (.error
          (Operation.read.channelError task.channel.remoteAddress error))).exit
    | (.finished, rest) => { task with source := rest }.exit
    | (.waiting, _) => task

def leave (task : ReadTask) : ReadTask :=
  if task.marking = none ∧ task.signalled then task.exit else task

def mark (task : ReadTask) : ReadTask :=
  match task.marking with
  | none => task
  | some marking =>
      let (marking, activity) := marking.step task.activity
      { task with marking := some marking, activity := activity }

def proceed (task : ReadTask) (position : Nat) : ReadTask :=
  match task.others[position]? with
  | none => task
  | some marking =>
      let (marking, activity) := marking.step task.activity
      { task with others := task.others.set position marking, activity := activity }

def step (task : ReadTask) : Action → ReadTask
  | .read => task.read
  | .leave => task.leave
  | .mark => task.mark
  | .signal => { task with signalled := true }
  | .call => { task with others := task.others ++ [.begun] }
  | .proceed position => task.proceed position

def run (task : ReadTask) (actions : List Action) : ReadTask :=
  actions.foldl step task

end ReadTask

end RemoteMessaging
