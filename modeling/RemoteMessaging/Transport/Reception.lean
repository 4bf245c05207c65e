import RemoteMessaging.Channel.ErrorSink
import RemoteMessaging.Frame.Codec
import RemoteMessaging.Transport.Accept

/-!
# Accepting connections among others

The accept loop takes one connection after the other and hands each over to the
threads that serve inbound channels.  There a task takes the connection up and reads
its channel, while the loop goes on and the tasks of other connections do the same.
An error handler can be installed at any time.

The loop and the tasks see a shutdown once it is signalled.  When the threads stop
after that, tasks that have not begun are dropped.  A step that is not possible
leaves everything as it is.
-/

namespace RemoteMessaging

/-- Somebody who connects: how the calls for the connection turn out, and what
arrives on it then. -/
structure Peer where
  arrival : Arrival
  stream : Source

/-- Where a connection stands that was accepted. -/
inductive Visit.Stage where
  /-- Its socket is about to be configured. -/
  | accepted
  /-- It is about to be handed over. -/
  | configured
  /-- Its socket is about to be registered with the threads that took it over. -/
  | handedOver
  /-- Its socket is about to be asked for its address. -/
  | registered
  | reading (channel : Channel) (rest : Source)
  | ended
  /-- Its task was dropped before it began. -/
  | dropped
  deriving DecidableEq, Repr

/-- What becomes of the stage of a connection whose task sees the shutdown. -/
def Visit.Stage.quit : Visit.Stage → Visit.Stage
  | .reading _ _ => .ended
  | stage => stage

/-- What becomes of the stage of a connection when the threads stop. -/
def Visit.Stage.halt : Visit.Stage → Visit.Stage
  | .handedOver => .dropped
  | .reading _ _ => .ended
  | stage => stage

/-- A connection that was accepted. -/
structure Visit where
  peer : Peer
  stage : Visit.Stage

/-- Where the accept loop stands. -/
inductive Reception.Loop where
  | waiting
  | configuring (position : Nat)
  | handingOver (position : Nat)
  | left
  deriving DecidableEq, Repr

/-- The connection that the accept loop is at work on. -/
def Reception.Loop.visit? : Reception.Loop → Option Nat
  | .waiting => none
  | .configuring position => some position
  | .handingOver position => some position
  | .left => none

/-- Where the accept loop stands when a step for a connection is done.  It waits for
another connection then, unless its threads have stopped. -/
def Reception.Loop.next (halted : Bool) : Reception.Loop → Reception.Loop
  | .configuring position => .handingOver position
  | .handingOver _ => if halted then .left else .waiting
  | loop => loop

/-- What others get to know of the accept loop and the tasks. -/
inductive Reception.Note (η : Type) where
  | refused (report : Report η)
  /-- A call for a connection has failed, before its channel was read. -/
  | fault (position : Nat) (report : Report η)
  | serve (position : Nat) (channel : Channel)
  | event (position : Nat) (event : Event)
  /-- The channel of a connection could not be read on. -/
  | broken (position : Nat) (report : Report η)
  deriving DecidableEq, Repr

/-- The accept loop with the connections that it has taken; `η` names error
handlers. -/
structure Reception (η : Type) where
  maxFrameLength : Nat
  sink : ErrorSink η
  loop : Reception.Loop
  visits : List Visit
  signalled : Bool
  halted : Bool
  log : List (Reception.Note η)

/-- A step of the accept loop, of a task, or of somebody else. -/
inductive Reception.Action (η : Type) where
  | fail (error : IoError)
  | accept
  | proceed
  | leave
  | advance (position : Nat)
  | quit (position : Nat)
  | install (handler : η)
  | signal
  | halt
  deriving DecidableEq, Repr

namespace Reception

variable {η : Type}

def start (maxFrameLength : Nat) (sink : ErrorSink η) : Reception η :=
  { maxFrameLength := maxFrameLength
    sink := sink
    loop := .waiting
    visits := []
    signalled := false
    halted := false
    log := [] }

def install (reception : Reception η) (handler : η) : Reception η :=
  { reception with sink := reception.sink.install handler }

def tell (reception : Reception η) (notes : List (Note η)) : Reception η :=
  { reception with log := reception.log ++ notes }

/-- What is next for a connection: what others get to know, and where it stands
then.  A fault in configuring its socket does not keep it from being served. -/
def next (reception : Reception η) (position : Nat) (visit : Visit) :
    List (Note η) × Visit.Stage :=
  let arrival := visit.peer.arrival
  let fault (operation : Operation) (error : IoError) : Note η :=
    .fault position (reception.sink.report (operation.failed error))
  match visit.stage with
  | .accepted =>
      match arrival.configure with
      | .ok _ => ([], .configured)
      | .error error => ([fault .configure error], .configured)
  | .configured =>
      match arrival.handOver with
      | .ok _ => ([], if reception.halted then .dropped else .handedOver)
      | .error error => ([fault .accept error], .ended)
  | .handedOver =>
      match arrival.register with
      | .ok _ => ([], .registered)
      | .error error => ([fault .accept error], .ended)
  | .registered =>
      match arrival.localAddress with
      | .ok own =>
          let channel : Channel :=
            ⟨.server, own, arrival.remoteAddress, reception.maxFrameLength⟩
          ([.serve position channel], .reading channel visit.peer.stream)
      | .error error => ([fault .accept error], .ended)
  | .reading channel rest =>
      match Frame.read channel.maxFrameLength rest with
      | (.payload payload, rest) =>
          ([.event position (channel.event payload)], .reading channel rest)
      | (.failed error, _) =>
          ([.broken position (reception.sink.report
            (Operation.read.channelError channel.remoteAddress error))], .ended)
      | (.finished, _) => ([], .ended)
      | (.waiting, _) => ([], .reading channel rest)
  | .ended => ([], .ended)
  | .dropped => ([], .dropped)

def go (reception : Reception η) (position : Nat) : Reception η :=
  match reception.visits[position]? with
  | none => reception
  | some visit =>
      let (notes, stage) := reception.next position visit
      { reception with
        visits := reception.visits.set position { visit with stage := stage } }.tell
          notes

def fail (reception : Reception η) (error : IoError) : Reception η :=
  if reception.loop = .waiting then
    reception.tell [.refused (reception.sink.report (Operation.accept.failed error))]
  else reception

def accept (peers : Nat → Peer) (reception : Reception η) : Reception η :=
  if reception.loop = .waiting then
    let position := reception.visits.length
    { reception with
      loop := .configuring position
      visits := reception.visits ++ [⟨peers position, .accepted⟩] }
  else reception

def proceed (reception : Reception η) : Reception η :=
  match reception.loop.visit? with
  | none => reception
  | some position =>
      { reception.go position with loop := reception.loop.next reception.halted }

def leave (reception : Reception η) : Reception η :=
  if reception.loop = .waiting ∧ reception.signalled then
    { reception with loop := .left }
  else reception

def advance (reception : Reception η) (position : Nat) : Reception η :=
  if reception.loop.visit? = some position then reception
  else reception.go position

def quit (reception : Reception η) (position : Nat) : Reception η :=
  if reception.signalled then
    { reception with
      visits := reception.visits.modify position fun visit =>
        { visit with stage := visit.stage.quit } }
  else reception

/-- The threads stop, once a shutdown has been signalled.  Tasks that wait are
dropped, and so is the accept loop, unless it is at work. -/
def halt (reception : Reception η) : Reception η :=
  if reception.signalled then
    { reception with
      loop := if reception.loop = .waiting then .left else reception.loop
      visits := reception.visits.map fun visit =>
        { visit with stage := visit.stage.halt }
      halted := true }
  else reception

def Note.report? : Note η → Option (Report η)
  | .refused report => some report
  | .fault _ report => some report
  | .serve .. => none
  | .event .. => none
  | .broken _ report => some report

def reports (reception : Reception η) : List (Report η) :=
  reception.log.filterMap (·.report?)

/-- A step, where `peers` are those who connect, in order. -/
def step (peers : Nat → Peer) (reception : Reception η) : Action η → Reception η
  | .fail error => reception.fail error
  | .accept => reception.accept peers
  | .proceed => reception.proceed
  | .leave => reception.leave
  | .advance position => reception.advance position
  | .quit position => reception.quit position
  | .install handler => reception.install handler
  | .signal => { reception with signalled := true }
  | .halt => reception.halt

def run (peers : Nat → Peer) (reception : Reception η) (actions : List (Action η)) :
    Reception η :=
  actions.foldl (step peers) reception

end Reception

end RemoteMessaging
