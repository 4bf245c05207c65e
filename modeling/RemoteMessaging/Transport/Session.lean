import RemoteMessaging.Link.Calls
import RemoteMessaging.Transport.Open

/-!
# A transport in use

Any number of callers open links while the transport serves the channels of
others, and somebody may close it.  All of this goes on at once: connecting and
closing take several steps each, between which others take theirs.

A channel is served by tasks.  A task sees a shutdown if it was made before the
shutdown was signalled.  When the threads stop, tasks that wait are dropped, and
later ones never begin.  A step that is not possible leaves everything as it is.
-/

namespace RemoteMessaging

/-- What a task does for its channel. -/
inductive Task.Kind where
  | reader
  /-- Writes what is queued on an ordered link. -/
  | queue
  /-- Writes one message of an unordered link. -/
  | message
  deriving DecidableEq, Repr

/-- Why a task ends by itself. -/
inductive Task.Cause where
  | shutdown
  | stream
  | done
  deriving DecidableEq, Repr

/-- Where a task stands. -/
inductive Task.Phase where
  | waiting
  /-- The channel became inactive through the task, whose hook is about to run. -/
  | hooking
  | ended (marked : Bool)
  | dropped
  deriving DecidableEq, Repr

structure Task where
  handle : Handle
  kind : Task.Kind
  /-- It was made before the shutdown was signalled, so that it sees it. -/
  informed : Bool
  phase : Task.Phase
  deriving DecidableEq, Repr

/-- Whether a task of a kind can end for a cause, and marks its channel as
inactive then. -/
def Task.Kind.marks : Task.Kind → Task.Cause → Option Bool
  | .reader, .shutdown | .reader, .stream => some true
  | .reader, .done => none
  | .queue, .shutdown | .queue, .done => some false
  | .queue, .stream => some true
  | .message, .shutdown => none
  | .message, .stream => some true
  | .message, .done => some false

/-- The task has marked its channel as inactive. -/
def Task.marked (task : Task) : Bool :=
  task.phase = .hooking ∨ task.phase = .ended true

/-- Where an attempt to connect stands, just before its next step. -/
inductive Dial (σ : Type) where
  | check
  | resolve
  | create (target : SocketAddress)
  /-- Preparing the socket by the calls that are left, then asking for its
  address. -/
  | prepare (handle : Handle) (target : SocketAddress)
      (requests : List (SystemCall σ Unit))
  /-- Making the reader's view of the shutdown. -/
  | watchReader (link : Link)
  | startReader (link : Link) (informed : Bool)
  | watchWriter (link : Link)
  | startWriter (link : Link) (informed : Bool)

/-- Where the one who closes stands, just before the next step. -/
inductive Session.Closing where
  | idle
  | signalling
  /-- Looking which links are cached. -/
  | surveying
  /-- Marking the links that are left as inactive, then emptying the cache. -/
  | marking (links : List (Issued Link))
  /-- Running the hook of a link that became inactive. -/
  | hooking (link : Issued Link) (links : List (Issued Link))
  | stopping
  | returning
  | returned
  deriving DecidableEq, Repr

/-- What was cached when the transport was closed. -/
structure Session.Survey where
  links : List (Issued Link)
  /-- The number of links issued by then. -/
  issued : Nat
  deriving DecidableEq, Repr

/-- A transport with those who use it. -/
structure Session (σ η : Type) where
  /-- The transport but for its cache. -/
  transport : Transport η
  calls : Calls Link
  resources : Resources σ
  dial : CallerId → Dial σ
  /-- The address of each channel, for its hook. -/
  homes : List (Handle × Address)
  tasks : List Task
  signalled : Bool
  halted : Bool
  closing : Session.Closing
  survey : Option Session.Survey
  /-- What those who opened links got. -/
  returned : List (CallerId × Except Error (Issued Link))

/-- A step of somebody who uses the transport, or of a task. -/
inductive Session.Action where
  | openLink (address : Address)
  | turn (caller : CallerId)
  | dial (caller : CallerId)
  | resume (caller : CallerId)
  | judge (caller : CallerId)
  | handOut (caller : CallerId)
  | get (address : Address)
  | write (link : Issued Link)
  | finish (position : Nat) (cause : Task.Cause)
  | hook (position : Nat)
  | close
  deriving DecidableEq, Repr

namespace Session

variable {σ η : Type}

def start (config : TransportConfig) (host : String) (listener : Bound)
    (workers : WorkerPools) (resources : Resources σ) : Session σ η :=
  { transport := .assemble config host listener workers
    calls := .start
    resources := resources
    dial := fun _ => .check
    homes := []
    tasks := []
    signalled := false
    halted := false
    closing := .idle
    survey := none
    returned := [] }

def isActive (session : Session σ η) (link : Issued Link) : Bool :=
  session.transport.isActive link.link

def call (session : Session σ η) (action : Calls.Action Link) :
    Session σ η :=
  { session with calls := session.calls.step action }

def mark (session : Session σ η) (handle : Handle) : Session σ η :=
  { session with transport := session.transport.markInactive handle }

/-- Runs the hook of a channel: evicts the link of its address if that is
inactive. -/
def runHook (session : Session σ η) (handle : Handle) : Session σ η :=
  match session.homes.lookup handle with
  | some address =>
      session.call (.evictIf address fun link => !session.isActive link)
  | none => session

/-- Starts a task, unless the threads have stopped. -/
def spawn (session : Session σ η) (handle : Handle) (kind : Task.Kind)
    (informed : Bool) : Session σ η :=
  { session with
    tasks := session.tasks ++
      [⟨handle, kind, informed,
        if session.halted then .dropped else .waiting⟩] }

def moveTask (session : Session σ η) (position : Nat) (task : Task)
    (phase : Task.Phase) : Session σ η :=
  { session with
    tasks := session.tasks.set position { task with phase := phase } }

def finish (session : Session σ η) (position : Nat) (cause : Task.Cause) :
    Session σ η :=
  match session.tasks[position]? with
  | none => session
  | some task =>
      if task.phase = .waiting ∧
          (cause = .shutdown → task.informed ∧ session.signalled) then
        match task.kind.marks cause with
        | none => session
        | some false => session.moveTask position task (.ended false)
        | some true =>
            (session.mark task.handle).moveTask position task
              (if task.handle ∈ session.transport.inactive then .ended true
                else .hooking)
      else session

def hook (session : Session σ η) (position : Nat) : Session σ η :=
  match session.tasks[position]? with
  | none => session
  | some task =>
      if task.phase = .hooking then
        (session.runHook task.handle).moveTask position task (.ended true)
      else session

/-- Somebody writes a message on a link.  If the link is ordered, its queue takes
the message. -/
def write (session : Session σ η) (link : Issued Link) : Session σ η :=
  if session.calls.cache.references.any (·.stored = some link) ∧
      !link.link.ordered then
    session.spawn link.link.handle .message false
  else session

def proceed (session : Session σ η) (id : CallerId) (dial : Dial σ) :
    Session σ η :=
  { session with
    dial := fun other => if other = id then dial else session.dial other }

def settle (session : Session σ η) (id : CallerId) (attempt : Attempt Link) :
    Session σ η :=
  (session.proceed id .check).call (.connected id attempt)

/-- What is left of an attempt after a system call. -/
def use (session : Session σ η) (resources : Resources σ) : Session σ η :=
  { session with resources := resources }

/-- Keeps the socket of a new link.  If the threads have stopped, they have
dropped both halves of it, except for the half that an unordered link keeps. -/
def keep (os : OperatingSystem σ) (session : Session σ η) (link : Link) :
    Session σ η :=
  if session.halted ∧ link.ordered then
    session.use (session.resources.close os link.handle)
  else
    { session with
      transport := session.transport.keepChannel (.connected link) }

/-- The next step of an attempt to connect to an address. -/
def connect (os : OperatingSystem σ) (names : NameService)
    (session : Session σ η) (id : CallerId) (address : Address) :
    Session σ η :=
  match session.dial id with
  | .check =>
      if session.transport.closed then
        session.settle id (.failed Transport.closedError)
      else session.proceed id .resolve
  | .resolve =>
      match address.resolve names with
      | .error error => session.settle id (.failed error)
      | .ok target => session.proceed id (.create target)
  | .create target =>
      match session.resources.create os with
      | (.error error, resources) =>
          (session.use resources).settle id (.failed error)
      | (.ok handle, resources) =>
          (session.use resources).proceed id (.prepare handle target
            (session.transport.config.socket.connecting os target handle))
  | .prepare handle target (request :: requests) =>
      match session.resources.call request with
      | (.error error, resources) =>
          (session.use (resources.close os handle)).settle id (.failed error)
      | (.ok _, resources) =>
          (session.use resources).proceed id (.prepare handle target requests)
  | .prepare handle target [] =>
      match session.resources.call (os.localAddress handle) with
      | (.error error, resources) =>
          (session.use (resources.close os handle)).settle id (.failed error)
      | (.ok own, resources) =>
          { (session.use resources).proceed id
              (.watchReader (session.transport.linkOver handle own target)) with
            homes := (handle, address) :: session.homes }
  | .watchReader link =>
      session.proceed id (.startReader link !session.signalled)
  | .startReader link informed =>
      (session.spawn link.handle .reader informed).proceed id
        (.watchWriter link)
  | .watchWriter link =>
      session.proceed id (.startWriter link !session.signalled)
  | .startWriter link informed =>
      let session :=
        if link.ordered then session.spawn link.handle .queue informed
        else session
      (session.keep os link).settle id (.connected link)

/-- The attempt of a caller takes its next step, if it connects. -/
def dialOn (os : OperatingSystem σ) (names : NameService)
    (session : Session σ η) (id : CallerId) : Session σ η :=
  match session.calls.callers[id]? with
  | some caller =>
      if caller.phase matches .connecting _ then
        session.connect os names id caller.address
      else session
  | none => session

def openLink (session : Session σ η) (address : Address) : Session σ η :=
  if session.transport.closed then session
  else session.call (.call address session.transport.config.retry true)

def judge (session : Session σ η) (id : CallerId) : Session σ η :=
  match session.calls.callers[id]?.map Caller.phase with
  | some (.judging link) => session.call (.judged id (session.isActive link))
  | _ => session

/-- A caller that has ended hands out what it got. -/
def handOut (session : Session σ η) (id : CallerId) : Session σ η :=
  match Transport.outcome session.transport.closed
      (session.calls.callers[id]?.bind Caller.result?) with
  | some outcome =>
      { session with returned := session.returned ++ [(id, outcome)] }
  | none => session

def halt (os : OperatingSystem σ) (session : Session σ η) : Session σ η :=
  { session with
    resources := session.transport.workers.stop
      (session.resources.closeAll os
        (session.transport.listener.handle :: session.transport.channels))
    tasks := session.tasks.map fun task =>
      if task.phase = .waiting then { task with phase := .dropped } else task
    halted := true }

def goOn (session : Session σ η) (closing : Closing) : Session σ η :=
  { session with closing := closing }

def close (os : OperatingSystem σ) (session : Session σ η) : Session σ η :=
  match session.closing with
  | .idle =>
      { session with
        transport := { session.transport with closed := true } }.goOn
          .signalling
  | .signalling => { session with signalled := true }.goOn .surveying
  | .surveying =>
      let links := session.calls.cache.links
      { session with
        survey := some ⟨links, session.calls.cache.issued⟩ }.goOn
          (.marking links)
  | .marking (link :: links) =>
      (session.mark link.link.handle).goOn
        (if session.isActive link then .hooking link links
          else .marking links)
  | .hooking link links =>
      (session.runHook link.link.handle).goOn (.marking links)
  | .marking [] => (session.call .clear).goOn .stopping
  | .stopping => (session.halt os).goOn .returning
  | .returning => session.goOn .returned
  | .returned => session

def step (os : OperatingSystem σ) (names : NameService)
    (session : Session σ η) : Action → Session σ η
  | .openLink address => session.openLink address
  | .turn id => session.call (.turn id)
  | .dial id => session.dialOn os names id
  | .resume id => session.call (.resumed id)
  | .judge id => session.judge id
  | .handOut id => session.handOut id
  | .get address => session.call (.get address)
  | .write link => session.write link
  | .finish position cause => session.finish position cause
  | .hook position => session.hook position
  | .close => session.close os

def run (os : OperatingSystem σ) (names : NameService)
    (session : Session σ η) (actions : List Action) : Session σ η :=
  actions.foldl (step os names) session

end Session

end RemoteMessaging
