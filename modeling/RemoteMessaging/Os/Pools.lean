import RemoteMessaging.Config.Basic
import RemoteMessaging.Os.Resources

/-!
# The thread pools of a transport

Accepting connections, serving inbound channels and serving outbound channels
have threads of their own, so that none of the three waits for another.
-/

namespace RemoteMessaging

/-- The three pools of a transport. -/
structure WorkerPools where
  pools : List Pool
  deriving DecidableEq, Repr

namespace WorkerPools

variable {σ : Type}

def plan (name : String) (sizes : PoolSizes) : List (String × UInt64) :=
  [(s!"{name}-boss", sizes.serverBoss), (s!"{name}-server", sizes.serverWorker),
    (s!"{name}-client", sizes.clientWorker)]

/-- Starts the pools, all of them or none. -/
def start (os : OperatingSystem σ) (name : String) (sizes : PoolSizes)
    (resources : Resources σ) : Except IoError WorkerPools × Resources σ :=
  match resources.startPools os [] (plan name sizes) with
  | (.error error, resources) => (.error error, resources)
  | (.ok pools, resources) => (.ok ⟨pools⟩, resources)

def stop (workers : WorkerPools) (resources : Resources σ) : Resources σ :=
  resources.stopPools workers.pools

def aliveThreads (workers : WorkerPools) (resources : Resources σ) : Nat :=
  resources.aliveThreads workers.pools

def describe (workers : WorkerPools) (resources : Resources σ) : String :=
  Text.record "WorkerPools"
    [("alive_threads", toString (workers.aliveThreads resources))]

end WorkerPools

end RemoteMessaging
