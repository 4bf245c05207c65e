import RemoteMessaging.Config.Basic
import RemoteMessaging.Os.Resources

/-!
# Sockets of a transport

How listening and connecting sockets are made from the socket options of a
configuration.
-/

namespace RemoteMessaging

namespace SocketOptions

/-- The largest backlog that the operating system takes. -/
def maxBacklog : UInt32 := 0x7fffffff

/-- The calls for a listening socket. -/
def listening {σ : Type} (options : SocketOptions) (os : OperatingSystem σ)
    (address : SocketAddress) (handle : Handle) : List (SystemCall σ Unit) :=
  [os.setOption handle (.reuseAddress options.reuseAddress),
    os.setOption handle (.keepAlive options.keepAlive),
    os.bind handle address,
    os.listen handle (min options.backlog maxBacklog),
    os.setOption handle .nonBlocking]

/-- The calls for a connected socket. -/
def connecting {σ : Type} (options : SocketOptions) (os : OperatingSystem σ)
    (target : SocketAddress) (handle : Handle) : List (SystemCall σ Unit) :=
  [os.setOption handle (.reuseAddress options.reuseAddress),
    os.setOption handle (.keepAlive options.keepAlive),
    os.connect handle target options.connectTimeout,
    os.setOption handle .noDelay,
    os.setOption handle .nonBlocking,
    os.register handle]

end SocketOptions

namespace Resources

variable {σ : Type}

def listen (os : OperatingSystem σ) (options : SocketOptions)
    (address : SocketAddress) (resources : Resources σ) :
    Except IoError (Handle × SocketAddress) × Resources σ :=
  resources.openSocket os (options.listening os address)

def connect (os : OperatingSystem σ) (options : SocketOptions)
    (target : SocketAddress) (resources : Resources σ) :
    Except IoError (Handle × SocketAddress) × Resources σ :=
  resources.openSocket os (options.connecting os target)

end Resources

end RemoteMessaging
