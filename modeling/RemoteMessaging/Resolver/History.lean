import RemoteMessaging.Resolver.Descriptor

/-!
# What is asked of a resolver over time

A resolver is asked to resolve the local address and to describe itself, again and
again.  In between anything may happen to the names, the environment and the files.
-/

namespace RemoteMessaging

namespace Resolver

/-- What a resolver can be asked to do. -/
inductive Request where
  | resolve
  | describe
  deriving DecidableEq, Repr

/-- A request, with what the resolver finds around it at that time. -/
structure Call where
  request : Request
  around : Surroundings

/-- What a resolver says to a request. -/
inductive Answer where
  | resolved (outcome : Except Error String)
  | described (outcome : Except Error ResolverDescriptor)

def answer (resolver : Resolver) (call : Call) : Answer × Resolver :=
  match call.request with
  | .resolve =>
      let (outcome, resolver) := resolver.resolve call.around
      (.resolved outcome, resolver)
  | .describe => (.described (resolver.descriptor call.around), resolver)

def after (resolver : Resolver) (calls : List Call) : Resolver :=
  calls.foldl (fun resolver call => (resolver.answer call).2) resolver

/-- What was around the resolver whenever it had to resolve its address. -/
def looks (calls : List Call) : List Surroundings :=
  calls.filterMap fun call =>
    match call.request with
    | .resolve => some call.around
    | .describe => none

end Resolver

end RemoteMessaging
