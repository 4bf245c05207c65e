import RemoteMessaging.Proofs.Session.Steps

/-!
# Connecting and closing without others

Whoever connects or closes while nobody else takes a step does in several steps
what `connect` and `close` of a transport do at once.
-/

namespace RemoteMessaging.Session

variable {σ η : Type}

theorem run_replicate_add (os : OperatingSystem σ) (names : NameService)
    (session : Session σ η) (action : Action) (first second : Nat) :
    session.run os names (List.replicate (first + second) action) =
      (session.run os names (List.replicate first action)).run os names
        (List.replicate second action) := by
  rw [← List.replicate_append_replicate]
  exact List.foldl_append

/-- An attempt is over, and nothing else has changed. -/
structure Settled (session : Session σ η) (id : CallerId)
    (result : Attempt Link × Resources σ) (next : Session σ η) : Prop where
  calls : next.calls = session.calls.step (.connected id result.1)
  resources : next.resources = result.2
  transport : next.transport = session.transport.keepChannel result.1

/-- An attempt comes to its end by steps of its own. -/
def Dials (os : OperatingSystem σ) (names : NameService)
    (session : Session σ η) (id : CallerId)
    (result : Attempt Link × Resources σ) : Prop :=
  ∃ count, Settled session id result
    (session.run os names (List.replicate count (.dial id)))

/-- What comes of a socket by the calls that are left. -/
def prepared (os : OperatingSystem σ) (transport : Transport η)
    (handle : Handle) (target : SocketAddress)
    (requests : List (SystemCall σ Unit)) (resources : Resources σ) :
    Attempt Link × Resources σ :=
  match resources.prepare os handle requests with
  | (.error error, resources) => (.failed error, resources)
  | (.ok _, resources) =>
      match resources.call (os.localAddress handle) with
      | (.error error, resources) =>
          (.failed error, resources.close os handle)
      | (.ok own, resources) =>
          (.connected (transport.linkOver handle own target), resources)

def Connects (session : Session σ η) (id : CallerId) (address : Address) :
    Prop :=
  ∃ caller reference, session.calls.callers[id]? = some caller ∧
    caller.phase = .connecting reference ∧ caller.address = address

namespace Connects

variable {os : OperatingSystem σ} {names : NameService}
variable {session : Session σ η} {id : CallerId} {address : Address}

theorem proceed (connects : Connects session id address) (dial : Dial σ) :
    Connects (session.proceed id dial) id address :=
  connects

theorem step_dial (connects : Connects session id address) :
    session.step os names (.dial id) =
      session.connect os names id address := by
  obtain ⟨caller, reference, found, phase, rfl⟩ := connects
  simp [step, dialOn, found, phase]

theorem last (connects : Connects session id address) (next : Session σ η)
    (takes : session.connect os names id address = next)
    {result : Attempt Link × Resources σ}
    (ends : Settled session id result next) :
    Dials os names session id result := by
  refine ⟨1, ?_⟩
  have once : session.run os names [.dial id] = next :=
    connects.step_dial.trans takes
  exact once ▸ ends

theorem next (connects : Connects session id address) (next : Session σ η)
    (takes : session.connect os names id address = next)
    (calls : next.calls = session.calls)
    (transport : next.transport = session.transport)
    {result : Attempt Link × Resources σ}
    (rest : Dials os names next id result) :
    Dials os names session id result := by
  obtain ⟨count, ends⟩ := rest
  have more : session.run os names (List.replicate (count + 1) (.dial id)) =
      next.run os names (List.replicate count (.dial id)) := by
    rw [← takes, ← connects.step_dial]
    rfl
  refine ⟨count + 1, ?_, ?_, ?_⟩
  · rw [more, ends.calls, calls]
  · rw [more, ends.resources]
  · rw [more, ends.transport, transport]

theorem startWriter (connects : Connects session id address) {link : Link}
    {informed : Bool} (running : session.halted = false)
    (stage : session.dial id = .startWriter link informed) :
    Dials os names session id (.connected link, session.resources) := by
  apply connects.last _ rfl
  unfold connect
  simp only [stage]
  split <;> simp only [keep, spawn, running] <;> exact ⟨rfl, rfl, rfl⟩

theorem watchWriter (connects : Connects session id address) {link : Link}
    (running : session.halted = false)
    (stage : session.dial id = .watchWriter link) :
    Dials os names session id (.connected link, session.resources) := by
  refine connects.next
    (session.proceed id (.startWriter link !session.signalled))
    (by simp only [connect, stage]) rfl rfl ?_
  exact startWriter (connects.proceed _) running (dial_proceed session id _)

theorem startReader (connects : Connects session id address) {link : Link}
    {informed : Bool} (running : session.halted = false)
    (stage : session.dial id = .startReader link informed) :
    Dials os names session id (.connected link, session.resources) := by
  have spawned : Connects (session.spawn link.handle .reader informed) id
      address := connects
  refine connects.next
    ((session.spawn link.handle .reader informed).proceed id
      (.watchWriter link))
    (by simp only [connect, stage]) rfl rfl ?_
  exact watchWriter (spawned.proceed _) running (dial_proceed _ id _)

theorem watchReader (connects : Connects session id address) {link : Link}
    (running : session.halted = false)
    (stage : session.dial id = .watchReader link) :
    Dials os names session id (.connected link, session.resources) := by
  refine connects.next
    (session.proceed id (.startReader link !session.signalled))
    (by simp only [connect, stage]) rfl rfl ?_
  exact startReader (connects.proceed _) running (dial_proceed session id _)

theorem fails (connects : Connects session id address) {error : IoError}
    {resources : Resources σ}
    (takes : session.connect os names id address =
      (session.use resources).settle id (.failed error)) :
    Dials os names session id (.failed error, resources) :=
  connects.last _ takes ⟨rfl, rfl, rfl⟩

theorem prepare (connects : Connects session id address)
    (running : session.halted = false) {handle : Handle}
    {target : SocketAddress} {requests : List (SystemCall σ Unit)}
    (stage : session.dial id = .prepare handle target requests) :
    Dials os names session id
      (prepared os session.transport handle target requests
        session.resources) := by
  induction requests generalizing session with
  | nil =>
      simp only [prepared, Resources.prepare]
      split
      · rename_i error resources asked
        exact connects.fails (by simp only [connect, stage, asked])
      · rename_i own resources asked
        let named : Session σ η :=
          { session.use resources with
            homes := (handle, address) :: session.homes }
        have connects' : Connects named id address := connects
        refine connects.next
          (named.proceed id
            (.watchReader (session.transport.linkOver handle own target)))
          (by simp only [connect, stage, asked]; rfl) rfl rfl ?_
        exact watchReader (connects'.proceed _) running (dial_proceed _ id _)
  | cons request requests induction =>
      cases asked : session.resources.call request with
      | mk outcome resources =>
          cases outcome with
          | error error =>
              simp only [prepared, Resources.prepare, asked]
              exact connects.fails (by simp only [connect, stage, asked])
          | ok _ =>
              simp only [prepared, Resources.prepare, asked]
              have connects' : Connects (session.use resources) id address :=
                connects
              refine connects.next
                ((session.use resources).proceed id
                  (.prepare handle target requests))
                (by simp only [connect, stage, asked]) rfl rfl ?_
              exact induction (connects'.proceed _) running
                (dial_proceed _ id _)

theorem create (connects : Connects session id address)
    (running : session.halted = false) {target : SocketAddress}
    (stage : session.dial id = .create target) :
    Dials os names session id
      (match session.resources.connect os session.transport.config.socket
          target with
        | (.error error, resources) => (.failed error, resources)
        | (.ok (handle, own), resources) =>
            (.connected (session.transport.linkOver handle own target),
              resources)) := by
  unfold Resources.connect Resources.openSocket
  cases made : session.resources.create os with
  | mk outcome resources =>
      cases outcome with
      | error error =>
          exact connects.fails (by simp only [connect, stage, made])
      | ok handle =>
          let requests :=
            session.transport.config.socket.connecting os target handle
          have connects' : Connects (session.use resources) id address :=
            connects
          have rest : Dials os names
              ((session.use resources).proceed id
                (.prepare handle target requests)) id
              (prepared os session.transport handle target requests
                resources) :=
            prepare (connects'.proceed _) running (dial_proceed _ id _)
          refine connects.next
            ((session.use resources).proceed id
              (.prepare handle target requests))
            (by simp only [connect, stage, made, requests]) rfl rfl ?_
          simp only [prepared] at rest
          cases readied : resources.prepare os handle requests with
          | mk outcome resources =>
              cases outcome with
              | error error => simpa only [readied, requests] using rest
              | ok _ =>
                  cases asked : resources.call (os.localAddress handle) with
                  | mk outcome resources =>
                      cases outcome <;>
                        simpa only [readied, asked, requests] using rest

/-- Alone, an attempt does by its steps what `connect` does at once. -/
theorem alone (connects : Connects session id address)
    (running : session.halted = false)
    (stage : session.dial id = .check) :
    Dials os names session id
      (session.transport.connect os names address session.resources) := by
  unfold Transport.connect
  split
  · rename_i closed
    exact connects.fails (by simp [connect, stage, closed, use])
  rename_i opened
  refine connects.next (session.proceed id .resolve)
    (by simp [connect, stage, opened]) rfl rfl ?_
  have connects' : Connects (session.proceed id .resolve) id address := connects
  split
  · rename_i error unresolved
    exact connects'.fails (by simp only [connect, dial_proceed, unresolved]; rfl)
  · rename_i target resolved
    refine connects'.next
      ((session.proceed id .resolve).proceed id (.create target))
      (by simp only [connect, dial_proceed, resolved]) rfl rfl ?_
    exact create (connects'.proceed _) running (dial_proceed _ id _)

end Connects

theorem clear_runHook (session : Session σ η) (handle : Handle) :
    (session.runHook handle).calls.cache.clear =
      session.calls.cache.clear := by
  unfold runHook
  split
  · simp only [call, Calls.step, Calls.evictIf, LinkCache.evictIf]
    split <;> rfl
  · rfl

/-- The links that are left are marked one after the other.  Their hooks remove
nothing that would not be removed anyway. -/
theorem marks_alone (os : OperatingSystem σ) (names : NameService)
    (session : Session σ η) {links : List (Issued Link)}
    (stage : session.closing = .marking links) :
    ∃ count, let next := session.run os names (List.replicate count .close)
      next.closing = .marking [] ∧
        next.transport = (links.map (·.link.handle)).foldl
          Transport.markInactive session.transport ∧
        next.resources = session.resources ∧
        next.calls.cache.clear = session.calls.cache.clear := by
  induction links generalizing session with
  | nil => exact ⟨0, stage, rfl, rfl, rfl⟩
  | cons link links induction =>
      let marked := session.mark link.link.handle
      cases active : session.isActive link with
      | false =>
          have once : session.run os names (List.replicate 1 .close) =
              marked.goOn (.marking links) := by
            simp [run, step, close, stage, active, marked]
          obtain ⟨count, ends⟩ := induction (marked.goOn (.marking links)) rfl
          refine ⟨count + 1, ?_⟩
          rw [Nat.add_comm, run_replicate_add, once]
          exact ends
      | true =>
          let hooking := marked.goOn (.hooking link links)
          let hooked := hooking.runHook link.link.handle
          have twice : session.run os names (List.replicate 2 .close) =
              hooked.goOn (.marking links) := by
            simp [run, step, close, stage, active, marked, hooking, hooked,
              goOn]
          have frame := runHook_eq hooking link.link.handle
          have same : hooked.transport =
              session.transport.markInactive link.link.handle := by
            rw [show hooked = _ from frame]
            rfl
          have kept : hooked.resources = session.resources := by
            rw [show hooked = _ from frame]
            rfl
          obtain ⟨count, ends, transport, resources, cleared⟩ :=
            induction (hooked.goOn (.marking links)) rfl
          refine ⟨count + 2, ?_⟩
          rw [Nat.add_comm, run_replicate_add, twice]
          refine ⟨ends, ?_, ?_, ?_⟩
          · rw [transport, List.map_cons, List.foldl_cons, ← same]
            rfl
          · exact resources.trans kept
          · exact cleared.trans (clear_runHook _ _)

theorem foldl_markInactive (transport : Transport η)
    (handles : List Handle) :
    handles.foldl Transport.markInactive transport =
      { transport with
        inactive := handles.foldl
          (fun inactive handle =>
            if handle ∈ inactive then inactive else handle :: inactive)
          transport.inactive } := by
  induction handles generalizing transport with
  | nil => rfl
  | cons handle handles induction =>
      rw [List.foldl_cons, induction]
      simp only [Transport.markInactive, List.foldl_cons]
      split <;> rfl

/-- Alone, closing does by its steps what `close` does at once. -/
theorem close_alone (os : OperatingSystem σ) (names : NameService)
    (session : Session σ η) (begins : session.closing = .idle)
    (opened : session.transport.closed = false) :
    ∃ count, let next := session.run os names (List.replicate count .close)
      next.closing = .returned ∧
        ({ next.transport with cache := next.calls.cache }, next.resources) =
          Transport.close os
            { session.transport with cache := session.calls.cache }
            session.resources := by
  let links := session.calls.cache.links
  let surveyed : Session σ η :=
    { session with
      transport := { session.transport with closed := true }
      signalled := true
      survey := some ⟨links, session.calls.cache.issued⟩
      closing := .marking links }
  have before : session.run os names (List.replicate 3 .close) = surveyed := by
    simp [run, step, close, begins, goOn, surveyed, links]
  obtain ⟨count, stage, transport, resources, cleared⟩ :=
    marks_alone os names surveyed rfl
  refine ⟨3 + count + 3, ?_⟩
  rw [run_replicate_add, run_replicate_add, before]
  generalize surveyed.run os names (List.replicate count .close) = marked at *
  have after : marked.run os names (List.replicate 3 .close) =
      (((marked.call .clear).halt os).goOn .returned) := by
    simp [run, step, close, stage, goOn, halt, call]
  rw [after]
  refine ⟨rfl, ?_⟩
  unfold Transport.close
  rw [if_neg (by simp [opened])]
  rw [foldl_markInactive] at transport
  have cache : marked.calls.cache.clear = session.calls.cache.clear := cleared
  simp only [foldl_markInactive, goOn, halt, call, Calls.step, transport,
    resources, cache, surveyed]
  rfl

end RemoteMessaging.Session
