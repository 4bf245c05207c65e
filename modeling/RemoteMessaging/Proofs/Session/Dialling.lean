import RemoteMessaging.Transport.Session

/-!
# What a step of an attempt does

An attempt to connect gets a socket, keeps it for its link, and hands that out
in the end, or it fails on the way.
-/

namespace RemoteMessaging

variable {σ η : Type}

def Dial.handle? : Dial σ → Option Handle
  | .prepare handle _ _ => some handle
  | .watchReader link | .startReader link _ => some link.handle
  | .watchWriter link | .startWriter link _ => some link.handle
  | _ => none

def Dial.link? : Dial σ → Option Link
  | .watchReader link | .startReader link _ => some link
  | .watchWriter link | .startWriter link _ => some link
  | _ => none

theorem Dial.handle?_of_link? {dial : Dial σ} {link : Link}
    (has : dial.link? = some link) : dial.handle? = some link.handle := by
  cases dial <;> simp_all [link?, handle?]

theorem Dial.link?_of_handle? {dial : Dial σ} (bare : dial.handle? = none) :
    dial.link? = none := by
  cases dial <;> simp_all [link?, handle?]

namespace Resources

variable {α : Type} {resources after : Resources σ}

theorem made_of_call {request : SystemCall σ α} {outcome : Except IoError α}
    (asked : resources.call request = (outcome, after)) :
    after.made = resources.made := by
  obtain ⟨-, rfl⟩ := Prod.mk.inj asked
  rfl

theorem made_of_create_error {os : OperatingSystem σ} {error : IoError}
    (failed : resources.create os = (.error error, after)) :
    after.made = resources.made := by
  simp only [create] at failed
  split at failed
  · rename_i asked
    obtain ⟨-, rfl⟩ := Prod.mk.inj failed
    exact made_of_call asked
  · simp at failed

theorem made_of_create {os : OperatingSystem σ} {handle : Handle}
    (made : resources.create os = (.ok handle, after)) :
    handle = resources.made ∧ after.made = resources.made + 1 := by
  simp only [create] at made
  split at made
  · simp at made
  · obtain ⟨equal, rfl⟩ := Prod.mk.inj made
    exact ⟨(Except.ok.inj equal).symm, rfl⟩

end Resources

namespace Session

@[simp] theorem dial_proceed (session : Session σ η) (id : CallerId)
    (dial : Dial σ) : (session.proceed id dial).dial id = dial := by
  simp [proceed]

@[simp] theorem dial_settle (session : Session σ η) (id : CallerId)
    (attempt : Attempt Link) : (session.settle id attempt).dial id = .check :=
  session.dial_proceed id .check

@[simp] theorem calls_keep (os : OperatingSystem σ) (session : Session σ η)
    (link : Link) : (session.keep os link).calls = session.calls := by
  unfold keep
  split <;> rfl

@[simp] theorem dial_keep (os : OperatingSystem σ) (session : Session σ η)
    (link : Link) : (session.keep os link).dial = session.dial := by
  unfold keep
  split <;> rfl

@[simp] theorem made_keep (os : OperatingSystem σ) (session : Session σ η)
    (link : Link) :
    (session.keep os link).resources.made = session.resources.made := by
  unfold keep
  split <;> rfl

@[simp] theorem closed_keep (os : OperatingSystem σ) (session : Session σ η)
    (link : Link) :
    (session.keep os link).transport.closed = session.transport.closed := by
  unfold keep
  split <;> rfl

/-- What a session may be after an attempt has taken its next step. -/
inductive Attempts (os : OperatingSystem σ) (session : Session σ η)
    (id : CallerId) (address : Address) : Session σ η → Prop where
  | failed (resources : Resources σ) (error : IoError)
      (made : resources.made = session.resources.made) :
      Attempts os session id address
        ((session.use resources).settle id (.failed error))
  | began {dial : Dial σ} (bare : dial.handle? = none) :
      Attempts os session id address (session.proceed id dial)
  | created (resources : Resources σ) (target : SocketAddress)
      (requests : List (SystemCall σ Unit))
      (made : resources.made = session.resources.made + 1) :
      Attempts os session id address ((session.use resources).proceed id
        (.prepare session.resources.made target requests))
  | prepared (resources : Resources σ) {handle : Handle}
      {target : SocketAddress} {request : SystemCall σ Unit}
      {requests : List (SystemCall σ Unit)}
      (stage : session.dial id = .prepare handle target (request :: requests))
      (made : resources.made = session.resources.made) :
      Attempts os session id address
        ((session.use resources).proceed id (.prepare handle target requests))
  | registered (resources : Resources σ) {handle : Handle}
      {target : SocketAddress} (own : SocketAddress)
      (stage : session.dial id = .prepare handle target [])
      (made : resources.made = session.resources.made) :
      Attempts os session id address
        { (session.use resources).proceed id
            (.watchReader (session.transport.linkOver handle own target)) with
          homes := (handle, address) :: session.homes }
  | watched {link : Link} {dial : Dial σ}
      (stage : (session.dial id).link? = some link)
      (same : dial.link? = some link) :
      Attempts os session id address (session.proceed id dial)
  | started {link : Link} {informed : Bool}
      (stage : session.dial id = .startReader link informed) :
      Attempts os session id address
        ((session.spawn link.handle .reader informed).proceed id
          (.watchWriter link))
  | connected {link : Link} {informed : Bool}
      (stage : session.dial id = .startWriter link informed) :
      Attempts os session id address
        (((if link.ordered then session.spawn link.handle .queue informed
          else session).keep os link).settle id (.connected link))

theorem attempts_connect (os : OperatingSystem σ) (names : NameService)
    (session : Session σ η) (id : CallerId) (address : Address) :
    Attempts os session id address (session.connect os names id address) := by
  unfold connect
  cases stage : session.dial id with
  | check =>
      simp only
      split
      · exact .failed session.resources _ rfl
      · exact .began rfl
  | resolve =>
      simp only
      split
      · exact .failed session.resources _ rfl
      · exact .began rfl
  | create target =>
      simp only
      split
      · rename_i failed
        exact .failed _ _ (Resources.made_of_create_error failed)
      · rename_i made
        obtain ⟨rfl, grown⟩ := Resources.made_of_create made
        exact .created _ target _ grown
  | prepare handle target requests =>
      cases requests with
      | nil =>
          simp only
          split
          · rename_i error resources asked
            have made : resources.made = session.resources.made :=
              Resources.made_of_call asked
            exact .failed (resources.close os handle) error made
          · rename_i own resources asked
            exact .registered _ own stage (Resources.made_of_call asked)
      | cons request requests =>
          simp only
          split
          · rename_i error resources asked
            have made : resources.made = session.resources.made :=
              Resources.made_of_call asked
            exact .failed (resources.close os handle) error made
          · rename_i asked
            exact .prepared _ stage (Resources.made_of_call asked)
  | watchReader link => exact .watched (by rw [stage]; rfl) rfl
  | startReader link informed => exact .started stage
  | watchWriter link => exact .watched (by rw [stage]; rfl) rfl
  | startWriter link informed => exact .connected stage

end Session

end RemoteMessaging
