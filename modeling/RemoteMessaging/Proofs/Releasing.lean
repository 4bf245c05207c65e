import RemoteMessaging.Transport.Basic

/-!
# What failed operations leave behind

Sockets and pools are numbered in the order in which they are made, so what an
operation has made lies at or beyond the number at which it began.  An operation
that succeeds holds what it returns, and one that fails holds nothing more than
there was before; what is older stays in any case.
-/

namespace RemoteMessaging

variable {σ η α : Type}

namespace Resources

/-- From one account to a later one, no more has come in than given sockets and pools,
all of which are new, and nothing older has gone. -/
structure GrowsBy (before after : Resources σ) (opened : List Handle)
    (started : List Pool) : Prop where
  made : before.made ≤ after.made
  sockets : after.sockets ⊆ opened ++ before.sockets
  newSockets : ∀ handle ∈ opened, before.made ≤ handle
  oldSockets : ∀ handle ∈ before.sockets, handle < before.made →
    handle ∈ after.sockets
  pools : after.pools ⊆ started ++ before.pools
  newPools : ∀ pool ∈ started, before.made ≤ pool.id
  oldPools : ∀ pool ∈ before.pools, pool.id < before.made →
    pool ∈ after.pools

/-- An operation ends with what it has made if it succeeds, and with nothing new if it
fails. -/
def AllOrNothing {ε : Type} (before : Resources σ) (opened : α → List Handle)
    (started : α → List Pool) : Except ε α × Resources σ → Prop
  | (.ok value, after) => GrowsBy before after (opened value) (started value)
  | (.error _, after) => GrowsBy before after [] []

namespace GrowsBy

variable {before middle after : Resources σ} {opened : List Handle}
variable {started : List Pool} {os : OperatingSystem σ}

theorem refl (resources : Resources σ) : GrowsBy resources resources [] [] where
  made := Nat.le_refl _
  sockets := List.Subset.refl _
  newSockets := by simp
  oldSockets _ member _ := member
  pools := List.Subset.refl _
  newPools := by simp
  oldPools _ member _ := member

theorem call (grows : GrowsBy before middle opened started)
    {request : SystemCall σ α} {outcome : Except IoError α}
    (asked : middle.call request = (outcome, after)) :
    GrowsBy before after opened started := by
  obtain ⟨-, rfl⟩ := Prod.mk.inj asked
  exact { grows with }

theorem close {handle : Handle}
    (grows : GrowsBy before middle (handle :: opened) started) :
    GrowsBy before (middle.close os handle) opened started := by
  obtain ⟨new, others⟩ := List.forall_mem_cons.mp grows.newSockets
  refine { grows with sockets := ?_, newSockets := others, oldSockets := ?_ }
  · intro other member
    obtain ⟨among, different⟩ := List.mem_filter.mp member
    exact (List.mem_cons.mp (grows.sockets among)).resolve_left
      (of_decide_eq_true different)
  · intro other member old
    have different : other ≠ handle :=
      Nat.ne_of_lt (Nat.lt_of_lt_of_le old new)
    exact List.mem_filter.mpr ⟨grows.oldSockets other member old,
      decide_eq_true different⟩

theorem stopPools (grows : GrowsBy before middle opened started) :
    GrowsBy before (middle.stopPools started) opened [] := by
  refine { grows with pools := ?_, newPools := by simp, oldPools := ?_ }
  · intro pool member
    obtain ⟨among, apart⟩ := List.mem_filter.mp member
    exact (List.mem_append.mp (grows.pools among)).resolve_left
      (of_decide_eq_true apart)
  · intro pool member old
    have apart : pool ∉ started := fun among =>
      Nat.not_lt_of_le (grows.newPools pool among) old
    exact List.mem_filter.mpr ⟨grows.oldPools pool member old,
      decide_eq_true apart⟩

theorem startPool (grows : GrowsBy before middle opened started)
    {name : String} {threads : UInt64} :
    GrowsBy before
      { middle with
        made := middle.made + 1
        pools := middle.pools ++ [⟨middle.made, name, threads⟩] }
      opened (started ++ [⟨middle.made, name, threads⟩]) where
  made := Nat.le_succ_of_le grows.made
  sockets := grows.sockets
  newSockets := grows.newSockets
  oldSockets := grows.oldSockets
  pools := by
    intro pool member
    simp only [List.append_assoc, List.mem_append] at member ⊢
    rcases member with among | now
    · rcases List.mem_append.mp (grows.pools among) with new | old
      · exact .inl new
      · exact .inr (.inr old)
    · exact .inr (.inl now)
  newPools := by
    intro pool member
    rcases List.mem_append.mp member with among | now
    · exact grows.newPools pool among
    · obtain rfl := List.mem_singleton.mp now
      exact grows.made
  oldPools pool member old :=
    List.mem_append_left _ (grows.oldPools pool member old)

theorem trans (grows : GrowsBy before middle [] [])
    (later : GrowsBy middle after opened started) :
    GrowsBy before after opened started where
  made := Nat.le_trans grows.made later.made
  sockets := List.Subset.trans later.sockets
    (List.append_subset.mpr ⟨List.subset_append_left _ _,
      List.subset_append_of_subset_right _ grows.sockets⟩)
  newSockets handle member :=
    Nat.le_trans grows.made (later.newSockets handle member)
  oldSockets handle member old := later.oldSockets handle
    (grows.oldSockets handle member old) (Nat.lt_of_lt_of_le old grows.made)
  pools := List.Subset.trans later.pools
    (List.append_subset.mpr ⟨List.subset_append_left _ _,
      List.subset_append_of_subset_right _ grows.pools⟩)
  newPools pool member := Nat.le_trans grows.made (later.newPools pool member)
  oldPools pool member old := later.oldPools pool
    (grows.oldPools pool member old) (Nat.lt_of_lt_of_le old grows.made)

end GrowsBy

theorem allOrNothing_create (os : OperatingSystem σ) (resources : Resources σ) :
    AllOrNothing resources (fun handle => [handle]) (fun _ => [])
      (resources.create os) := by
  simp only [create]
  split
  · rename_i asked
    exact (GrowsBy.refl resources).call asked
  · rename_i middle asked
    have grows := (GrowsBy.refl resources).call asked
    refine { grows with made := Nat.le_succ _, sockets := ?_, newSockets := ?_
                        oldSockets := ?_ }
    · exact List.cons_subset_cons _ grows.sockets
    · simp
    · exact fun handle member old =>
        List.mem_cons_of_mem _ (grows.oldSockets handle member old)

theorem GrowsBy.prepare {before middle : Resources σ} (os : OperatingSystem σ)
    {handle : Handle} (grows : GrowsBy before middle [handle] [])
    (requests : List (SystemCall σ Unit)) :
    AllOrNothing before (fun _ => [handle]) (fun _ => [])
      (middle.prepare os handle requests) := by
  induction requests generalizing middle with
  | nil => exact grows
  | cons request requests induction =>
      unfold Resources.prepare
      split
      · rename_i asked
        exact induction (grows.call asked)
      · rename_i asked
        exact (grows.call asked).close

theorem allOrNothing_openSocket (os : OperatingSystem σ)
    (requests : Handle → List (SystemCall σ Unit)) (resources : Resources σ) :
    AllOrNothing resources (fun opened => [opened.1]) (fun _ => [])
      (resources.openSocket os requests) := by
  have creates := allOrNothing_create os resources
  unfold openSocket
  split
  · rename_i made
    rwa [made] at creates
  · rename_i handle middle made
    rw [made] at creates
    have prepares := GrowsBy.prepare os creates (requests handle)
    split
    · rename_i prepared
      rwa [prepared] at prepares
    · rename_i prepared
      rw [prepared] at prepares
      split
      · rename_i asked
        exact (GrowsBy.call prepares asked).close
      · rename_i asked
        exact GrowsBy.call prepares asked

theorem GrowsBy.startPools {before middle : Resources σ} {opened : List Handle}
    {started : List Pool} (os : OperatingSystem σ)
    (grows : GrowsBy before middle opened started)
    (plan : List (String × UInt64)) :
    (∃ running after, middle.startPools os started plan = (.ok running, after) ∧
      GrowsBy before after opened running) ∨
    ∃ error after, middle.startPools os started plan = (.error error, after) ∧
      GrowsBy before after opened [] := by
  induction plan generalizing middle started with
  | nil => exact .inl ⟨started, middle, rfl, grows⟩
  | cons entry plan induction =>
      cases asked : middle.call (os.startPool entry.1 entry.2) with
      | mk outcome ready =>
      have grows' := grows.call asked
      cases outcome with
      | ok answer =>
          rw [Resources.startPools, asked]
          exact induction grows'.startPool
      | error error =>
          right
          refine ⟨error, ready.stopPools started, ?_, grows'.stopPools⟩
          rw [Resources.startPools, asked]

end Resources

namespace Binder

theorem allOrNothing_bindPort (binder : Binder) (os : OperatingSystem σ)
    (port : Port) (resources : Resources σ) :
    resources.AllOrNothing (fun bound => [bound.handle]) (fun _ => [])
      (binder.bindPort os port resources) := by
  have opens := resources.allOrNothing_openSocket os
    (binder.options.listening os ⟨binder.host, port⟩)
  unfold bindPort Resources.listen
  split
  all_goals
    rename_i opened
    rwa [opened] at opens

/-- Of all candidates that were probed, none leaves a socket but the last. -/
theorem allOrNothing_scan (binder : Binder) (os : OperatingSystem σ)
    (tried : Nat) (candidates : List Port) (resources : Resources σ) :
    resources.AllOrNothing (fun bound => [bound.handle]) (fun _ => [])
      (binder.scan os tried candidates resources) := by
  induction candidates generalizing tried resources with
  | nil => exact Resources.GrowsBy.refl resources
  | cons port candidates induction =>
      have binds := binder.allOrNothing_bindPort os port resources
      unfold scan
      split
      · rename_i made
        rwa [made] at binds
      · rename_i error middle made
        rw [made] at binds
        split
        · have scans := induction (tried + 1) middle
          generalize binder.scan os (tried + 1) candidates middle = scanned
            at scans
          obtain ⟨outcome, after⟩ := scanned
          cases outcome with
          | ok bound => exact binds.trans scans
          | error error => exact binds.trans scans
        · exact binds

theorem allOrNothing_bind (binder : Binder) (os : OperatingSystem σ)
    (requested : Port) (resources : Resources σ) :
    resources.AllOrNothing (fun bound => [bound.handle]) (fun _ => [])
      (binder.bind os requested resources) := by
  unfold bind
  split
  · have binds := binder.allOrNothing_bindPort os requested resources
    split
    all_goals
      rename_i made
      rwa [made] at binds
  · exact binder.allOrNothing_scan os 0 _ resources

end Binder

/-- Whatever stops it, binding a transport leaves nothing behind; a transport that is
bound holds no more than its listener and its pools. -/
theorem Transport.allOrNothing_bind (os : OperatingSystem σ)
    (config : TransportConfig) (resolved : Except Error String)
    (resources : Resources σ) :
    resources.AllOrNothing (fun transport => [transport.listener.handle])
      (fun transport => transport.workers.pools)
      (bind os config resolved resources :
        Except Error (Transport η) × Resources σ) := by
  unfold bind
  split
  · exact Resources.GrowsBy.refl resources
  rename_i host ip chosen
  have listens := Binder.allOrNothing_bind
    ⟨ip, config.portAllocator, config.socket⟩ os config.listenPort resources
  dsimp only
  split
  · rename_i failed
    rwa [failed] at listens
  rename_i bound listening made
  rw [made] at listens
  have starts := Resources.GrowsBy.startPools os listens
    (WorkerPools.plan s!"remote-{bound.address.port}" config.pools)
  unfold WorkerPools.start
  obtain ⟨running, after, started, grows⟩ | ⟨error, after, failed, grows⟩ :=
    starts
  · simp only [started]
    split
    · rename_i asked
      exact (grows.call asked).close.stopPools
    · rename_i asked
      exact grows.call asked
  · simp only [failed]
    exact grows.close

end RemoteMessaging
