import RemoteMessaging.Link.Cache

/-!
# What the steps on a cache change

A cache is seen through its references and through the entry of each address.
Steps on a reference change that reference alone; making and evicting entries
changes no reference.
-/

namespace RemoteMessaging

variable {Λ : Type}

theorem Reference.stored_claim (reference : Reference Λ) :
    reference.claim.2.stored = reference.stored := by
  unfold claim
  split <;> rfl

theorem Reference.stored_await (reference : Reference Λ) (caller : CallerId) :
    (reference.await caller).2.stored = reference.stored := by
  unfold await
  split <;> rfl

namespace LinkCache

@[simp] theorem find?_replace (cache : LinkCache Λ) (id : ReferenceId)
    (reference : Reference Λ) (address : Address) :
    (cache.replace id reference).find? address = cache.find? address := rfl

@[simp] theorem length_replace (cache : LinkCache Λ) (id : ReferenceId)
    (reference : Reference Λ) :
    (cache.replace id reference).references.length =
      cache.references.length := by
  simp [replace]

theorem reference_replace_self {cache : LinkCache Λ} {id : ReferenceId}
    (known : id < cache.references.length) (reference : Reference Λ) :
    (cache.replace id reference).reference id = reference := by
  simp [replace, LinkCache.reference, known]

theorem reference_replace_of_ne (cache : LinkCache Λ) {id other : ReferenceId}
    (different : other ≠ id) (reference : Reference Λ) :
    (cache.replace id reference).reference other = cache.reference other := by
  simp [replace, LinkCache.reference,
    List.getElem?_set_ne (Ne.symm different)]

@[simp] theorem replace_reference (cache : LinkCache Λ) (id : ReferenceId) :
    cache.replace id (cache.reference id) = cache := by
  by_cases known : id < cache.references.length
  · simp [replace, LinkCache.reference, known]
  · have beyond := Nat.le_of_not_lt known
    simp [replace, List.set_eq_of_length_le beyond]

theorem stored_replace {cache : LinkCache Λ} {id : ReferenceId}
    {reference : Reference Λ}
    (same : reference.stored = (cache.reference id).stored)
    (other : ReferenceId) :
    ((cache.replace id reference).reference other).stored =
      (cache.reference other).stored := by
  by_cases here : other = id
  · subst here
    by_cases known : other < cache.references.length
    · rw [reference_replace_self known, same]
    · have beyond := Nat.le_of_not_lt known
      simp [replace, List.set_eq_of_length_le beyond, LinkCache.reference]
  · rw [reference_replace_of_ne cache here]

@[simp] theorem find?_store (cache : LinkCache Λ) (id : ReferenceId)
    (link : Λ) (address : Address) :
    (cache.store id link).2.find? address = cache.find? address := rfl

@[simp] theorem length_store (cache : LinkCache Λ) (id : ReferenceId)
    (link : Λ) :
    (cache.store id link).2.references.length = cache.references.length := by
  simp [store, issue]

theorem reference_store_of_ne (cache : LinkCache Λ) {id other : ReferenceId}
    (different : other ≠ id) (link : Λ) :
    (cache.store id link).2.reference other = cache.reference other :=
  reference_replace_of_ne (cache.issue link).2 different _

theorem reference_store_self {cache : LinkCache Λ} {id : ReferenceId}
    (known : id < cache.references.length)
    (empty : (cache.reference id).stored = none) (link : Λ) :
    (cache.store id link).2.reference id =
      { cache.reference id with stored := some (cache.store id link).1 } := by
  have empty' : ((cache.issue link).2.reference id).stored = none := empty
  simp only [store, Reference.store, empty']
  exact reference_replace_self (by simpa [issue] using known) _

theorem lt_of_stored {cache : LinkCache Λ} {id : ReferenceId} {link : Issued Λ}
    (stored : (cache.reference id).stored = some link) :
    id < cache.references.length := by
  apply Nat.lt_of_not_le
  intro beyond
  simp [LinkCache.reference, List.getElem?_eq_none beyond, Reference.new] at stored

theorem reference_replace_cases (cache : LinkCache Λ) (id other : ReferenceId)
    (reference : Reference Λ) :
    (cache.replace id reference).reference other = cache.reference other ∨
      other = id ∧ (cache.replace id reference).reference other = reference := by
  by_cases here : other = id
  · subst here
    by_cases known : other < cache.references.length
    · exact .inr ⟨rfl, reference_replace_self known reference⟩
    · have beyond := Nat.le_of_not_lt known
      left
      simp [replace, List.set_eq_of_length_le beyond]
  · exact .inl (reference_replace_of_ne cache here reference)

theorem state_claim {cache : LinkCache Λ} {id other : ReferenceId}
    (idle : ((cache.claim id).2.reference other).state = .idle) :
    (cache.reference other).state = .idle := by
  rcases cache.reference_replace_cases id other (cache.reference id).claim.2
    with same | ⟨rfl, same⟩
  · rwa [claim, same] at idle
  · rw [claim, same, Reference.claim] at idle
    split at idle
    · cases idle
    · exact idle

theorem state_await {cache : LinkCache Λ} {id other : ReferenceId}
    {caller : CallerId}
    (idle : ((cache.await id caller).2.reference other).state = .idle) :
    (cache.reference other).state = .idle := by
  rcases cache.reference_replace_cases id other
    ((cache.reference id).await caller).2 with same | ⟨rfl, same⟩
  · rwa [await, same] at idle
  · rw [await, same, Reference.await] at idle
    split at idle <;> exact idle

theorem state_settle {cache : LinkCache Λ} {id other : ReferenceId}
    {next : LinkState}
    (idle : ((cache.settle id next).reference other).state = .idle) :
    (cache.reference other).state = .idle ∨ other = id ∧ next = .idle := by
  rcases cache.reference_replace_cases id other
    ((cache.reference id).settle next) with same | ⟨rfl, same⟩
  · rw [settle, same] at idle
    exact .inl idle
  · rw [settle, same] at idle
    exact .inr ⟨rfl, idle⟩

theorem reference_store_cases (cache : LinkCache Λ) (id other : ReferenceId)
    (link : Λ) :
    (cache.store id link).2.reference other = cache.reference other ∨
      other = id ∧ (cache.store id link).2.reference other =
        ((cache.reference id).store (cache.issue link).1).2 :=
  (cache.issue link).2.reference_replace_cases id other _

theorem state_store {cache : LinkCache Λ} {id other : ReferenceId}
    {link : Λ}
    (idle : ((cache.store id link).2.reference other).state = .idle) :
    (cache.reference other).state = .idle := by
  rcases cache.reference_store_cases id other link with same | ⟨rfl, same⟩
  · rwa [same] at idle
  · rw [same, Reference.store] at idle
    split at idle <;> exact idle

theorem stored_store {cache : LinkCache Λ} {id other : ReferenceId}
    {link : Λ}
    (empty : ((cache.store id link).2.reference other).stored = none) :
    (cache.reference other).stored = none := by
  rcases cache.reference_store_cases id other link with same | ⟨rfl, same⟩
  · rwa [same] at empty
  · rw [same, Reference.store] at empty
    split at empty
    · exact empty
    · cases empty

/-- A new reference is like one that was never made, so making an entry changes
no reference. -/
@[simp] theorem reference_enter (cache : LinkCache Λ) (address : Address)
    (id : ReferenceId) :
    (cache.enter address).2.reference id = cache.reference id := by
  unfold enter
  split
  · rfl
  · simp only [LinkCache.reference]
    by_cases known : id < cache.references.length
    · rw [List.getElem?_append_left known]
    · have beyond : cache.references.length ≤ id := Nat.le_of_not_lt known
      rw [List.getElem?_append_right beyond,
        List.getElem?_eq_none beyond]
      cases id - cache.references.length with
      | zero => rfl
      | succ more => rfl

theorem enter_cases (cache : LinkCache Λ) (address : Address) :
    (∃ id, cache.find? address = some id ∧
        cache.enter address = (id, cache)) ∨
      cache.find? address = none ∧
        (cache.enter address).1 = cache.references.length ∧
        (cache.enter address).2.references.length =
          cache.references.length + 1 := by
  unfold enter
  split
  · rename_i id found
    exact .inl ⟨id, found, rfl⟩
  · rename_i missing
    exact .inr ⟨missing, rfl, by simp⟩

theorem find?_enter_self (cache : LinkCache Λ) (address : Address) :
    (cache.enter address).2.find? address = some (cache.enter address).1 := by
  unfold enter
  split
  · rename_i id found
    exact found
  · simp [find?]

theorem find?_enter_of_ne (cache : LinkCache Λ) {address other : Address}
    (different : other ≠ address) :
    (cache.enter address).2.find? other = cache.find? other := by
  unfold enter
  split
  · rfl
  · have apart : (other == address) = false := beq_false_of_ne different
    simp [find?, List.lookup_cons, apart]

@[simp] theorem reference_evictIf (cache : LinkCache Λ) (address : Address)
    (condition : Issued Λ → Bool) (id : ReferenceId) :
    (cache.evictIf address condition).2.reference id = cache.reference id := by
  unfold evictIf
  split <;> rfl

@[simp] theorem length_evictIf (cache : LinkCache Λ) (address : Address)
    (condition : Issued Λ → Bool) :
    (cache.evictIf address condition).2.references.length =
      cache.references.length := by
  unfold evictIf
  split <;> rfl

private theorem lookup_filter_of_ne {address other : Address}
    (different : other ≠ address) (entries : List (Address × ReferenceId)) :
    (entries.filter (·.1 ≠ address)).lookup other = entries.lookup other := by
  induction entries with
  | nil => rfl
  | cons entry entries induction =>
      obtain ⟨key, id⟩ := entry
      by_cases same : key = address
      · subst same
        have apart : (other == key) = false := beq_false_of_ne different
        simpa [List.lookup_cons, apart] using induction
      · cases here : other == key with
        | true => simp [same, List.lookup_cons, here]
        | false => simpa [same, List.lookup_cons, here] using induction

theorem find?_evictIf_of_ne (cache : LinkCache Λ) {address other : Address}
    (different : other ≠ address) (condition : Issued Λ → Bool) :
    (cache.evictIf address condition).2.find? other = cache.find? other := by
  unfold evictIf
  split
  · exact lookup_filter_of_ne different cache.entries
  · rfl

theorem find?_evictIf_self (cache : LinkCache Λ) (address : Address)
    (condition : Issued Λ → Bool) :
    (cache.evictIf address condition).2.find? address =
      if (cache.evictIf address condition).1 then none
      else cache.find? address := by
  unfold evictIf
  split
  · simp only [find?, if_true, List.lookup_eq_none_iff]
    intro entry member
    have different := (List.mem_filter.mp member).2
    have apart : address ≠ entry.1 := by
      intro same
      simp [same] at different
    simpa using apart
  · simp

theorem find?_of_evictIf {cache : LinkCache Λ} {address other : Address}
    {condition : Issued Λ → Bool} {id : ReferenceId}
    (found : (cache.evictIf address condition).2.find? other = some id) :
    cache.find? other = some id := by
  by_cases same : other = address
  · subst same
    rw [find?_evictIf_self] at found
    split at found
    · simp at found
    · exact found
  · rwa [find?_evictIf_of_ne cache same] at found

theorem get?_of_evictIf {cache : LinkCache Λ} {address : Address}
    {condition : Issued Λ → Bool}
    (evicted : (cache.evictIf address condition).1 = true) :
    ∃ link, cache.get? address = some link ∧ condition link = true := by
  unfold evictIf at evicted
  split at evicted
  · rename_i holds
    exact Option.any_eq_true _ _ |>.mp holds
  · simp at evicted

@[simp] theorem reference_clear (cache : LinkCache Λ) (id : ReferenceId) :
    cache.clear.reference id = cache.reference id := rfl

@[simp] theorem find?_clear (cache : LinkCache Λ) (address : Address) :
    cache.clear.find? address = none := rfl

theorem get?_eq_some_iff {cache : LinkCache Λ} {address : Address}
    {link : Issued Λ} :
    cache.get? address = some link ↔
      ∃ id, cache.find? address = some id ∧
        (cache.reference id).stored = some link := by
  simp [get?, Option.bind_eq_some_iff]

/-- The cached link of an address depends on its entry and on the link there
alone. -/
theorem get?_congr (cache next : LinkCache Λ) (address : Address)
    (entries : next.find? address = cache.find? address)
    (stored : ∀ id, cache.find? address = some id →
      (next.reference id).stored = (cache.reference id).stored) :
    next.get? address = cache.get? address := by
  simp only [get?, entries]
  cases found : cache.find? address with
  | none => rfl
  | some id => exact stored id found

theorem find?_evict_self {cache : LinkCache Λ} {address : Address}
    {link : Issued Λ} (cached : cache.get? address = some link) :
    (cache.evict address link).2.find? address = none := by
  have evicted : (cache.evict address link).1 = true := by
    simp [evict, evictIf, cached]
  exact (find?_evictIf_self _ _ _).trans (if_pos evicted)

theorem get?_evict_of_ne (cache : LinkCache Λ) {address other : Address}
    (different : other ≠ address) (link : Issued Λ) :
    (cache.evict address link).2.get? other = cache.get? other :=
  get?_congr cache _ other (find?_evictIf_of_ne cache different _)
    fun id _ => by rw [evict, reference_evictIf]

end LinkCache

end RemoteMessaging
