import EmbeddedPython.Proofs.Lock.Ownership

/-
  The levels of a thread and its guards

  A guard is one level, but it does not know whether its level is counted at
  the moment or has been given up around a wait. A guard that is released inside
  a closure takes a level from those of the closure, if there is one, while its
  own is put back afterwards.

  Outside all closures that levels were given up for, the thread has as many
  levels as guards that it has not released exactly if each of these closures
  ends with as many of them as it began with. The ledger says which guards have
  been acquired since levels were given up last, and how many older ones have
  been released meanwhile: the former are covered by the levels of the thread
  but for the latter.
-/

namespace EmbeddedPython.Lock

variable {t : ThreadId} {name : String}

/-! ## Guards that have not been released -/

namespace Table

/-- Whether there is a guard of a name that has not been released. -/
def live (s : Table) (t : ThreadId) (name : String) : Bool :=
  s.guards.lookup (t, name) == some ⟨false⟩

/-- How many guards of a thread have not been released. -/
def unreleased (s : Table) (t : ThreadId) : Nat :=
  s.guards.countP fun g => g.1.1 == t && !g.2.released

/-- Whether each guard is found by its name. -/
def Keyed (s : Table) : Prop := (s.guards.map (·.1)).Nodup

/-- Whether a thread has a level for each guard that it has not released. -/
def Counts (t : ThreadId) (s : Table) : Prop := s.lock.depth t = s.unreleased t

/-- The table without the guard of a name. -/
def without (s : Table) (t : ThreadId) (name : String) : Table :=
  { s with guards := s.guards.filter (·.1 != (t, name)) }

theorem live_iff {s : Table} : s.live t name = true ↔ s.guards.lookup (t, name) = some ⟨false⟩ :=
  beq_iff_eq

theorem Keyed.without {s : Table} (h : s.Keyed) (t : ThreadId) (name : String) :
    (s.without t name).Keyed :=
  (List.filter_sublist.map _).nodup h

/-- A guard takes the place of the one of that name. -/
theorem Keyed.cons {s k : Table} (h : s.Keyed) {g : Guard}
    (guards : k.guards = ((t, name), g) :: (s.without t name).guards) : k.Keyed := by
  rw [Keyed, guards, List.map_cons]
  refine List.nodup_cons.mpr ⟨fun taken => ?_, h.without t name⟩
  obtain ⟨p, hp, same⟩ := List.mem_map.mp taken
  exact absurd same (bne_iff_ne.mp (List.mem_filter.mp hp).2)

/-- Without a guard there is one unreleased guard less if it was one. -/
theorem unreleased_without {s : Table} (h : s.Keyed) (t : ThreadId) (name : String) :
    (s.without t name).unreleased t + (s.live t name).toNat = s.unreleased t := by
  obtain ⟨lock, guards, log⟩ := s
  simp only [Keyed, unreleased, Table.without, live] at h ⊢
  induction guards with
  | nil => rfl
  | cons p rest ih =>
    obtain ⟨key, g⟩ := p
    obtain ⟨fresh, others⟩ := List.nodup_cons.mp h
    by_cases same : key = (t, name)
    · -- no other guard has this name
      have kept : rest.filter (·.1 != (t, name)) = rest := by
        refine List.filter_eq_self.mpr fun q hq => bne_iff_ne.mpr fun hk => fresh ?_
        exact List.mem_map.mpr ⟨q, hq, hk.trans same.symm⟩
      rw [List.filter_cons_of_neg (by simp [same]), kept, same, List.lookup_cons_self,
        List.countP_cons]
      obtain ⟨_ | _⟩ := g <;> simp
    · have apart : ((t, name) == key) = false := beq_false_of_ne (Ne.symm same)
      rw [List.filter_cons_of_pos (by simp [same]), List.countP_cons, List.countP_cons,
        List.lookup_cons, apart, ← ih others]
      exact Nat.add_right_comm _ _ _

end Table

/-! ## The ledger -/

/-- What a thread has done with guards since it gave its levels up last. -/
structure Stage where
  /-- the guards that have been acquired since then and not released -/
  own : List String
  /-- how many guards from before have been released since then -/
  foreign : Nat
  deriving DecidableEq

/-- The stage that a thread is at, and the earlier ones, each with the levels that it ended with. -/
structure Ledger where
  here : Stage
  around : List (Nat × Stage)
  deriving DecidableEq

/-- A stage without the guard of a name. -/
def Stage.without (x : Stage) (name : String) : Stage := { x with own := x.own.filter (· != name) }

namespace Ledger

/-- A thread that has acquired nothing. -/
def start : Ledger := ⟨⟨[], 0⟩, []⟩

/-- The guards of all stages. -/
def names (c : Ledger) : List String := c.here.own ++ c.around.flatMap (·.2.own)

/-- The guard of a name is released, or lost; it may have been `live` until then. -/
def release (live : Bool) (name : String) (c : Ledger) : Ledger :=
  ⟨⟨(c.here.without name).own,
    if live ∧ name ∉ c.here.own then c.here.foreign + 1 else c.here.foreign⟩,
    c.around.map fun p => (p.1, p.2.without name)⟩

/-- A guard is stored under a name. The older one of that name is lost. -/
def acquire (live : Bool) (name : String) (c : Ledger) : Ledger :=
  let c := c.release live name
  ⟨⟨name :: c.here.own, c.here.foreign⟩, c.around⟩

/-- So many levels are given up. -/
def enter (levels : Nat) (c : Ledger) : Ledger := ⟨⟨[], 0⟩, (levels, c.here) :: c.around⟩

/-- The levels that were given up last are put back. -/
def leave (c : Ledger) : Ledger :=
  match c.around with
  | [] => c
  | (_, here) :: around => ⟨here, around⟩

end Ledger

mutual

/-- The ledger after an action. -/
def follow (t : ThreadId) : Action → Table → Ledger → Ledger
  | .acquire name, s, c | .tryAcquire name, s, c => c.acquire (s.live t name) name
  | .release name, s, c | .drop name, s, c => c.release (s.live t name) name
  | .allowThreads actions, s, c =>
    match (s.lock.suspend t).1 with
    | none => followAll t actions s c
    | some levels =>
      (followAll t actions { s with lock := (s.lock.suspend t).2 } (c.enter levels.depth)).leave
  | .catchPanic a, s, c => follow t a s c
  | .describe _, _, c | .isAcquired, _, c | .require, _, c | .evaluate, _, c | .sampleThread, _, c
  | .panic _, _, c => c

/-- The ledger after actions in order, up to one that unwinds. -/
def followAll (t : ThreadId) : List Action → Table → Ledger → Ledger
  | [], _, c => c
  | a :: rest, s, c =>
    match perform t a s with
    | (.unwound _, _) => follow t a s c
    | (.answered _, k) => followAll t rest { k with log := [] } (follow t a s c)

end

/-- A state that a thread passes, with its ledger then. -/
structure Visit where
  table : Table
  ledger : Ledger

mutual

/-- The states inside an action that is made of others. -/
def visits (t : ThreadId) : Action → Table → Ledger → List Visit
  | .allowThreads actions, s, c =>
    match (s.lock.suspend t).1 with
    | none => visitsAll t actions s c
    | some levels =>
      visitsAll t actions { s with lock := (s.lock.suspend t).2 } (c.enter levels.depth)
  | .catchPanic a, s, c => visits t a s c
  | _, _, _ => []

/-- The states before, between, inside and after actions in order. -/
def visitsAll (t : ThreadId) : List Action → Table → Ledger → List Visit
  | [], s, c => [⟨s, c⟩]
  | a :: rest, s, c =>
    ⟨s, c⟩ :: visits t a s c ++
      match perform t a s with
      | (.unwound _, k) => [⟨k, follow t a s c⟩]
      | (.answered _, k) => visitsAll t rest { k with log := [] } (follow t a s c)

end

mutual

/-- The closures of an action that levels are given up for, but for those inside others: the state
before the levels are given up, and the one before they are put back. -/
def closures (t : ThreadId) : Action → Table → List (Table × Table)
  | .allowThreads actions, s =>
    match (s.lock.suspend t).1 with
    | none => closuresAll t actions s
    | some _ => [(s, (performAll t actions { s with lock := (s.lock.suspend t).2 }).2)]
  | .catchPanic a, s => closures t a s
  | _, _ => []

/-- The closures of actions in order. -/
def closuresAll (t : ThreadId) : List Action → Table → List (Table × Table)
  | [], _ => []
  | a :: rest, s =>
    closures t a s ++
      match perform t a s with
      | (.unwound _, _) => []
      | (.answered _, k) => closuresAll t rest { k with log := [] }

end

/-! ## What becomes of a ledger -/

namespace Ledger

variable {c : Ledger} {live : Bool}

theorem names_release (c : Ledger) (live : Bool) (name : String) :
    (c.release live name).names = c.names.filter (· != name) := by
  simp only [names, release, Stage.without, List.filter_append, List.filter_flatMap,
    List.flatMap_map]

theorem names_acquire (c : Ledger) (live : Bool) (name : String) :
    (c.acquire live name).names = name :: c.names.filter (· != name) := by
  rw [← names_release c live name]
  rfl

@[simp] theorem names_enter (c : Ledger) (n : Nat) : (c.enter n).names = c.names := rfl

@[simp] theorem around_release (c : Ledger) (live : Bool) (name : String) :
    (c.release live name).around.map (·.1) = c.around.map (·.1) := by
  simp [release, Function.comp_def]

@[simp] theorem around_acquire (c : Ledger) (live : Bool) (name : String) :
    (c.acquire live name).around.map (·.1) = c.around.map (·.1) :=
  c.around_release live name

end Ledger

mutual

/-- An action leaves as many levels given up as it finds. -/
theorem follow_around (t : ThreadId) : ∀ (a : Action) (s : Table) (c : Ledger),
    (follow t a s c).around.map (·.1) = c.around.map (·.1)
  | .acquire name, s, c | .tryAcquire name, s, c => by
    rw [follow, Ledger.around_acquire]
  | .release name, s, c | .drop name, s, c => by
    rw [follow, Ledger.around_release]
  | .allowThreads actions, s, c => by
    rw [follow]
    split
    · exact followAll_around t actions s c
    · next levels _ =>
      have inside := followAll_around t actions { s with lock := (s.lock.suspend t).2 }
        (c.enter levels.depth)
      rw [Ledger.leave]
      split
      · next none => rw [none] at inside; cases inside
      · next some => rw [some] at inside; exact (List.cons.inj inside).2
  | .catchPanic a, s, c => follow_around t a s c
  | .describe _, _, _ | .isAcquired, _, _ | .require, _, _ | .evaluate, _, _
  | .sampleThread, _, _ | .panic _, _, _ => rfl

theorem followAll_around (t : ThreadId) : ∀ (actions : List Action) (s : Table) (c : Ledger),
    (followAll t actions s c).around.map (·.1) = c.around.map (·.1)
  | [], s, c => rfl
  | a :: rest, s, c => by
    rw [followAll]
    split
    · exact follow_around t a s c
    · next k _ =>
      exact (followAll_around t rest { k with log := [] } _).trans (follow_around t a s c)

end

/-! ## What the actions do to guards -/

/-- The guard of a name is released or dropped, and gives its level back if it was live. -/
structure Loses (t : ThreadId) (name : String) (s k : Table) : Prop where
  keyed : s.Keyed → k.Keyed
  others : ∀ n, n ≠ name → k.live t n = s.live t n
  count : s.Keyed → k.unreleased t = (s.without t name).unreleased t
  lock : k.lock = if s.live t name then (s.lock.release t).2 else s.lock

/-- A guard is stored under a name, and the older one of that name is dropped. -/
structure Stores (t : ThreadId) (name : String) (s k : Table) : Prop where
  keyed : s.Keyed → k.Keyed
  here : k.live t name = true
  others : ∀ n, n ≠ name → k.live t n = s.live t n
  count : k.unreleased t = (s.without t name).unreleased t + 1
  lock : k.lock = if s.live t name then (s.lock.release t).2 else s.lock

namespace Table

variable {s k : Table} {n : String}

theorem live_without (apart : n ≠ name) : (s.without t name).live t n = s.live t n := by
  have ne : (t, n) ≠ (t, name) := fun h => apart (congrArg Prod.snd h)
  rw [live, Table.without, lookup_filter_of_ne ne, live]

theorem live_cons {g : Guard} (guards : k.guards = ((t, name), g) :: (s.without t name).guards)
    (apart : n ≠ name) : k.live t n = s.live t n := by
  have ne : (t, n) ≠ (t, name) := fun h => apart (congrArg Prod.snd h)
  rw [live, guards, List.lookup_cons, beq_false_of_ne ne]
  exact live_without apart

theorem unreleased_cons {g : Guard} (guards : k.guards = ((t, name), g) :: (s.without t name).guards) :
    k.unreleased t = (s.without t name).unreleased t + (!g.released).toNat := by
  rw [unreleased, unreleased, guards, List.countP_cons]
  obtain ⟨_ | _⟩ := g <;> simp

theorem storeGuard_stores (s : Table) (t : ThreadId) (name : String) :
    Stores t name s (s.storeGuard t name ⟨false⟩) := by
  obtain ⟨guards, stored⟩ := storeGuard_cases s t name ⟨false⟩
  refine ⟨fun keyed => keyed.cons guards, ?_, fun n apart => live_cons guards apart,
    unreleased_cons guards, ?_⟩
  · rw [live, guards, List.lookup_cons_self]
    rfl
  · rcases stored with ⟨gone, lock⟩ | ⟨found, lock⟩
    · rw [lock, if_neg fun h => gone (live_iff.mp h)]
    · rw [lock, if_pos (live_iff.mpr found)]

/-- Where there is no guard of a name nothing is lost. -/
theorem loses_nothing (missing : s.guards.lookup (t, name) = none) : Loses t name s s := by
  have gone : s.live t name = false := by rw [live, missing]; rfl
  refine ⟨id, fun _ _ => rfl, fun keyed => ?_, by rw [gone]; rfl⟩
  have count := s.unreleased_without keyed t name
  rw [gone] at count
  exact count.symm

theorem releaseGuard_lock_of_lookup {g : Guard} (found : s.guards.lookup (t, name) = some g) :
    (s.releaseGuard t g).2.lock = if s.live t name then (s.lock.release t).2 else s.lock := by
  rw [releaseGuard_lock, live, found]
  obtain ⟨_ | _⟩ := g <;> rfl

theorem loses_of_without {s k : Table} (guards : k.guards = (s.without t name).guards)
    (lock : k.lock = if s.live t name then (s.lock.release t).2 else s.lock) : Loses t name s k := by
  refine ⟨fun keyed => ?_, fun n apart => ?_, fun _ => ?_, lock⟩
  · rw [Keyed, guards]
    exact keyed.without t name
  · rw [live, guards]
    exact live_without apart
  · rw [unreleased, guards, unreleased]

theorem loses_of_cons {s k : Table} (guards : k.guards = ((t, name), ⟨true⟩) :: (s.without t name).guards)
    (lock : k.lock = if s.live t name then (s.lock.release t).2 else s.lock) : Loses t name s k :=
  ⟨fun keyed => keyed.cons guards, fun _ apart => live_cons guards apart,
    fun _ => unreleased_cons guards, lock⟩

theorem perform_release (s : Table) (t : ThreadId) (name : String) :
    Loses t name s (perform t (.release name) s).2 := by
  rw [perform]
  split
  · next missing => exact loses_nothing missing
  · next g found =>
    refine loses_of_cons ?_ (releaseGuard_lock_of_lookup found)
    have released : (s.releaseGuard t g).1 = ⟨true⟩ := by
      obtain ⟨_ | _⟩ := g <;> rfl
    show ((t, name), (s.releaseGuard t g).1) ::
      (s.releaseGuard t g).2.guards.filter (·.1 != (t, name)) = _
    rw [released, releaseGuard_guards]
    rfl

theorem perform_drop (s : Table) (t : ThreadId) (name : String) :
    Loses t name s (perform t (.drop name) s).2 := by
  rw [perform]
  split
  · next missing => exact loses_nothing missing
  · next g found =>
    refine loses_of_without ?_ (releaseGuard_lock_of_lookup found)
    show (s.releaseGuard t g).2.guards.filter (·.1 != (t, name)) = _
    rw [releaseGuard_guards]
    rfl

end Table

/-! ## Guards of the stage at hand are covered -/

/-- What holds of a state that a thread passes and of its ledger then. -/
structure Kept (t : ThreadId) (s : Table) (c : Ledger) : Prop where
  sound : Sound t s.lock
  keyed : s.Keyed
  distinct : c.names.Nodup
  live : ∀ n ∈ c.names, s.live t n = true
  covered : c.here.own.length ≤ s.lock.depth t + c.here.foreign
  around : ∀ p ∈ c.around, p.2.own.length ≤ p.1 + p.2.foreign

/-- A live guard gives its level back. -/
theorem Sound.given {l : Lock} (h : Sound t l) (live : Bool) :
    Sound t (if live then (l.release t).2 else l) ∧
      (if live then (l.release t).2 else l).depth t = l.depth t - live.toNat := by
  cases live with
  | false => exact ⟨h, rfl⟩
  | true =>
    obtain ⟨sound, depth, -⟩ := give_cases h
    exact ⟨sound, depth⟩

/-- A guard that is lost takes a level with it; if it is not of this stage it is counted. -/
theorem Ledger.covered_release {c : Ledger} {live : Bool} {depth n : Nat}
    (distinct : c.here.own.Nodup) (known : name ∈ c.here.own → live = true)
    (covered : c.here.own.length + n ≤ depth + c.here.foreign) :
    (c.release live name).here.own.length + n ≤
      depth - live.toNat + (c.release live name).here.foreign := by
  simp only [release, Stage.without]
  rw [← distinct.erase_eq_filter]
  by_cases own : name ∈ c.here.own
  · have some : 0 < c.here.own.length := List.length_pos_of_mem own
    rw [List.length_erase_of_mem own, known own, if_neg (by simp [own])]
    simp only [Bool.toNat_true]
    omega
  · rw [List.erase_of_not_mem own]
    cases live with
    | false => simpa [own] using covered
    | true =>
      rw [if_pos ⟨rfl, own⟩]
      simp only [Bool.toNat_true]
      omega

namespace Kept

variable {s k : Table} {c d : Ledger} {l : Lock} {levels : Suspension}

/-- The ledger asks for no more than the guards and the number of levels. -/
theorem of_level (h : Kept t s c) (guards : k.guards = s.guards) (sound : Sound t k.lock)
    (same : k.lock.depth t = s.lock.depth t) : Kept t k c := by
  refine ⟨sound, ?_, h.distinct, fun n hn => ?_, same ▸ h.covered, h.around⟩
  · rw [Table.Keyed, guards]
    exact h.keyed
  · rw [Table.live, guards]
    exact h.live n hn

theorem own_distinct (h : Kept t s c) : c.here.own.Nodup := (List.nodup_append.mp h.distinct).1

theorem own_live (h : Kept t s c) {n : String} (hn : n ∈ c.here.own) : s.live t n = true :=
  h.live n (List.mem_append_left _ hn)

theorem around_release (h : Kept t s c) (live : Bool) (name : String) :
    ∀ p ∈ (c.release live name).around, p.2.own.length ≤ p.1 + p.2.foreign := by
  intro p hp
  obtain ⟨q, hq, rfl⟩ := List.mem_map.mp hp
  exact Nat.le_trans (List.length_filter_le _ _) (h.around q hq)

theorem release (h : Kept t s c) (loses : Loses t name s k) :
    Kept t k (c.release (s.live t name) name) := by
  obtain ⟨sound, depth⟩ := h.sound.given (s.live t name)
  refine ⟨?_, loses.keyed h.keyed, ?_, fun n hn => ?_, ?_, h.around_release _ name⟩
  · rw [loses.lock]
    exact sound
  · rw [Ledger.names_release]
    exact h.distinct.filter _
  · rw [Ledger.names_release, List.mem_filter] at hn
    rw [loses.others n (bne_iff_ne.mp hn.2)]
    exact h.live n hn.1
  · rw [loses.lock, depth]
    exact Ledger.covered_release h.own_distinct h.own_live (n := 0) h.covered

theorem acquire (h : Kept t s c) (taken : s.lock.tryAcquire t = .ok l) (name : String) :
    Kept t (({ s with lock := l } : Table).storeGuard t name ⟨false⟩)
      (c.acquire (s.live t name) name) := by
  obtain ⟨taking, level, -⟩ := take_cases h.sound taken
  obtain ⟨sound, back⟩ := taking.given (s.live t name)
  have stores := Table.storeGuard_stores { s with lock := l } t name
  refine ⟨?_, stores.keyed h.keyed, ?_, fun n hn => ?_, ?_,
    h.around_release (s.live t name) name⟩
  · rw [stores.lock]
    exact sound
  · rw [Ledger.names_acquire]
    exact List.nodup_cons.mpr ⟨fun hn => absurd rfl (bne_iff_ne.mp (List.mem_filter.mp hn).2),
      h.distinct.filter _⟩
  · rw [Ledger.names_acquire, List.mem_cons] at hn
    by_cases same : n = name
    · rw [same]
      exact stores.here
    · rw [stores.others n same]
      exact h.live n (List.mem_filter.mp (hn.resolve_left same)).1
  · have left := (congrArg (depth · t) stores.lock).trans back
    rw [left]
    refine Ledger.covered_release h.own_distinct h.own_live (n := 1) ?_
    have covered := h.covered
    omega

/-- Giving the levels up begins a stage. -/
theorem enter (h : Kept t s c) (gives : (s.lock.suspend t).1 = some levels) :
    Kept t { s with lock := (s.lock.suspend t).2 } (c.enter levels.depth) := by
  obtain ⟨sound, -, -, rfl, -⟩ := suspend_cases h.sound gives
  refine ⟨sound, h.keyed, h.distinct, h.live, Nat.zero_le _, fun p hp => ?_⟩
  rcases List.mem_cons.mp hp with rfl | hp
  · exact h.covered
  · exact h.around p hp

/-- Putting the levels back ends it. -/
theorem leave (h : Kept t s c) (inside : Kept t k d)
    (gives : (s.lock.suspend t).1 = some levels)
    (around : d.around.map (·.1) = (c.enter levels.depth).around.map (·.1)) :
    Kept t { k with lock := k.lock.resume t levels } d.leave := by
  obtain ⟨-, some, -, rfl, -⟩ := suspend_cases h.sound gives
  obtain ⟨sound, depth, -⟩ := resume_cases (t := t) inside.sound.alive some
  obtain ⟨here, _ | ⟨⟨n, x⟩, rest⟩⟩ := d
  · cases around
  · obtain rfl : n = s.lock.depth t := (List.cons.inj around).1
    have distinct : (x.own ++ rest.flatMap (·.2.own)).Nodup :=
      (List.nodup_append.mp inside.distinct).2.1
    refine ⟨sound, inside.keyed, distinct, fun m hm => ?_, ?_, fun p hp => ?_⟩
    · exact inside.live m (List.mem_append_right _ hm)
    · have covered : x.own.length ≤ s.lock.depth t + x.foreign :=
        inside.around _ List.mem_cons_self
      rwa [← depth] at covered
    · exact inside.around p (List.mem_cons_of_mem _ hp)

end Kept

mutual

/-- An action keeps the account of the thread and of its guards, in every state that it passes. -/
theorem Kept.perform (t : ThreadId) : ∀ (a : Action) {s : Table} {c : Ledger}, Kept t s c →
    Kept t (Lock.perform t a s).2 (follow t a s c) ∧
      ∀ v ∈ visits t a s c, Kept t v.table v.ledger
  | .acquire name, s, c, h => by
    obtain ⟨l, taken⟩ := h.sound.takes
    simp only [Lock.perform, taken]
    exact ⟨h.acquire taken name, nofun⟩
  | .tryAcquire name, s, c, h => by
    obtain ⟨l, taken⟩ := h.sound.takes
    simp only [Lock.perform, taken]
    exact ⟨h.acquire taken name, nofun⟩
  | .release name, s, c, h => ⟨h.release (s.perform_release t name), nofun⟩
  | .drop name, s, c, h => ⟨h.release (s.perform_drop t name), nofun⟩
  | .evaluate, s, c, h => by
    obtain ⟨l, taken⟩ := h.sound.takes
    obtain ⟨taking, level, -⟩ := take_cases h.sound taken
    obtain ⟨given, back, -⟩ := give_cases taking
    simp only [Lock.perform, taken]
    refine ⟨h.of_level (releaseGuard_guards _ t _) ?_ ?_, nofun⟩ <;> rw [releaseGuard_lock]
    · exact given
    · exact back.trans (by rw [level, Nat.add_sub_cancel])
  | .allowThreads actions, s, c, h => by
    rw [perform_allowThreads, follow, visits]
    cases gives : (s.lock.suspend t).1 with
    | none =>
      rw [(suspend_none gives).2]
      exact Kept.performAll t actions h
    | some levels =>
      obtain ⟨inside, passed⟩ := Kept.performAll t actions (h.enter gives)
      exact ⟨h.leave inside gives (followAll_around t actions _ _), passed⟩
  | .catchPanic a, s, c, h => by
    have whole := Kept.perform t a h
    simp only [Lock.perform]
    split <;> rename_i hr <;> rw [hr] at whole <;> exact whole
  | .describe name, s, c, h => by
    simp only [Lock.perform]
    split <;> exact ⟨h, nofun⟩
  | .isAcquired, s, c, h => ⟨h, nofun⟩
  | .require, s, c, h => ⟨h, nofun⟩
  | .sampleThread, s, c, h => ⟨h, nofun⟩
  | .panic _, s, c, h => ⟨h, nofun⟩

/-- Actions in order keep the accounts. -/
theorem Kept.performAll (t : ThreadId) : ∀ (actions : List Action) {s : Table} {c : Ledger},
    Kept t s c → Kept t (Lock.performAll t actions s).2 (followAll t actions s c) ∧
      ∀ v ∈ visitsAll t actions s c, Kept t v.table v.ledger
  | [], s, c, h => ⟨h, fun v hv => List.mem_singleton.mp hv ▸ h⟩
  | a :: rest, s, c, h => by
    obtain ⟨kept, inside⟩ := Kept.perform t a h
    rw [followAll, visitsAll]
    cases hr : Lock.perform t a s with
    | mk ending k =>
      rw [hr] at kept
      cases ending with
      | unwound text =>
        rw [performAll_unwound hr]
        refine ⟨kept, fun v hv => ?_⟩
        simp only [List.cons_append, List.mem_cons, List.mem_append, List.not_mem_nil,
          or_false] at hv
        rcases hv with rfl | hv | rfl
        · exact h
        · exact inside v hv
        · exact kept
      | answered answer =>
        rw [performAll_answered hr]
        have cleared : Kept t { k with log := [] } (follow t a s c) :=
          kept.of_level rfl kept.sound rfl
        obtain ⟨final, passed⟩ := Kept.performAll t rest cleared
        refine ⟨final, fun v hv => ?_⟩
        simp only [List.cons_append, List.mem_cons, List.mem_append] at hv
        rcases hv with rfl | hv | hv
        · exact h
        · exact inside v hv
        · exact passed v hv

end

/-! ## Where the levels are counted -/

mutual

/-- No level that has been given up is put back inside an action. -/
theorem visits_around (t : ThreadId) : ∀ (a : Action) (s : Table) (c : Ledger),
    ∀ v ∈ visits t a s c, c.around.length ≤ v.ledger.around.length
  | .allowThreads actions, s, c => by
    rw [visits]
    split
    · exact visitsAll_around t actions s c
    · intro v hv
      exact Nat.le_of_succ_le (visitsAll_around t actions _ _ v hv)
  | .catchPanic a, s, c => visits_around t a s c
  | .acquire _, _, _ | .tryAcquire _, _, _ | .release _, _, _ | .drop _, _, _
  | .describe _, _, _ | .isAcquired, _, _ | .require, _, _ | .evaluate, _, _
  | .sampleThread, _, _ | .panic _, _, _ => nofun

theorem visitsAll_around (t : ThreadId) : ∀ (actions : List Action) (s : Table) (c : Ledger),
    ∀ v ∈ visitsAll t actions s c, c.around.length ≤ v.ledger.around.length
  | [], s, c => fun v hv => List.mem_singleton.mp hv ▸ Nat.le_refl _
  | a :: rest, s, c => by
    have same := congrArg List.length (follow_around t a s c)
    rw [List.length_map, List.length_map] at same
    rw [visitsAll]
    intro v hv
    simp only [List.cons_append, List.mem_cons, List.mem_append] at hv
    rcases hv with rfl | hv | hv
    · exact Nat.le_refl _
    · exact visits_around t a s c v hv
    · split at hv
      · obtain rfl := List.mem_singleton.mp hv
        exact Nat.le_of_eq same.symm
      · rw [← same]
        exact visitsAll_around t rest _ _ v hv

end

/-- The state before actions is passed. -/
theorem visitsAll_first (t : ThreadId) (actions : List Action) (s : Table) (c : Ledger) :
    ⟨s, c⟩ ∈ visitsAll t actions s c := by
  cases actions with
  | nil => exact List.mem_singleton.mpr rfl
  | cons a rest => exact List.mem_cons_self

/-- The state after actions is passed. -/
theorem visitsAll_last (t : ThreadId) (actions : List Action) (s : Table) (c : Ledger) :
    ⟨(performAll t actions s).2, followAll t actions s c⟩ ∈ visitsAll t actions s c := by
  induction actions generalizing s c with
  | nil => exact List.mem_singleton.mpr rfl
  | cons a rest ih =>
    rw [visitsAll, followAll]
    refine List.mem_append_right _ ?_
    cases hr : perform t a s with
    | mk ending k =>
      cases ending with
      | unwound text =>
        rw [performAll_unwound hr]
        exact List.mem_singleton.mpr rfl
      | answered answer =>
        rw [performAll_answered hr]
        exact ih _ _

namespace Table.Counts

variable {s k : Table} {l : Lock}

theorem release (h : s.Counts t) (keyed : s.Keyed) (sound : Sound t s.lock)
    (loses : Loses t name s k) : k.Counts t := by
  have count := s.unreleased_without keyed t name
  rw [Counts, loses.lock, (sound.given _).2, loses.count keyed, h, ← count, Nat.add_sub_cancel]

theorem acquire (h : s.Counts t) (keyed : s.Keyed) (sound : Sound t s.lock)
    (taken : s.lock.tryAcquire t = .ok l) (name : String) :
    (({ s with lock := l } : Table).storeGuard t name ⟨false⟩).Counts t := by
  obtain ⟨taking, level, -⟩ := take_cases sound taken
  have stores := Table.storeGuard_stores { s with lock := l } t name
  have left : _ = l.depth t - (s.live t name).toNat :=
    (congrArg (depth · t) stores.lock).trans (taking.given (s.live t name)).2
  have stored : _ = (s.without t name).unreleased t + 1 := stores.count
  have count := s.unreleased_without keyed t name
  rw [Counts, left, stored, level, h, ← count]
  omega

end Table.Counts

/-- Whether closures end with as many unreleased guards as they began with. -/
def Even (t : ThreadId) (closures : List (Table × Table)) : Prop :=
  ∀ p ∈ closures, p.2.unreleased t = p.1.unreleased t

/-- Whether the levels are counted wherever none have been given up. -/
def Counted (t : ThreadId) (visits : List Visit) : Prop :=
  ∀ v ∈ visits, v.ledger.around = [] → v.table.Counts t

theorem Even.append {xs ys : List (Table × Table)} :
    Even t (xs ++ ys) ↔ Even t xs ∧ Even t ys := List.forall_mem_append

theorem Counted.append {xs ys : List Visit} :
    Counted t (xs ++ ys) ↔ Counted t xs ∧ Counted t ys := List.forall_mem_append

theorem Counted.cons {s : Table} {c : Ledger} {vs : List Visit} (outside : c.around = []) :
    Counted t (⟨s, c⟩ :: vs) ↔ s.Counts t ∧ Counted t vs :=
  List.forall_mem_cons.trans (and_congr_left' (forall_prop_of_true outside))

/-- Inside a closure that levels were given up for they are not counted. -/
theorem counted_inside (t : ThreadId) (actions : List Action) (s : Table) (c : Ledger) (n : Nat) :
    Counted t (visitsAll t actions s (c.enter n)) := by
  intro v hv none
  have deep := visitsAll_around t actions s (c.enter n) v hv
  rw [none] at deep
  exact absurd deep (Nat.not_succ_le_zero _)

theorem outside_after (t : ThreadId) (a : Action) (s : Table) {c : Ledger}
    (outside : c.around = []) : (follow t a s c).around = [] := by
  have around := follow_around t a s c
  rw [outside] at around
  exact List.map_eq_nil_iff.mp around

mutual

/-- The levels are counted inside and after an action exactly if its closures are even. -/
theorem Kept.counted_iff (t : ThreadId) : ∀ (a : Action) {s : Table} {c : Ledger}, Kept t s c →
    c.around = [] → s.Counts t →
      ((Lock.perform t a s).2.Counts t ∧ Counted t (visits t a s c) ↔ Even t (closures t a s))
  | .acquire name, s, c, h, _, counts => by
    obtain ⟨l, taken⟩ := h.sound.takes
    simp only [Lock.perform, taken]
    exact iff_of_true ⟨counts.acquire h.keyed h.sound taken name, nofun⟩ nofun
  | .tryAcquire name, s, c, h, _, counts => by
    obtain ⟨l, taken⟩ := h.sound.takes
    simp only [Lock.perform, taken]
    exact iff_of_true ⟨counts.acquire h.keyed h.sound taken name, nofun⟩ nofun
  | .release name, s, c, h, _, counts =>
    iff_of_true ⟨counts.release h.keyed h.sound (s.perform_release t name), nofun⟩ nofun
  | .drop name, s, c, h, _, counts =>
    iff_of_true ⟨counts.release h.keyed h.sound (s.perform_drop t name), nofun⟩ nofun
  | .evaluate, s, c, h, _, counts => by
    obtain ⟨l, taken⟩ := h.sound.takes
    obtain ⟨taking, level, -⟩ := take_cases h.sound taken
    obtain ⟨-, back, -⟩ := give_cases taking
    simp only [Lock.perform, taken]
    refine iff_of_true ⟨?_, nofun⟩ nofun
    rw [Table.Counts, releaseGuard_lock, Table.unreleased, releaseGuard_guards]
    exact (back.trans (by rw [level, Nat.add_sub_cancel])).trans counts
  | .allowThreads actions, s, c, h, outside, counts => by
    rw [perform_allowThreads, visits, closures]
    cases gives : (s.lock.suspend t).1 with
    | none =>
      rw [(suspend_none gives).2]
      refine Iff.trans ⟨fun counted => counted.2, fun counted => ⟨?_, counted⟩⟩
        (Kept.countedAll_iff t actions h outside counts)
      refine counted _ (visitsAll_last t actions s c) ?_
      have around := followAll_around t actions s c
      rw [outside] at around
      exact List.map_eq_nil_iff.mp around
    | some levels =>
      obtain ⟨-, some, -, rfl, -⟩ := suspend_cases h.sound gives
      have inside := (Kept.performAll t actions (h.enter gives)).1
      obtain ⟨-, depth, -⟩ := resume_cases (t := t) inside.sound.alive some
      simp only [counted_inside, and_true, Even, List.forall_mem_singleton]
      rw [Table.Counts, depth, counts]
      exact eq_comm
  | .catchPanic a, s, c, h, outside, counts => by
    have whole := Kept.counted_iff t a h outside counts
    simp only [Lock.perform]
    split <;> rename_i hr <;> rw [hr] at whole <;> exact whole
  | .describe name, s, c, h, _, counts => by
    simp only [Lock.perform]
    split <;> exact iff_of_true ⟨counts, nofun⟩ nofun
  | .isAcquired, s, c, h, _, counts => iff_of_true ⟨counts, nofun⟩ nofun
  | .require, s, c, h, _, counts => iff_of_true ⟨counts, nofun⟩ nofun
  | .sampleThread, s, c, h, _, counts => iff_of_true ⟨counts, nofun⟩ nofun
  | .panic _, s, c, h, _, counts => iff_of_true ⟨counts, nofun⟩ nofun

/-- The levels are counted in all states that actions pass exactly if their closures are even. -/
theorem Kept.countedAll_iff (t : ThreadId) : ∀ (actions : List Action) {s : Table} {c : Ledger},
    Kept t s c → c.around = [] → s.Counts t →
      (Counted t (visitsAll t actions s c) ↔ Even t (closuresAll t actions s))
  | [], s, c, h, _, counts =>
    iff_of_true (fun v hv _ => List.mem_singleton.mp hv ▸ counts) nofun
  | a :: rest, s, c, h, outside, counts => by
    have first := Kept.counted_iff t a h outside counts
    have kept := (Kept.perform t a h).1
    have around : (follow t a s c).around = [] := outside_after t a s outside
    rw [visitsAll, closuresAll, Even.append, ← first, Counted.append, Counted.cons outside,
      and_iff_right counts]
    cases hr : Lock.perform t a s with
    | mk ending k =>
      rw [hr] at kept
      cases ending with
      | unwound text =>
        rw [Counted.cons around, and_comm, and_assoc, and_assoc]
        exact and_congr_right fun _ => and_comm.trans (and_congr_right fun _ => iff_of_true nofun nofun)
      | answered answer =>
        have cleared : Kept t { k with log := [] } (follow t a s c) :=
          kept.of_level rfl kept.sound rfl
        have last : Counted t (visitsAll t rest { k with log := [] } (follow t a s c)) ↔
            k.Counts t ∧ Even t (closuresAll t rest { k with log := [] }) := by
          constructor
          · intro counted
            have after : k.Counts t := counted _ (visitsAll_first t rest _ _) around
            exact ⟨after, (Kept.countedAll_iff t rest cleared around after).mp counted⟩
          · rintro ⟨after, even⟩
            exact (Kept.countedAll_iff t rest cleared around after).mpr even
        rw [last, ← and_assoc, and_comm (a := Counted t _)]

end

theorem Kept.start (t : ThreadId) : Kept t Table.start .start :=
  ⟨.start t, .nil, .nil, nofun, Nat.le_refl _, nofun⟩

/-- Outside closures that levels were given up for, a thread has a level for each of its guards that
it has not released, in all states that it passes, exactly if each of these closures ends with as
many such guards as it began with. Then the lock is given back with the last of them. In any program
a thread owns the lock as long as more guards of the stage at hand are live than older ones have
been released since it began. -/
theorem depth_counts_guards_iff (t : ThreadId) (actions : List Action) :
    let visits := visitsAll t actions Table.start .start
    let closures := closuresAll t actions Table.start
    ((∀ v ∈ visits, v.ledger.around = [] → v.table.lock.depth t = v.table.unreleased t) ↔
      ∀ p ∈ closures, p.2.unreleased t = p.1.unreleased t) ∧
    ((∀ p ∈ closures, p.2.unreleased t = p.1.unreleased t) →
      ∀ v ∈ visits, v.ledger.around = [] → v.table.unreleased t = 0 →
        v.table.lock.holder = none) ∧
    ∀ v ∈ visits, (v.table.lock.isAcquired t = true ↔ v.table.lock.holder = some t) ∧
      (∀ n ∈ v.ledger.here.own, v.table.live t n = true) ∧
      v.ledger.here.own.length ≤ v.table.lock.depth t + v.ledger.here.foreign ∧
      (v.ledger.here.foreign < v.ledger.here.own.length → v.table.lock.holder = some t) := by
  intro visits closures
  have start := Kept.start t
  have counted := Kept.countedAll_iff t actions start rfl rfl
  have kept := (Kept.performAll t actions start).2
  refine ⟨counted, fun even v hv outside free => ?_, fun v hv => ?_⟩
  · have none : v.table.lock.depth t = 0 := (counted.mpr even v hv outside).trans free
    rw [(kept v hv).sound.holder, if_pos none]
  · have covered := (kept v hv).covered
    refine ⟨(kept v hv).sound.acquired, fun n hn => (kept v hv).own_live hn, covered,
      fun more => ?_⟩
    rw [(kept v hv).sound.holder, if_neg (by omega)]

/-- A guard that is released inside a closure leaves its level behind: the thread has released all
its guards, and owns the lock. Released after the closure has acquired another one, it takes the
level of that one. -/
theorem guard_of_earlier_stage_keeps_lock :
    let after := (performAll 0 [.acquire "g", .allowThreads [.release "g"]] Table.start).2
    let inside := visitsAll 0 [.acquire "g", .allowThreads [.acquire "h", .release "g"]]
      Table.start .start
    after.unreleased 0 = 0 ∧ after.lock.depth 0 = 1 ∧ after.lock.holder = some 0 ∧
      (inside.any fun v => v.ledger.here.own = ["h"] ∧ v.table.lock.holder = none) = true := by
  decide

end EmbeddedPython.Lock
