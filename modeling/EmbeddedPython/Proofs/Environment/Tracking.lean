import EmbeddedPython.Proofs.Environment.Order

/-
  The life of a task

  A driver starts a task, keeps track of it and finishes it; meanwhile the task
  may be asked to cancel. The history tells where a task is: its driver has it
  in hand from its start until it is tracked, and among its tasks from then on
  until it is finished. Nobody asks for the cancellation of a task that its
  driver is not about to track at least.
-/

namespace EmbeddedPython

open Activity Bridge

/-- The task that a deed is about. -/
def Deed.task? : Deed → Option TaskId
  | push _ (.cancel id) | take _ (.cancel id) => some id
  | start _ id _ _ | track _ id | ask _ id | finish _ id => some id
  | _ => none

/-- Whether the cancellation of a task can have been requested. -/
def Known (l : LoopId) (deeds : List Deed) (d : Desk) (id : TaskId) : Prop :=
  .track l id ∈ deeds ∨ ∃ c x, d.phase = .accepting c x ∧ x.id = id

/-- A task is found by its number. -/
theorem find_task {xs : List Tracked} {x : Tracked} (ids : (xs.map (·.id)).Nodup) (hx : x ∈ xs) :
    xs.find? (·.id == x.id) = some x := by
  cases hf : xs.find? (·.id == x.id) with
  | none => exact absurd (List.find?_eq_none.mp hf x hx) (by simp)
  | some y =>
    have same : y.id = x.id := by simpa using List.find?_some hf
    rw [List.inj_on_of_nodup_map ids (List.mem_of_find?_eq_some hf) hx same]

/-- The task with a number is asked to cancel if it is there. -/
theorem mem_asked {xs : List Tracked} {l : LoopId} {id id' : TaskId} :
    .ask l id' ∈ (xs.find? (·.id == id)).toList.map (fun x => Deed.ask l x.id) ↔
      id' = id ∧ ∃ x ∈ xs, x.id = id := by
  cases hf : xs.find? (·.id == id) with
  | none =>
    simp only [Option.toList_none, List.map_nil, List.not_mem_nil, false_iff, not_and]
    rintro - ⟨x, hx, he⟩
    exact List.find?_eq_none.mp hf x hx (beq_iff_eq.mpr he)
  | some x =>
    have hx : x.id = id := by simpa using List.find?_some hf
    simp only [Option.toList_some, List.map_cons, List.map_nil, List.mem_singleton,
      Deed.ask.injEq, true_and, hx]
    exact ⟨fun he => ⟨he, x, List.mem_of_find?_eq_some hf, hx⟩, And.left⟩

/-- What the history of a loop says about the tasks at its desk. -/
structure Tracks (l : LoopId) (deeds : List Deed) (d : Desk) : Prop where
  ids : (d.live.map (·.id)).Nodup
  tasks : ∀ id, (∃ x ∈ d.tasks, x.id = id) ↔ .track l id ∈ deeds ∧ .finish l id ∉ deeds
  hand : ∀ id, (∃ x, d.phase.task? = some x ∧ x.id = id) ↔
    (∃ i token, .start l id i token ∈ deeds) ∧ .track l id ∉ deeds
  /-- the token that a driver registers a task with is the one that the task was started with -/
  token : ∀ c token x, d.phase = .registering c token x → ∃ i, .start l x.id i token ∈ deeds
  begun : ∀ id, .track l id ∈ deeds → ∃ i token, .start l id i token ∈ deeds
  asked : ∀ id, .ask l id ∈ deeds → .track l id ∈ deeds
  finished : ∀ id, .finish l id ∈ deeds → .track l id ∈ deeds
  /-- a task that has been asked to cancel is not registered any more -/
  silent : ∀ x ∈ d.tasks, .ask l x.id ∈ deeds → x.registration = .nothing
  requested : ∀ id, .push l (.cancel id) ∈ deeds → Known l deeds d id
  /-- a request to cancel a task reaches it, unless the task is finished -/
  handled : ∀ id, .take l (.cancel id) ∈ deeds → .ask l id ∈ deeds ∨ .finish l id ∈ deeds

namespace Tracks

variable {l : LoopId} {H ds : List Deed} {d d' : Desk}

theorem initial (l : LoopId) : Tracks l [] Desk.vacant := by
  constructor <;> simp [Desk.vacant, Desk.live, Phase.task?]

/-- A turn that no task takes part in. -/
theorem still (h : Tracks l H d) (tasks : d'.tasks = d.tasks) (idle : d.phase.task? = none)
    (idle' : d'.phase.task? = none) (other : ∀ e ∈ ds, e.task? = none) :
    Tracks l (H ++ ds) d' := by
  have mem {e : Deed} {id : TaskId} (he : e.task? = some id) : e ∈ H ++ ds ↔ e ∈ H := by
    rw [List.mem_append, or_iff_left]
    exact fun hd => Option.some_ne_none id (he.symm.trans (other e hd))
  have unheld {x : Tracked} {p : Prop} (hp : d'.phase.task? = some x) : p := by
    rw [idle'] at hp
    cases hp
  refine ⟨?_, fun id => ?_, fun id => ?_, fun c token x hp => ?_, fun id ht => ?_, fun id ha => ?_,
    fun id hf => ?_, fun x hx ha => ?_, fun id hp => ?_, fun id ht => ?_⟩
  · simpa [Desk.live, tasks, idle, idle'] using h.ids
  · rw [tasks, mem rfl, mem rfl]
    exact h.tasks id
  · have := h.hand id
    simp only [idle, idle', mem (e := .track l id) rfl] at this ⊢
    simpa [mem (e := .start l id _ _) rfl] using this
  · exact unheld (x := x) (by rw [hp]; rfl)
  · obtain ⟨i, token, hs⟩ := h.begun id ((mem rfl).mp ht)
    exact ⟨i, token, (mem rfl).mpr hs⟩
  · exact (mem rfl).mpr (h.asked id ((mem rfl).mp ha))
  · exact (mem rfl).mpr (h.finished id ((mem rfl).mp hf))
  · exact h.silent x (tasks ▸ hx) ((mem rfl).mp ha)
  · rcases h.requested id ((mem rfl).mp hp) with ht | ⟨c, x, hx, -⟩
    · exact .inl ((mem rfl).mpr ht)
    · rw [hx] at idle
      cases idle
  · exact (h.handled id ((mem rfl).mp ht)).imp (mem rfl).mpr (mem rfl).mpr

/-- Some of the tasks are asked to cancel. -/
theorem asks (h : Tracks l H d) {p : TaskId → Bool} (tasks : d'.tasks = (d.withdraw p).tasks)
    (idle : d.phase.task? = none) (idle' : d'.phase.task? = none)
    (asks : ∀ id, .ask l id ∈ ds → p id = true ∧ ∃ x ∈ d.tasks, x.id = id)
    (takes : ∀ id, .take l (.cancel id) ∈ ds → .ask l id ∈ ds ∨ .finish l id ∈ H)
    (other : ∀ e ∈ ds, (∃ id, e = .ask l id) ∨ ∃ r, e = .take l r) : Tracks l (H ++ ds) d' := by
  have none {e : Deed} (ha : ∀ id, e ≠ .ask l id) (ht : ∀ r, e ≠ .take l r) :
      e ∈ H ++ ds ↔ e ∈ H := by
    rw [List.mem_append, or_iff_left]
    intro hd
    rcases other e hd with ⟨id, he⟩ | ⟨r, he⟩
    · exact ha id he
    · exact ht r he
  have start {id i token} := none (e := .start l id i token) (by simp) (by simp)
  have track {id} := none (e := .track l id) (by simp) (by simp)
  have finish {id} := none (e := .finish l id) (by simp) (by simp)
  have push {id} := none (e := .push l (.cancel id)) (by simp) (by simp)
  have ids : d'.tasks.map (·.id) = d.tasks.map (·.id) := by
    rw [tasks, Desk.withdraw, List.map_map]
    refine List.map_congr_left fun y _ => ?_
    simp only [Function.comp_apply]
    split <;> rfl
  have same (id : TaskId) : (∃ x ∈ d'.tasks, x.id = id) ↔ ∃ x ∈ d.tasks, x.id = id := by
    simp only [← List.mem_map, ids]
  refine ⟨?_, fun id => ?_, fun id => ?_, fun c token x hp => ?_, fun id ht => ?_, fun id ha => ?_,
    fun id hf => ?_, fun x hx ha => ?_, fun id hp => ?_, fun id ht => ?_⟩
  · have := h.ids
    simp only [Desk.live, idle, idle', Option.toList_none, List.append_nil] at this ⊢
    rwa [ids]
  · rw [same, track, finish]
    exact h.tasks id
  · have := h.hand id
    simp only [idle, idle', track, start] at this ⊢
    exact this
  · rw [hp] at idle'
    cases idle'
  · obtain ⟨i, token, hs⟩ := h.begun id (track.mp ht)
    exact ⟨i, token, start.mpr hs⟩
  · rw [track]
    rcases List.mem_append.mp ha with ha | ha
    · exact h.asked id ha
    · exact ((h.tasks id).mp (asks id ha).2).1
  · exact track.mpr (h.finished id (finish.mp hf))
  · rw [tasks] at hx
    obtain ⟨y, hy, rfl⟩ := List.mem_map.mp hx
    by_cases hp : p y.id = true
    · rw [if_pos hp]
      rfl
    · rw [if_neg hp] at ha ⊢
      rcases List.mem_append.mp ha with ha | ha
      · exact h.silent y hy ha
      · exact absurd (asks y.id ha).1 hp
  · rcases h.requested id (push.mp hp) with ht | ⟨c, x, hx, -⟩
    · exact .inl (track.mpr ht)
    · rw [hx] at idle
      cases idle
  · rw [finish, List.mem_append]
    rcases List.mem_append.mp ht with ht | ht
    · exact (h.handled id ht).imp_left .inl
    · exact (takes id ht).imp_left .inr

/-- Some of the tasks are finished. -/
theorem finishes (h : Tracks l H d) (tasks : d'.tasks.Sublist d.tasks)
    (idle : d.phase.task? = none) (idle' : d'.phase.task? = none)
    (gone : ∀ x ∈ d.tasks, .finish l x.id ∈ ds ↔ x ∉ d'.tasks)
    (other : ∀ e ∈ ds, ∃ x ∈ d.tasks, e = .finish l x.id) : Tracks l (H ++ ds) d' := by
  have none {e : Deed} (hf : ∀ id, e ≠ .finish l id) : e ∈ H ++ ds ↔ e ∈ H := by
    rw [List.mem_append, or_iff_left]
    intro hd
    obtain ⟨x, -, he⟩ := other e hd
    exact hf x.id he
  have start {id i token} := none (e := .start l id i token) (by simp)
  have track {id} := none (e := .track l id) (by simp)
  have ask {id} := none (e := .ask l id) (by simp)
  have push {id} := none (e := .push l (.cancel id)) (by simp)
  have take {id} := none (e := .take l (.cancel id)) (by simp)
  have once {x y : Tracked} (hx : x ∈ d.tasks) (hy : y ∈ d.tasks) (he : x.id = y.id) : x = y := by
    have ids := h.ids
    simp only [Desk.live, idle, Option.toList_none, List.append_nil] at ids
    exact List.inj_on_of_nodup_map ids hx hy he
  refine ⟨?_, fun id => ?_, fun id => ?_, fun c token x hp => ?_, fun id ht => ?_, fun id ha => ?_,
    fun id hf => ?_, fun x hx ha => ?_, fun id hp => ?_, fun id ht => ?_⟩
  · have := h.ids
    simp only [Desk.live, idle, idle', Option.toList_none, List.append_nil] at this ⊢
    exact this.sublist (tasks.map _)
  · rw [track, List.mem_append, not_or, ← and_assoc, ← h.tasks]
    constructor
    · rintro ⟨x, hx, rfl⟩
      have hx' := tasks.subset hx
      exact ⟨⟨x, hx', rfl⟩, fun hf => (gone x hx').mp hf hx⟩
    · rintro ⟨⟨x, hx, rfl⟩, hf⟩
      exact ⟨x, by_contra fun hn => hf ((gone x hx).mpr hn), rfl⟩
  · have := h.hand id
    simp only [idle, idle', track, start] at this ⊢
    exact this
  · rw [hp] at idle'
    cases idle'
  · obtain ⟨i, token, hs⟩ := h.begun id (track.mp ht)
    exact ⟨i, token, start.mpr hs⟩
  · exact track.mpr (h.asked id (ask.mp ha))
  · rw [track]
    rcases List.mem_append.mp hf with hf | hf
    · exact h.finished id hf
    · obtain ⟨x, hx, he⟩ := other _ hf
      cases he
      exact ((h.tasks x.id).mp ⟨x, hx, rfl⟩).1
  · exact h.silent x (tasks.subset hx) (ask.mp ha)
  · rcases h.requested id (push.mp hp) with ht | ⟨c, x, hx, -⟩
    · exact .inl (track.mpr ht)
    · rw [hx] at idle
      cases idle
  · exact (h.handled id (take.mp ht)).imp ask.mpr (List.mem_append_left ds)

/-- A task is started that has not been heard of. -/
theorem starts (h : Tracks l H d) {c : Handle} {token : Cancellation.Token} {x : Tracked}
    {i : PromiseId} (tasks : d'.tasks = d.tasks) (idle : d.phase.task? = none)
    (phase : d'.phase = .registering c token x)
    (fresh : ∀ j token', .start l x.id j token' ∉ H) :
    Tracks l (H ++ [.start l x.id i token]) d' := by
  have none {e : Deed} (he : e ≠ .start l x.id i token) :
      e ∈ H ++ [.start l x.id i token] ↔ e ∈ H := by
    simp [he]
  have track {id} := none (e := .track l id) (by simp)
  have ask {id} := none (e := .ask l id) (by simp)
  have push {id} := none (e := .push l (.cancel id)) (by simp)
  have take {id} := none (e := .take l (.cancel id)) (by simp)
  have finish {id} := none (e := .finish l id) (by simp)
  have unheard : .track l x.id ∉ H := fun ht => by
    obtain ⟨j, token', hs⟩ := h.begun x.id ht
    exact fresh j token' hs
  have hand' : d'.phase.task? = some x := by rw [phase]; rfl
  refine ⟨?_, fun id => ?_, fun id => ?_, fun c' token' y hp => ?_, fun id ht => ?_, fun id ha => ?_,
    fun id hf => ?_, fun y hy ha => ?_, fun id hp => ?_, fun id ht => ?_⟩
  · have := h.ids
    simp only [Desk.live, idle, hand', tasks, Option.toList_none, List.append_nil,
      Option.toList_some, List.map_append, List.map_cons, List.map_nil] at this ⊢
    refine List.Nodup.append this (List.nodup_singleton _) ?_
    rw [List.disjoint_singleton]
    intro hx
    exact unheard ((h.tasks x.id).mp (List.mem_map.mp hx)).1
  · rw [tasks, track, finish]
    exact h.tasks id
  · have old := h.hand id
    rw [idle] at old
    rw [track, hand']
    constructor
    · rintro ⟨y, hy, rfl⟩
      cases hy
      exact ⟨⟨i, token, by simp⟩, unheard⟩
    · rintro ⟨⟨j, token', hs⟩, ht⟩
      rcases List.mem_append.mp hs with hs | hs
      · obtain ⟨y, hy, -⟩ := old.mpr ⟨⟨j, token', hs⟩, ht⟩
        cases hy
      · cases List.mem_singleton.mp hs
        exact ⟨x, rfl, rfl⟩
  · rw [phase] at hp
    cases hp
    exact ⟨i, by simp⟩
  · obtain ⟨j, token', hs⟩ := h.begun id (track.mp ht)
    exact ⟨j, token', List.mem_append_left _ hs⟩
  · exact track.mpr (h.asked id (ask.mp ha))
  · exact track.mpr (h.finished id (finish.mp hf))
  · exact h.silent y (tasks ▸ hy) (ask.mp ha)
  · rcases h.requested id (push.mp hp) with ht | ⟨c', y, hy, -⟩
    · exact .inl (track.mpr ht)
    · rw [hy] at idle
      cases idle
  · exact (h.handled id (take.mp ht)).imp ask.mpr finish.mpr

/-- A task that has been started is registered, or its cancellation is requested at once. -/
theorem registers (h : Tracks l H d) {c : Handle} {token : Cancellation.Token} {x x' : Tracked}
    (tasks : d'.tasks = d.tasks) (phase : d.phase = .registering c token x)
    (phase' : d'.phase = .accepting c x') (same : x'.id = x.id)
    (hds : ds = [] ∨ ds = [.push l (.cancel x.id)]) : Tracks l (H ++ ds) d' := by
  have none {e : Deed} (he : e ≠ .push l (.cancel x.id)) : e ∈ H ++ ds ↔ e ∈ H := by
    rcases hds with rfl | rfl <;> simp [he]
  have start {id i token} := none (e := .start l id i token) (by simp)
  have track {id} := none (e := .track l id) (by simp)
  have ask {id} := none (e := .ask l id) (by simp)
  have take {id} := none (e := .take l (.cancel id)) (by simp)
  have finish {id} := none (e := .finish l id) (by simp)
  have hand : d.phase.task? = some x := by rw [phase]; rfl
  have hand' : d'.phase.task? = some x' := by rw [phase']; rfl
  have known : Known l (H ++ ds) d' x.id := .inr ⟨c, x', phase', same⟩
  refine ⟨?_, fun id => ?_, fun id => ?_, fun c' token' y hp => ?_, fun id ht => ?_, fun id ha => ?_,
    fun id hf => ?_, fun y hy ha => ?_, fun id hp => ?_, fun id ht => ?_⟩
  · simpa [Desk.live, hand, hand', tasks, same] using h.ids
  · rw [tasks, track, finish]
    exact h.tasks id
  · have old := h.hand id
    simp only [track, start]
    rw [← old, hand, hand']
    simp [same]
  · cases phase'.symm.trans hp
  · obtain ⟨i, token', hs⟩ := h.begun id (track.mp ht)
    exact ⟨i, token', start.mpr hs⟩
  · exact track.mpr (h.asked id (ask.mp ha))
  · exact track.mpr (h.finished id (finish.mp hf))
  · exact h.silent y (tasks ▸ hy) (ask.mp ha)
  · by_cases hx : id = x.id
    · exact hx ▸ known
    · rcases h.requested id ((none (by simpa using hx)).mp hp) with ht | ⟨c', y, hy, -⟩
      · exact .inl (track.mpr ht)
      · cases phase.symm.trans hy
  · exact (h.handled id (take.mp ht)).imp ask.mpr finish.mpr

/-- A driver keeps track of the task that it has in hand. -/
theorem accepts (h : Tracks l H d) {c : Handle} {x : Tracked} (phase : d.phase = .accepting c x)
    (tasks : d'.tasks = d.tasks ++ [x]) (idle' : d'.phase.task? = none) :
    Tracks l (H ++ [.track l x.id]) d' := by
  have none {e : Deed} (he : e ≠ .track l x.id) : e ∈ H ++ [.track l x.id] ↔ e ∈ H := by
    simp [he]
  have start {id i token} := none (e := .start l id i token) (by simp)
  have ask {id} := none (e := .ask l id) (by simp)
  have push {id} := none (e := .push l (.cancel id)) (by simp)
  have take {id} := none (e := .take l (.cancel id)) (by simp)
  have finish {id} := none (e := .finish l id) (by simp)
  have hand : d.phase.task? = some x := by rw [phase]; rfl
  obtain ⟨⟨i, token, hs⟩, unheard⟩ := (h.hand x.id).mp ⟨x, hand, rfl⟩
  have track {id : TaskId} (ht : .track l id ∈ H) : .track l id ∈ H ++ [.track l x.id] :=
    List.mem_append_left _ ht
  have tracked {id : TaskId} : .track l id ∈ H ++ [.track l x.id] ↔ .track l id ∈ H ∨ id = x.id := by
    simp
  refine ⟨?_, fun id => ?_, fun id => ?_, fun c' token' y hp => ?_, fun id ht => ?_, fun id ha => ?_,
    fun id hf => ?_, fun y hy ha => ?_, fun id hp => ?_, fun id ht => ?_⟩
  · simpa [Desk.live, hand, idle', tasks] using h.ids
  · rw [tracked, finish, or_and_right, ← h.tasks, tasks]
    simp only [List.mem_append, List.mem_singleton, or_and_right, exists_or, exists_eq_left]
    refine or_congr_right ⟨fun he => ⟨he.symm, he ▸ fun hf => unheard (h.finished x.id hf)⟩,
      fun he => he.1.symm⟩
  · simp only [idle', start, tracked]
    constructor
    · rintro ⟨y, ⟨⟩, -⟩
    · rintro ⟨hs, ht⟩
      obtain ⟨y, hy, he⟩ := (h.hand id).mpr ⟨hs, fun h => ht (.inl h)⟩
      rw [hand] at hy
      cases hy
      exact absurd (.inr he.symm) ht
  · rw [hp] at idle'
    cases idle'
  · simp only [start]
    rcases tracked.mp ht with ht | rfl
    · exact h.begun id ht
    · exact ⟨i, token, hs⟩
  · exact track (h.asked id (ask.mp ha))
  · exact track (h.finished id (finish.mp hf))
  · rw [ask] at ha
    rw [tasks] at hy
    rcases List.mem_append.mp hy with hy | hy
    · exact h.silent y hy ha
    · cases List.mem_singleton.mp hy
      exact absurd (h.asked x.id ha) unheard
  · rcases h.requested id (push.mp hp) with ht | ⟨c', y, hy, rfl⟩
    · exact .inl (track ht)
    · cases phase.symm.trans hy
      exact .inl (tracked.mpr (.inr rfl))
  · exact (h.handled id (take.mp ht)).imp ask.mpr finish.mpr

/-- A request is pushed; only the cancellation of a known task is requested. -/
theorem pushes (h : Tracks l H d) {r : Request} (tasks : d'.tasks = d.tasks)
    (phase : d'.phase = d.phase) (known : ∀ id, r = .cancel id → Known l (H ++ [.push l r]) d' id) :
    Tracks l (H ++ [.push l r]) d' := by
  have none {e : Deed} (he : ∀ r, e ≠ .push l r) : e ∈ H ++ [.push l r] ↔ e ∈ H := by
    simp [he]
  have start {id i token} := none (e := .start l id i token) (by simp)
  have track {id} := none (e := .track l id) (by simp)
  have ask {id} := none (e := .ask l id) (by simp)
  have finish {id} := none (e := .finish l id) (by simp)
  have take {id} := none (e := .take l (.cancel id)) (by simp)
  have live : d'.live = d.live := by rw [Desk.live, Desk.live, tasks, phase]
  have same {id : TaskId} : Known l (H ++ [.push l r]) d' id ↔ Known l H d id := by
    rw [Known, Known, track, phase]
  exact {
    ids := live ▸ h.ids
    tasks := by simpa only [tasks, track, finish] using h.tasks
    hand := by simpa only [phase, start, track] using h.hand
    token := by simpa only [phase, start] using h.token
    begun := by simpa only [start, track] using h.begun
    asked := by simpa only [ask, track] using h.asked
    finished := by simpa only [finish, track] using h.finished
    silent := by simpa only [tasks, ask] using h.silent
    requested := fun id hp => by
      rcases List.mem_append.mp hp with hp | hp
      · exact same.mpr (h.requested id hp)
      · cases List.mem_singleton.mp hp
        exact known id rfl
    handled := by simpa only [take, ask, finish] using h.handled }

/-- A request to cancel a task that waits in the queue has been pushed. -/
theorem pushed_of_waiting (order : InOrder l H d) (own : ∀ e ∈ H, e.loop = l) {r : Request}
    (hr : r ∈ d.requests) : .push l r ∈ H := by
  have hp : r ∈ pushed H := by
    rw [order.order]
    exact List.mem_append_right _ hr
  obtain ⟨e, he, hs⟩ := List.mem_filterMap.mp hp
  cases e with
  | push k r' =>
    cases hs
    exact own _ he ▸ he
  | _ => cases hs

/-- What a driver does with a request to cancel or to stop. -/
theorem asks_or_takes (r : Request) (xs : List Tracked) :
    ∀ e ∈ Deed.take l r :: xs.map (fun x => .ask l x.id), (∃ id, e = .ask l id) ∨ ∃ r, e = .take l r := by
  intro e he
  rcases List.mem_cons.mp he with rfl | he
  · exact .inr ⟨r, rfl⟩
  · obtain ⟨x, -, rfl⟩ := List.mem_map.mp he
    exact .inl ⟨x.id, rfl⟩

/-- A task that is to be cancelled is asked to, unless it is finished. -/
theorem takesCancel (h : Tracks l H d) {id : TaskId} {rest : List Request}
    (phase : d.phase = .draining) (pushed : .push l (.cancel id) ∈ H) :
    Tracks l (H ++ .take l (.cancel id) ::
        (d.tasks.find? (·.id == id)).toList.map fun x => .ask l x.id)
      (Desk.withdraw { d with requests := rest } (· == id)) := by
  have idle : d.phase.task? = none := by rw [phase]; rfl
  refine h.asks (p := (· == id)) rfl idle idle (fun id' ha => ?_) (fun id' ht => ?_)
    (asks_or_takes (.cancel id) _)
  · obtain ⟨rfl, hx⟩ := mem_asked.mp ((List.mem_cons.mp ha).resolve_left (by rintro ⟨⟩))
    exact ⟨beq_self_eq_true id', hx⟩
  · obtain rfl : id' = id := by simpa using ht
    rcases h.requested id' pushed with ht | ⟨c, x, hx, -⟩
    · by_cases hf : .finish l id' ∈ H
      · exact .inr hf
      · exact .inl (List.mem_cons_of_mem _ (mem_asked.mpr ⟨rfl, (h.tasks id').mpr ⟨ht, hf⟩⟩))
    · cases phase.symm.trans hx

/-- A task that is found done is taken off the list, and only that one. -/
theorem concludes (h : Tracks l H d) {n : Nat} {x : Tracked} (phase : d.phase = .concluding n)
    (here : d.tasks[n]? = some x) :
    Tracks l (H ++ [.finish l x.id]) { d with tasks := d.tasks.eraseIdx n } := by
  have idle : d.phase.task? = none := by rw [phase]; rfl
  have ids := h.ids
  simp only [Desk.live, idle, Option.toList_none, List.append_nil] at ids
  have perm := Desk.perm_of_getElem? here
  have gone : x ∉ d.tasks.eraseIdx n := by
    intro hx
    have twice := (perm.map (·.id)).nodup_iff.mpr ids
    rw [List.map_cons, List.nodup_cons] at twice
    exact twice.1 (List.mem_map_of_mem hx)
  refine h.finishes (List.eraseIdx_sublist _ _) idle idle (fun y hy => ?_) (fun e he => ?_)
  · rw [List.mem_singleton, Deed.finish.injEq, and_iff_right rfl]
    constructor
    · intro he
      rwa [List.inj_on_of_nodup_map ids hy (List.mem_of_getElem? here) he]
    · intro hy'
      rcases List.mem_cons.mp (perm.mem_iff.mpr hy) with rfl | hy
      · rfl
      · exact absurd hy hy'
  · exact ⟨x, List.mem_of_getElem? here, List.mem_singleton.mp he⟩

/-- Every turn of a desk keeps to the life of its tasks. Tasks are started with numbers that have not
been used, and only the cancellation of a known task is requested. -/
theorem turn (h : Tracks l H d) (order : InOrder l H d) (own : ∀ e ∈ H, e.loop = l)
    (turn : d.Turn l ds d')
    (fresh : ∀ id i token, .start l id i token ∈ ds → ∀ j token', .start l id j token' ∉ H)
    (known : ∀ id, .push l (.cancel id) ∈ ds → Known l (H ++ ds) d' id) : Tracks l (H ++ ds) d' := by
  cases turn with
  | idle =>
    rw [List.append_nil]
    exact h
  | opened vacant =>
    subst vacant
    exact h.still rfl rfl rfl (by simp)
  | push r isOpen => exact h.pushes rfl rfl fun id hr => known id (by simp [hr])
  | go phase goes =>
    refine h.still rfl ?_ ?_ (by simp)
    · cases goes <;> simp [*, Phase.task?]
    · cases goes <;> rfl
  | fail phase =>
    refine h.finishes (List.nil_sublist _) ?_ rfl (fun x hx => ?_) (fun e he => ?_)
    · rcases phase with hp | ⟨n, hp⟩ <;> rw [hp] <;> rfl
    · simp only [List.not_mem_nil, not_false_eq_true, iff_true]
      exact List.mem_map_of_mem (f := fun x => Deed.finish l x.id) hx
    · obtain ⟨x, hx, rfl⟩ := List.mem_map.mp he
      exact ⟨x, hx, rfl⟩
  | takeSchedule c token i rest phase hr =>
    exact h.still rfl (by rw [phase]; rfl) rfl (by simp [Deed.task?])
  | takeCancel id rest phase hr =>
    exact h.takesCancel phase (pushed_of_waiting order own (by rw [hr]; exact List.mem_cons_self))
  | takeStop rest phase hr run =>
    have idle : d.phase.task? = none := by rw [phase]; rfl
    exact h.asks (p := fun _ => true) rfl idle idle (fun id' ha => ⟨rfl, by simpa using ha⟩)
      (by simp) (asks_or_takes .stop d.tasks)
  | takeAnother rest phase hr stopping =>
    have idle : d.phase.task? = none := by rw [phase]; rfl
    exact h.still rfl idle idle (by simp [Deed.task?])
  | reject c token i why phase hw =>
    exact h.still rfl (by rw [phase]; rfl) rfl (by simp [Deed.task?])
  | start c token i x phase run =>
    exact h.starts rfl (by rw [phase]; rfl) rfl fun j token' =>
      fresh x.id i token (List.mem_singleton_self _) j token'
  | register c token x r phase => exact h.registers rfl phase rfl rfl (.inl rfl)
  | overtaken c token x phase => exact h.registers rfl phase rfl rfl (.inr rfl)
  | accept c x phase => exact h.accepts phase rfl rfl
  | disown c x phase =>
    have tracked : Tracks l (H ++ [.track l x.id])
      { d with tasks := d.tasks ++ [x], phase := .draining } := h.accepts phase rfl rfl
    have asked : Tracks l (H ++ [.track l x.id] ++ [.ask l x.id])
        (Desk.withdraw { d with tasks := d.tasks ++ [x], phase := .draining } (· == x.id)) :=
      tracked.asks (p := (· == x.id)) rfl rfl rfl (by simp) (by simp) (by simp)
    rwa [List.append_assoc] at asked
  | conclude n x phase here => exact h.concludes phase here
  | leave phase =>
    have idle : d.phase.task? = none := by rw [phase]; rfl
    exact h.still rfl idle rfl (by simp [Deed.task?])

end Tracks

end EmbeddedPython
