import EmbeddedPython.Proofs.Asyncio.StopOnDone

/-
  How a loop notices

  A loop stops when its flag is set, and the flag is set by what is in the ready
  queue. A task that is done has been noticed if the flag is set or the callback
  of the task is ready. That stays so while the memory evolves and while other
  loops run, and running an entry of the queue replaces the entry by the flag.
-/

namespace EmbeddedPython.Memory

/-- Whether an entry of a ready queue calls `stop` of a loop: it is the bound method itself, or the
callback of every task for a future of the loop. -/
inductive CallsStop (m : Memory) (loop : Ref) : Scheduled → Prop where
  | bound {f : Ref} {arguments : List Ref} (h : m.valueOf f = .nativeMethod .eventLoop "stop" loop) :
      CallsStop m loop (.call f arguments)
  | callback {d t : Ref} {f : Future} (h : m.IsStopOnDone d) (future : m.GenuineFuture t f)
      (same : f.loop = loop) : CallsStop m loop (.call d [t])

/-- Whether an object is a future of a loop, as asyncio makes them, from which no program has taken
a callback off. -/
structure Attached (m : Memory) (loop callback task : Ref) (f : Future) : Prop where
  future : m.GenuineFuture task f
  same : f.loop = loop
  kept : Callback.call callback ∉ f.removed

/-- Whether a loop has been told to stop, or has its own `stop` in its ready queue, or is closed. -/
def Roused (m : Memory) (loop : Ref) : Prop :=
  ∀ x, m.valueOf loop = .loop x → x.closed = true ∨ x.stopping = true ∨
    ∃ f arguments, m.valueOf f = .nativeMethod .eventLoop "stop" loop ∧
      .call f arguments ∈ x.ready

/-- Whether a task has its callback as long as it is pending, and says by `done` whether it is. -/
structure Watched (m : Memory) (loop callback task done : Ref) : Prop where
  made : m.Has task
  pending : m.GenuineLoop loop → ∀ f, m.Attached loop callback task f →
    f.outcome.isDone = false → Callback.call callback ∈ f.callbacks
  method : m.GenuineLoop loop → ∀ f, m.Attached loop callback task f →
    ∃ o, (o = .future ∨ o = .task) ∧ m.valueOf done = .nativeMethod o "done" task

/-- Whether a loop knows of a task that is done. -/
def Noticed (m : Memory) (loop callback task : Ref) : Prop :=
  ∀ f, m.Attached loop callback task f → f.outcome.isDone = true →
    m.Halted loop ∨ m.Due loop (.call callback [task])

/-! ## What stays whatever loops do -/

/-- What a memory may become when programs run and loops do. -/
structure Retains (m n : Memory) : Prop where
  has : ∀ {r : Ref}, m.Has r → n.Has r
  method : ∀ {r : Ref} {owner : Builtin} {name : String} {self : Ref},
    m.valueOf r = .nativeMethod owner name self → n.valueOf r = .nativeMethod owner name self
  stopOnDone : ∀ {r : Ref}, m.IsStopOnDone r → n.IsStopOnDone r
  isLoop : ∀ {r : Ref}, m.IsLoop r → n.IsLoop r
  future : ∀ {r : Ref} {f : Future}, m.valueOf r = .future f →
    ∃ g, n.valueOf r = .future g ∧ f.Becomes g
  genuine : ∀ {r : Ref} {c : Builtin}, m.Has r → (n.valueOf r).isAsyncio = true → n.Genuine r c →
    (m.valueOf r).isAsyncio = true ∧ m.Genuine r c

namespace Retains

variable {m n k : Memory} {r : Ref}

theorem of_evolves (h : m.Evolves n) : m.Retains n where
  has := h.has
  method := h.method
  stopOnDone := h.isStopOnDone
  isLoop := h.isLoop
  future hf := by
    obtain ⟨g, hg, hfg, -⟩ := h.future hf
    exact ⟨g, hg, hfg⟩
  genuine := h.genuine

theorem refl (m : Memory) : m.Retains m := of_evolves (.refl m)

theorem trans (mn : m.Retains n) (nk : n.Retains k) : m.Retains k where
  has hr := nk.has (mn.has hr)
  method hr := nk.method (mn.method hr)
  stopOnDone hr := nk.stopOnDone (mn.stopOnDone hr)
  isLoop hr := nk.isLoop (mn.isLoop hr)
  future hf := by
    obtain ⟨g, hg, hfg⟩ := mn.future hf
    obtain ⟨i, hi, hgi⟩ := nk.future hg
    exact ⟨i, hi, hfg.trans hgi⟩
  genuine hr hv hg := by
    obtain ⟨hv', hg'⟩ := nk.genuine (mn.has hr) hv hg
    exact mn.genuine hr hv' hg'

/-- What is a genuine loop has been one before. -/
theorem genuineLoop (h : m.Retains n) (made : m.Has r) (hn : n.GenuineLoop r) :
    m.GenuineLoop r := by
  obtain ⟨y, hy⟩ := hn.loop
  obtain ⟨hv, hg⟩ := h.genuine made (by rw [hy]; rfl) hn.genuine
  refine ⟨?_, hg⟩
  cases hm : m.valueOf r with
  | loop x => exact ⟨x, hm⟩
  | future f =>
    obtain ⟨g, hg, -⟩ := h.future hm
    rw [hy] at hg
    cases hg
  | _ =>
    rw [hm] at hv
    cases hv

/-- What is a genuine future has been one before. -/
theorem genuineFuture (h : m.Retains n) (made : m.Has r) {g : Future} (hn : n.GenuineFuture r g) :
    ∃ f, m.GenuineFuture r f ∧ f.Becomes g := by
  have hv : (m.valueOf r).isAsyncio = true := by
    rcases hn.genuine with hg | hg <;> exact (h.genuine made (by rw [hn.value]; rfl) hg).1
  have before : m.Genuine r .future ∨ m.Genuine r .task :=
    hn.genuine.imp (fun hg => (h.genuine made (by rw [hn.value]; rfl) hg).2)
      fun hg => (h.genuine made (by rw [hn.value]; rfl) hg).2
  cases hm : m.valueOf r with
  | future f =>
    obtain ⟨g', hg', hfg⟩ := h.future hm
    rw [hn.value] at hg'
    cases hg'
    exact ⟨f, ⟨hm, before⟩, hfg⟩
  | loop x =>
    obtain ⟨y, hy⟩ := h.isLoop ⟨x, hm⟩
    rw [hn.value] at hy
    cases hy
  | _ =>
    rw [hm] at hv
    cases hv

/-- What is attached has been attached before. -/
theorem attached (h : m.Retains n) {loop callback : Ref} (made : m.Has r) {g : Future}
    (hn : n.Attached loop callback r g) : ∃ f, m.Attached loop callback r f ∧ f.Becomes g := by
  obtain ⟨f, hf, hfg⟩ := h.genuineFuture made hn.future
  exact ⟨f, ⟨hf, hfg.loop.symm.trans hn.same, fun hc => hn.kept (hfg.removed _ hc)⟩, hfg⟩

/-- A loop in the place of a loop. -/
theorem setLoop {x : Loop} (h : m.valueOf r = .loop x) (y : Loop) :
    m.Retains (m.setValue r (.loop y)) := by
  have static (s : Static) : r ≠ .static s := by
    rintro rfl
    cases s <;> cases h
  have here := valueOf_setValue (by rw [h]; nofun) static (.loop y)
  have other {s : Ref} {v : Value} (hs : m.valueOf s = v) (hv : ∀ z, v ≠ .loop z) :
      (m.setValue r (.loop y)).valueOf s = v := by
    rw [valueOf_setValue_of_ne (fun hr => hv x (by rw [← hs, hr, h]))]
    exact hs
  have object (s : Ref) : (m.setValue r (.loop y)).classOf s = m.classOf s ∧
      ((m.setValue r (.loop y)).object s).attributes = (m.object s).attributes := by
    by_cases hr : s = r
    · subst hr
      rcases m.object_set_self s { m.object s with value := .loop y } with ho | ho
      · exact ⟨(congrArg Object.cls ho :), (congrArg Object.attributes ho :)⟩
      · exact ⟨congrArg Object.cls (object_congr ho s), congrArg Object.attributes (object_congr ho s)⟩
    · have ho := m.object_set_of_ne hr { m.object r with value := .loop y }
      exact ⟨congrArg Object.cls ho, congrArg Object.attributes ho⟩
  refine ⟨fun hs => hs.of_size_le (Nat.le_of_eq (m.size_set r _).symm), fun hs => other hs nofun,
    fun hs => ?_, fun {s} hs => ?_, fun {s f} hs => ⟨f, other hs nofun, .refl f⟩,
    fun {s c} _ hv hg => ⟨?_, (object s).1 ▸ hg.cls, (object s).2 ▸ hg.attributes, ?_⟩⟩
  · obtain ⟨name, scope, hf⟩ := hs
    exact ⟨name, scope, other hf nofun⟩
  · by_cases hr : s = r
    · exact ⟨y, hr ▸ here⟩
    · obtain ⟨z, hz⟩ := hs
      exact ⟨z, (valueOf_setValue_of_ne hr _).trans hz⟩
  · by_cases hr : s = r
    · rw [hr, h]
      rfl
    · rwa [valueOf_setValue_of_ne hr] at hv
  · exact (m.customized_set r _) ▸ hg.untouched

end Retains

/-- How a memory may become another while programs run and one loop does. -/
inductive Moves (loop : Ref) : Memory → Memory → Prop where
  | evolves {m n : Memory} (h : m.Evolves n) : Moves loop m n
  /-- the driver of the loop changes it -/
  | setLoop {m : Memory} {x : Loop} (h : m.valueOf loop = .loop x) (y : Loop) :
      Moves loop m (m.setValue loop (.loop y))
  | trans {m n k : Memory} (mn : Moves loop m n) (nk : Moves loop n k) : Moves loop m k

theorem Moves.retains {loop : Ref} {m n : Memory} (h : Moves loop m n) : m.Retains n := by
  induction h with
  | evolves h => exact .of_evolves h
  | setLoop h y => exact .setLoop h y
  | trans _ _ mn nk => exact mn.trans nk

/-! ## What stays for one loop -/

/-- What a memory may become when programs run and other loops than the given one do. -/
structure EvolvesFor (loop : Ref) (m n : Memory) : Prop extends m.Retains n where
  becomes : ∀ {x : Loop}, m.valueOf loop = .loop x → ∃ y, n.valueOf loop = .loop y ∧ x.Becomes y
  callbacks : ∀ {r : Ref} {f : Future}, m.valueOf r = .future f → f.loop = loop → m.IsLoop loop →
    f.outcome.isDone = false → ∀ g, n.valueOf r = .future g → ∀ c ∈ f.callbacks, n.Keeps r g c

namespace EvolvesFor

variable {m n k : Memory} {loop : Ref}

theorem of_evolves (h : m.Evolves n) : EvolvesFor loop m n where
  toRetains := .of_evolves h
  becomes := h.loop
  callbacks hf same hl hp g hg := by
    obtain ⟨g', hg', -, kept⟩ := h.future hf
    rw [hg] at hg'
    cases hg'
    exact kept (same ▸ hl) hp

theorem due (h : EvolvesFor loop m n) {entry : Scheduled} (hl : m.IsLoop loop)
    (hd : m.Due loop entry) : n.Due loop entry := by
  obtain ⟨x, hx⟩ := hl
  obtain ⟨y, hy, hxy⟩ := h.becomes hx
  intro z hz
  rw [hy] at hz
  cases hz
  rcases hd x hx with hc | he
  · exact .inl (hxy.closed hc)
  · exact hxy.ready.imp id fun hp => hp.subset he

theorem halted (h : EvolvesFor loop m n) (hl : m.IsLoop loop) (hm : m.Halted loop) :
    n.Halted loop := by
  obtain ⟨x, hx⟩ := hl
  obtain ⟨y, hy, hxy⟩ := h.becomes hx
  intro z hz
  rw [hy] at hz
  cases hz
  exact (hm x hx).imp hxy.closed hxy.stopping

/-- What has become of a callback of a future of the loop stays so. -/
theorem keeps (h : EvolvesFor loop m n) {r : Ref} {f g : Future} {c : Callback}
    (hf : m.valueOf r = .future f) (same : f.loop = loop) (hl : m.IsLoop loop)
    (hg : n.valueOf r = .future g) (kept : m.Keeps r f c) : n.Keeps r g c := by
  obtain ⟨g', hg', hfg⟩ := h.future hf
  rw [hg] at hg'
  cases hg'
  rcases kept with ⟨hd, hc⟩ | hc | ⟨hd, hdue⟩
  · exact h.callbacks hf same hl hd g hg c hc
  · exact .inr (.inl (hfg.removed c hc))
  · refine .inr (.inr ⟨hfg.done hd, ?_⟩)
    rw [hfg.loop, same]
    exact h.due hl (same ▸ hdue)

theorem trans (mn : EvolvesFor loop m n) (nk : EvolvesFor loop n k) : EvolvesFor loop m k where
  toRetains := mn.toRetains.trans nk.toRetains
  becomes hx := by
    obtain ⟨y, hy, hxy⟩ := mn.becomes hx
    obtain ⟨z, hz, hyz⟩ := nk.becomes hy
    exact ⟨z, hz, hxy.trans hyz⟩
  callbacks {r f} hf same hl hp g hg c hc := by
    obtain ⟨i, hi, hfi⟩ := mn.future hf
    exact nk.keeps hi (hfi.loop.trans same) (mn.isLoop hl) hg (mn.callbacks hf same hl hp i hi c hc)

/-- Another loop runs. -/
theorem setLoop {r : Ref} {x : Loop} (h : m.valueOf r = .loop x) (y : Loop) (hr : r ≠ loop) :
    EvolvesFor loop m (m.setValue r (.loop y)) where
  toRetains := .setLoop h y
  becomes {z} hz := ⟨z, (valueOf_setValue_of_ne hr.symm _).trans hz, .refl z⟩
  callbacks {s f} hf _ _ hp g hg c hc := by
    have hs : s ≠ r := by
      rintro rfl
      rw [h] at hf
      cases hf
    rw [valueOf_setValue_of_ne hs, hf] at hg
    cases hg
    exact .inl ⟨hp, hc⟩

theorem of_moves {other : Ref} (hr : other ≠ loop) (h : Moves other m n) : EvolvesFor loop m n := by
  induction h with
  | evolves h => exact .of_evolves h
  | setLoop h y => exact .setLoop h y hr
  | trans _ _ mn nk => exact mn.trans nk

end EvolvesFor

/-! ## Being roused and being noticed -/

section

variable {m n : Memory} {loop callback task done : Ref}

theorem Halted.roused (h : m.Halted loop) : m.Roused loop :=
  fun x hx => (h x hx).imp id .inl

/-- A loop with its own `stop` in its ready queue is roused. -/
theorem Due.roused {f : Ref} {arguments : List Ref} (h : m.Due loop (.call f arguments))
    (stop : m.valueOf f = .nativeMethod .eventLoop "stop" loop) : m.Roused loop :=
  fun x hx => (h x hx).imp id fun ready => .inr ⟨f, arguments, stop, ready⟩

theorem Roused.evolves (h : m.Roused loop) (he : EvolvesFor loop m n) (hl : m.IsLoop loop) :
    n.Roused loop := by
  obtain ⟨x, hx⟩ := hl
  obtain ⟨y, hy, hxy⟩ := he.becomes hx
  intro z hz
  rw [hy] at hz
  cases hz
  rcases h x hx with hc | hs | ⟨f, arguments, hf, hmem⟩
  · exact .inl (hxy.closed hc)
  · exact .inr (.inl (hxy.stopping hs))
  · rcases hxy.ready with hc | hp
    · exact .inl hc
    · exact .inr (.inr ⟨f, arguments, he.method hf, hp.subset hmem⟩)

theorem Watched.retains (h : m.Watched loop callback task done) (hr : m.Retains n)
    (made : m.Has loop)
    (pending : n.GenuineLoop loop → ∀ f g, m.Attached loop callback task f →
      n.Attached loop callback task g → Callback.call callback ∈ f.callbacks →
      f.outcome.isDone = false → g.outcome.isDone = false → Callback.call callback ∈ g.callbacks) :
    n.Watched loop callback task done where
  made := hr.has h.made
  pending hl g hg hp := by
    obtain ⟨f, hf, hfg⟩ := hr.attached h.made hg
    have hfp : f.outcome.isDone = false := by
      refine Bool.eq_false_iff.mpr fun hd => ?_
      rw [hfg.done hd] at hp
      cases hp
    exact pending hl f g hf hg (h.pending (hr.genuineLoop made hl) f hf hfp) hfp hp
  method hl g hg := by
    obtain ⟨f, hf, -⟩ := hr.attached h.made hg
    obtain ⟨o, ho, hd⟩ := h.method (hr.genuineLoop made hl) f hf
    exact ⟨o, ho, hr.method hd⟩

theorem Watched.evolves (h : m.Watched loop callback task done) (he : EvolvesFor loop m n)
    (made : m.Has loop) : n.Watched loop callback task done := by
  refine h.retains he.toRetains made fun hl f g hf hg hc hfp hgp => ?_
  have hm := he.toRetains.genuineLoop made hl
  rcases he.callbacks hf.future.value hf.same hm.loop hfp g hg.future.value _ hc with
    ⟨-, hc'⟩ | hc' | ⟨hd, -⟩
  · exact hc'
  · exact absurd hc' hg.kept
  · rw [hgp] at hd
    cases hd

/-- A watched task that becomes done is noticed. -/
theorem Noticed.evolves (h : m.Noticed loop callback task)
    (hw : m.Watched loop callback task done) (he : EvolvesFor loop m n)
    (made : m.Has loop) (hl : n.GenuineLoop loop) : n.Noticed loop callback task := by
  intro g hg hd
  have hm := he.toRetains.genuineLoop made hl
  obtain ⟨f, hf, hfg⟩ := he.toRetains.attached hw.made hg
  cases hfp : f.outcome.isDone with
  | true => exact (h f hf hfp).imp (he.halted hm.loop) (he.due hm.loop)
  | false =>
    rcases he.callbacks hf.future.value hf.same hm.loop hfp g hg.future.value _
      (hw.pending hm f hf hfp) with ⟨hp, -⟩ | hc | ⟨-, hdue⟩
    · rw [hd] at hp
      cases hp
    · exact absurd hc hg.kept
    · exact .inr (hg.same ▸ hdue)

/-! ## What the driver of the loop does -/

/-- Running an entry that calls `stop` sets the flag. -/
theorem CallsStop.run {entry : Scheduled} (h : m.CallsStop loop entry) (hl : m.GenuineLoop loop) :
    ((Eval.runReady Machine.top loop entry).run m).2.Halted loop := by
  cases h with
  | @bound f arguments hf =>
    obtain ⟨k, hk, he⟩ := Eval.runReady_call loop f arguments m
    have hkl := hl.adds hk
    have stopped := Eval.call_stop (machine 999) (hk.valueOf hf nofun) hkl.loop arguments
    rw [stopped] at he
    obtain ⟨x, hx⟩ := hkl.loop
    have set := valueOf_changeLoop hx fun x => { x with stopping := true }
    refine he.halted ⟨_, set⟩ fun y hy => ?_
    rw [set] at hy
    cases hy
    exact .inr rfl
  | @callback d t f hd hf same =>
    obtain ⟨k, hk, he⟩ := Eval.runReady_call loop d [t] m
    have hkl := hl.adds hk
    have hkd : k.IsStopOnDone d := by
      obtain ⟨name, scope, hv⟩ := hd
      exact ⟨name, scope, hk.valueOf hv nofun⟩
    have stopped := Eval.call_stopOnDone 998 hkd (hf.adds hk) (same.symm ▸ hkl)
    rw [same] at stopped
    exact he.halted (((Eval.callObject (machine 999) d [t] []).evolves k).isLoop hkl.loop) stopped

variable {x y : Loop}

theorem valueOf_setLoop (hx : m.valueOf loop = .loop x) (y : Loop) :
    (m.setValue loop (.loop y)).valueOf loop = .loop y := by
  refine valueOf_setValue (by rw [hx]; nofun) (fun s hs => ?_) _
  subst hs
  cases s <;> cases hx

/-- A loop that changes is no future. -/
theorem Attached.of_setLoop {r : Ref} {f : Future} (hx : m.valueOf r = .loop x)
    (made : m.Has task) (hf : (m.setValue r (.loop y)).Attached loop callback task f) :
    m.Attached loop callback task f := by
  obtain ⟨g, hg, -⟩ := (Retains.setLoop hx y).attached made hf
  have other : task ≠ r := by
    rintro rfl
    have hv := hg.future.value
    rw [hx] at hv
    cases hv
  have hv := hf.future.value
  rw [valueOf_setValue_of_ne other, hg.future.value] at hv
  cases hv
  exact hg

theorem Watched.setLoop {r : Ref} (h : m.Watched loop callback task done)
    (hx : m.valueOf r = .loop x) (y : Loop) (made : m.Has loop) :
    (m.setValue r (.loop y)).Watched loop callback task done := by
  refine h.retains (.setLoop hx y) made fun _ f g hf hg hc _ _ => ?_
  have hg' := hg.of_setLoop hx h.made
  have hv := hg'.future.value
  rw [hf.future.value] at hv
  cases hv
  exact hc

/-- A task stays watched whatever happens. -/
theorem Watched.moves {r : Ref} (h : m.Watched loop callback task done) (hm : Moves r m n)
    (made : m.Has loop) : n.Watched loop callback task done := by
  induction hm with
  | evolves he => exact h.evolves (.of_evolves he) made
  | setLoop hx y => exact h.setLoop hx y made
  | trans mn _ ihm ihn => exact ihn (ihm h made) (mn.retains.has made)

/-- A loop that is known to be roused stays so if it forgets nothing. -/
theorem Roused.setLoop (h : m.Roused loop) (hx : m.valueOf loop = .loop x)
    (closed : x.closed = true → y.closed = true)
    (stopping : x.stopping = true → y.stopping = true) (ready : x.ready ⊆ y.ready) :
    (m.setValue loop (.loop y)).Roused loop := by
  intro z hz
  rw [valueOf_setLoop hx] at hz
  cases hz
  rcases h x hx with hc | hs | ⟨f, arguments, hf, hmem⟩
  · exact .inl (closed hc)
  · exact .inr (.inl (stopping hs))
  · exact .inr (.inr ⟨f, arguments, (Retains.setLoop hx y).method hf, ready hmem⟩)

theorem Noticed.setLoop (h : m.Noticed loop callback task) (hx : m.valueOf loop = .loop x)
    (made : m.Has task) (closed : x.closed = true → y.closed = true)
    (stopping : x.stopping = true → y.stopping = true)
    (ready : .call callback [task] ∈ x.ready → .call callback [task] ∈ y.ready) :
    (m.setValue loop (.loop y)).Noticed loop callback task := by
  intro f hf hd
  refine (h f (hf.of_setLoop hx made) hd).imp (fun hh z hz => ?_) fun hdue z hz => ?_ <;>
    rw [valueOf_setLoop hx] at hz <;> cases hz
  · exact (hh x hx).imp closed stopping
  · exact (hdue x hx).imp closed ready

variable {k : Memory} {entry : Scheduled} {rest : List Scheduled}

/-- A loop that runs the next entry of its ready queue remains roused. -/
theorem Roused.run (h : m.Roused loop) (hx : m.valueOf loop = .loop x)
    (ready : x.ready = entry :: rest)
    (he : ((Eval.runReady Machine.top loop entry).run
      (m.setValue loop (.loop { x with ready := rest }))).2.Evolves k)
    (made : m.Has loop) (hl : k.GenuineLoop loop) : k.Roused loop := by
  let n := m.setValue loop (.loop { x with ready := rest })
  have hn : n.valueOf loop = .loop { x with ready := rest } := valueOf_setLoop hx _
  have nk := ((Eval.runReady Machine.top loop entry).evolves n).trans he
  have hnl : n.GenuineLoop loop :=
    (Retains.of_evolves nk).genuineLoop ((Retains.setLoop hx _).has made) hl
  have onward (hr : n.Roused loop) : k.Roused loop := hr.evolves (.of_evolves nk) hnl.loop
  rcases h x hx with hc | hs | ⟨f, arguments, hf, hmem⟩
  · refine onward fun z hz => ?_
    rw [hn] at hz
    cases hz
    exact .inl hc
  · refine onward fun z hz => ?_
    rw [hn] at hz
    cases hz
    exact .inr (.inl hs)
  · have hfn : n.valueOf f = .nativeMethod .eventLoop "stop" loop := (Retains.setLoop hx _).method hf
    rw [ready] at hmem
    rcases List.mem_cons.mp hmem with same | hmem
    · have calls : n.CallsStop loop entry := same ▸ .bound hfn
      exact (he.halted (((Eval.runReady _ _ _).evolves n).isLoop hnl.loop) (calls.run hnl)).roused
    · refine onward fun z hz => ?_
      rw [hn] at hz
      cases hz
      exact .inr (.inr ⟨f, arguments, hfn, hmem⟩)

/-- What a loop knows of it still knows after it has run the next entry of its ready queue. -/
theorem Noticed.run (h : m.Noticed loop callback task) (hw : m.Watched loop callback task done)
    (hd : m.IsStopOnDone callback) (hx : m.valueOf loop = .loop x)
    (ready : x.ready = entry :: rest)
    (he : ((Eval.runReady Machine.top loop entry).run
      (m.setValue loop (.loop { x with ready := rest }))).2.Evolves k)
    (made : m.Has loop) (hl : k.GenuineLoop loop) : k.Noticed loop callback task := by
  let n := m.setValue loop (.loop { x with ready := rest })
  have mn : m.Retains n := .setLoop hx _
  have hn : n.valueOf loop = .loop { x with ready := rest } := valueOf_setLoop hx _
  have nk := ((Eval.runReady Machine.top loop entry).evolves n).trans he
  have hnl : n.GenuineLoop loop := (Retains.of_evolves nk).genuineLoop (mn.has made) hl
  by_cases same : entry = .call callback [task]
  · -- the callback itself runs, which sets the flag
    intro g hg _
    obtain ⟨f, hf, -⟩ := (Retains.of_evolves nk).attached (mn.has hw.made) hg
    have calls : n.CallsStop loop entry := same ▸ .callback (mn.stopOnDone hd) hf.future hf.same
    exact .inl (he.halted (((Eval.runReady _ _ _).evolves n).isLoop hnl.loop) (calls.run hnl))
  · have noticed : n.Noticed loop callback task := by
      refine h.setLoop hx hw.made id id fun hmem => ?_
      rw [ready] at hmem
      exact (List.mem_cons.mp hmem).resolve_left fun h => same h.symm
    exact noticed.evolves (hw.setLoop hx _ made) (.of_evolves nk) (mn.has made) hl

end

/-! ## While the loop runs -/

/-- Whether a driver is in its loop: the loop runs, so that nobody can close it. -/
def Running (m : Memory) (loop : Ref) : Prop :=
  ∃ x, m.valueOf loop = .loop x ∧ x.running = true ∧ x.closed = false

/-- What a memory may become while the driver of a loop calls the loop and runs it, until the loop
returns. -/
inductive Runs (loop : Ref) (m : Memory) : Memory → Prop where
  /-- programs and other loops do something -/
  | spared {n : Memory} (h : EvolvesFor loop m n) : Runs loop m n
  /-- the driver calls the loop -/
  | called {x : Loop} (h : m.valueOf loop = .loop x) :
      Runs loop m (m.setValue loop (.loop { x with running := true }))
  /-- the loop runs the next entry of its ready queue -/
  | entry {n : Memory} {x : Loop} {entry : Scheduled} {rest : List Scheduled}
      (h : m.valueOf loop = .loop x) (ready : x.ready = entry :: rest)
      (he : ((Eval.runReady Machine.top loop entry).run
        (m.setValue loop (.loop { x with ready := rest }))).2.Evolves n) : Runs loop m n

namespace Runs

variable {m n : Memory} {loop callback task done : Ref}

theorem of_evolves (h : m.Evolves n) : Runs loop m n := .spared (.of_evolves h)

theorem retains (h : Runs loop m n) : m.Retains n := by
  cases h with
  | spared h => exact h.toRetains
  | called h => exact .setLoop h _
  | entry h ready he =>
    exact (Retains.setLoop h _).trans (.of_evolves (((Eval.runReady _ _ _).evolves _).trans he))

theorem running (h : Runs loop m n) (hm : m.Running loop) : n.Running loop := by
  obtain ⟨y, hy, run, closed⟩ := hm
  cases h with
  | spared h =>
    obtain ⟨z, hz, hyz⟩ := h.becomes hy
    exact ⟨z, hz, hyz.running.trans run, (hyz.kept run).trans closed⟩
  | @called x h =>
    rw [hy] at h
    cases h
    exact ⟨_, valueOf_setLoop hy _, rfl, closed⟩
  | @entry _ x entry rest h ready he =>
    rw [hy] at h
    cases h
    obtain ⟨z, hz, hyz⟩ :=
      (((Eval.runReady Machine.top loop entry).evolves _).trans he).loop (valueOf_setLoop hy _)
    exact ⟨z, hz, hyz.running.trans run, (hyz.kept run).trans closed⟩

/-- A loop that is roused stays so until it returns. -/
theorem roused (h : Runs loop m n) (made : m.Has loop) (hl : n.GenuineLoop loop)
    (hm : m.Roused loop) : n.Roused loop := by
  cases h with
  | spared h => exact hm.evolves h (h.toRetains.genuineLoop made hl).loop
  | called h => exact hm.setLoop h id id fun _ => id
  | entry h ready he => exact hm.run h ready he made hl

/-- What the loop knows of it knows until it returns. -/
theorem noticed (h : Runs loop m n) (hw : m.Watched loop callback task done)
    (hd : m.IsStopOnDone callback) (made : m.Has loop) (hl : n.GenuineLoop loop)
    (hm : m.Noticed loop callback task) : n.Noticed loop callback task := by
  cases h with
  | spared h => exact hm.evolves hw h made hl
  | called h => exact hm.setLoop h hw.made id id id
  | entry h ready he => exact hm.run hw hd h ready he made hl

end Runs

end EmbeddedPython.Memory
