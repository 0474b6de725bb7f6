import EmbeddedPython.Proofs.Bridge.Outcome
import EmbeddedPython.Proofs.Environment.Memory

/-
  What a driver is given

  Whoever opens a loop hands its driver live handles: to the methods that wake
  it, if the loop is one that asyncio has made, and to the callback of every
  task. A task that is set up gets the callback. Whoever pushes a request takes
  handles of its own to the methods and wakes the driver with them.
-/

namespace EmbeddedPython

open Activity Bridge

/-- Whether a notifier wakes the driver of a loop: its handles are live, and they are to the methods
of that loop. -/
structure Bridge.Notifier.Wakes (n : Notifier) (m : Memory) (loop : Ref) : Prop where
  callSoon_live : n.callSoon.disposed = false
  stop_live : n.stop.disposed = false
  callSoon : m.valueOf n.callSoon.ref = .nativeMethod .eventLoop "call_soon_threadsafe" loop
  stop : m.valueOf n.stop.ref = .nativeMethod .eventLoop "stop" loop

theorem Bridge.Notifier.Wakes.retains {n : Notifier} {m k : Memory} {loop : Ref}
    (h : n.Wakes m loop) (hr : m.Retains k) : n.Wakes k loop :=
  ⟨h.callSoon_live, h.stop_live, hr.method h.callSoon, hr.method h.stop⟩

namespace Bridge

open Op

variable {t : ThreadId} {h k : Host} {m : Memory} {loop : Ref}

/-! ## Tasks -/

/-- A method that asyncio has made is read where it is asked for. -/
theorem futureMethod_read {name : String} {task f : Ref} {n : Memory} {g : Future}
    (hn : name ∈ Eval.futureQueries) (read : (Eval.getAttr Machine.top task name).run m = (.ok f, n))
    (future : m.GenuineFuture task g) :
    ∃ o : Builtin, (o = .future ∨ o = .task) ∧ n.valueOf f = .nativeMethod o name task := by
  obtain ⟨o, f', n', ho, -, read', bound, -⟩ :=
    Handle.query_reads (x := Handle.adopt task) future hn
  cases read.symm.trans read'
  exact ⟨o, ho, bound⟩

/-- A task that has been set up has the callback as long as it is pending. -/
theorem startTask_watched {b : DriverBindings} {coroutine task done : Handle}
    (he : (startTask b coroutine).perform t h = (.ok (task, done), k)) (made : h.memory.Has loop) :
    k.memory.Watched loop b.stopOnDone.ref task.ref done.ref := by
  obtain ⟨-, -, answers⟩ := startTask_ok he
  refine ⟨answers.made, fun hl f hf pending => ?_, fun _ f hf => answers.method f hf.future⟩
  obtain ⟨task', i, hi, he⟩ := bind_ok he
  obtain ⟨prepared, j, hj, he⟩ := bind_ok he
  cases prepared with
  | error e =>
    obtain ⟨cancelled, l, -, he⟩ := bind_ok he
    cases cancelled <;>
      obtain ⟨_, _, -, he⟩ := bind_ok he <;> obtain ⟨_, _, -, he⟩ := bind_ok he <;> cases he
  | ok d =>
    cases he
    obtain ⟨added, a, ha, hj⟩ := bind_ok (attempt_ok hj)
    obtain ⟨g, n, o, c, read, nc, call, oa⟩ := Handle.callMethod_one_ok ha
    -- what is attached in the end has been a future when the callback was added to it
    have hk : a.memory.Evolves k.memory := (becomes_of hj).memory
    have mn : i.memory.Evolves n := by
      have := (Eval.getAttr Machine.top task.ref "add_done_callback").evolves i.memory
      rwa [read] at this
    have co : c.memory.Evolves o := by
      have := (Machine.top.call g [b.stopOnDone.ref] []).evolves c.memory
      rwa [call] at this
    have ok := oa.trans hk
    have ic := Memory.Retains.of_evolves (mn.trans nc)
    have ck := Memory.Retains.of_evolves (co.trans ok)
    have has := Eval.has_of_getAttr (by decide) read
    obtain ⟨fc, hfc, -⟩ := ck.attached (ic.has has) hf
    obtain ⟨fi, hfi, -⟩ := ic.attached has hfc
    obtain ⟨owner, ho, bound⟩ := futureMethod_read (by decide) read hfi.future
    obtain ⟨fo, hfo, same, kept⟩ := Eval.call_addCallback (machine 999) ho (nc.method bound)
      hfc.future.value b.stopOnDone.ref
    rw [← Machine.top_call, call] at hfo kept
    have hlo : o.IsLoop loop := by
      refine ((Memory.Retains.of_evolves ok).genuineLoop ?_ hl).loop
      have hi' : h.memory.Evolves i.memory := (becomes_of hi).memory
      exact (((hi'.trans mn).trans nc).trans co).has made
    rcases Memory.EvolvesFor.keeps (.of_evolves ok) hfo (same.trans hfc.same) hlo hf.future.value
      kept with ⟨-, hc⟩ | hc | ⟨hd, -⟩
    · exact hc
    · exact absurd hc hf.kept
    · rw [pending] at hd
      cases hd

/-! ## Loops -/

/-- A method of a loop that asyncio has made is read where it is asked for. -/
theorem loopMethod_read {name : String} {f : Ref} {n : Memory}
    (hn : name = "stop" ∨ name = "call_soon_threadsafe")
    (read : (Eval.getAttr Machine.top loop name).run m = (.ok f, n)) (hl : m.GenuineLoop loop) :
    n.valueOf f = .nativeMethod .eventLoop name loop := by
  obtain ⟨f', n', made, -, bound⟩ := Eval.make_run .nativeFunction (.nativeMethod .eventLoop name loop) m
  rw [Eval.getAttr_loop Machine.top hl hn, made] at read
  cases read
  exact bound

/-- The objects of a new loop: its driver runs that loop, with the callback of the environment, and
the notifier wakes the driver. -/
theorem loopObjects_ok {b : Bindings} {object : Handle} {notifier : Notifier} {d : DriverBindings}
    (he : (loopObjects b).perform t h = (.ok (object, notifier, d), k)) :
    k.memory.Has d.object.ref ∧ d.stopOnDone.ref = b.stopOnDone.ref ∧
      (k.memory.GenuineLoop d.object.ref → notifier.Wakes k.memory d.object.ref) := by
  obtain ⟨i, j, -, he, jk⟩ := guarded_ok he
  obtain ⟨object', a, -, he⟩ := bind_ok he
  obtain ⟨callSoon, c, hc, he⟩ := bind_ok (onFailure_ok he)
  obtain ⟨stop, e, hs, he⟩ := bind_ok he
  have ej := becomes_of he
  obtain ⟨shared, _, hshared, he⟩ := bind_ok he
  obtain ⟨runForever, _, -, he⟩ := bind_ok he
  obtain ⟨ensureFuture, _, -, he⟩ := bind_ok he
  obtain ⟨stopOnDone, _, hstopOnDone, he⟩ := bind_ok he
  cases he
  obtain ⟨rfl, -⟩ := Handle.clone_ok hshared
  obtain ⟨rfl, -⟩ := Handle.clone_ok hstopOnDone
  obtain ⟨n, readCall, nc, liveCall⟩ := Handle.getAttr_ok hc
  obtain ⟨o, readStop, oe, liveStop⟩ := Handle.getAttr_ok hs
  have has := Eval.has_of_getAttr (by decide) readCall
  have an : a.memory.Evolves n := by
    have := (Eval.getAttr Machine.top object.ref "call_soon_threadsafe").evolves a.memory
    rwa [readCall] at this
  have co : c.memory.Evolves o := by
    have := (Eval.getAttr Machine.top object.ref "stop").evolves c.memory
    rwa [readStop] at this
  have ek := ej.memory.trans jk.memory
  have ok := oe.trans ek
  have nk := nc.trans (co.trans ok)
  refine ⟨(an.trans nk).has has, rfl, fun hl => ⟨liveCall, liveStop, ?_, ?_⟩⟩
  · exact nk.method (loopMethod_read (.inr rfl) readCall
      ((Memory.Retains.of_evolves (an.trans nk)).genuineLoop has hl))
  · exact ok.method (loopMethod_read (.inl rfl) readStop
      ((Memory.Retains.of_evolves (co.trans ok)).genuineLoop ((an.trans nc).has has) hl))

/-! ## Wake-ups -/

/-- The clone of a live handle is live and to the same object. -/
theorem clone_live {x : Handle} (hx : x.disposed = false) (t : ThreadId) {h : Host}
    (alive : h.lock.alive = true) :
    ∃ k, x.clone.perform t h = (.ok (Handle.adopt x.ref), k) ∧ k.lock.alive = true := by
  obtain ⟨y, hy⟩ := Handle.clone_safe hx t h alive
  have alive' := alive_perform x.clone t alive
  generalize hr : x.clone.perform t h = r at hy alive'
  obtain ⟨_, k⟩ := r
  cases hy
  obtain ⟨rfl, -⟩ := Handle.clone_ok hr
  exact ⟨k, rfl, alive'⟩

/-- A push to an open queue leaves a wake-up to be done, as long as there is an interpreter. -/
theorem push_wakes {l : LoopId} {r : Request} {p : Process} {n : Notifier}
    (here : (p.loop l).notifier = some n) (wakes : n.Wakes p.host.memory loop)
    (alive : p.host.lock.alive = true) : ∃ w q, push t l r p = (.queued (some w), q) ∧
      w.Wakes q.host.memory loop := by
  have lock : canLock p t = true := by simp only [canLock, alive, Bool.or_true]
  obtain ⟨i, hi, alive'⟩ := clone_live wakes.callSoon_live t alive
  obtain ⟨j, hj, -⟩ := clone_live wakes.stop_live t alive'
  let w : Notifier := ⟨Handle.adopt n.callSoon.ref, Handle.adopt n.stop.ref⟩
  have bound : (do
      let callSoon ← n.callSoon.clone
      pure (Notifier.mk callSoon (← n.stop.clone)) : Op Notifier).perform t p.host = (.ok w, j) := by
    rw [perform_bind, hi]
    show (n.stop.clone >>= _).perform t i = _
    rw [perform_bind, hj]
    rfl
  have becomes := becomes_of bound
  refine ⟨w, ({ p with host := j } : Process).queue l r, ?_, ?_⟩
  · simp only [push, run_get_bind, here, lock]
    rw [run_bind]
    simp only [Activity.ask, bound]
    rfl
  · rw [Process.queue_host]
    exact ⟨rfl, rfl, becomes.memory.method wakes.callSoon, becomes.memory.method wakes.stop⟩

/-- Waking the driver of a loop puts the `stop` of the loop into its ready queue. -/
theorem wake_rouses {p : Process} {n : Notifier} (wakes : n.Wakes p.host.memory loop)
    (hl : p.host.memory.IsLoop loop) (alive : p.host.lock.alive = true) :
    (wake t n p).2.host.memory.Roused loop := by
  have due := Eval.call_callSoon (machine 999) wakes.callSoon hl n.stop.ref
  have called := (Eval.callObject (machine 999) n.callSoon.ref [n.stop.ref] []).evolves p.host.memory
  have loop' := called.isLoop hl
  have stop' := called.method wakes.stop
  -- the call is made whatever comes of it, and nothing that follows takes the entry back
  have reached : ((Eval.callObject (machine 999) n.callSoon.ref [n.stop.ref] []).run
      p.host.memory).2.Evolves (wake t n p).2.host.memory := by
    rw [wake, tell_host]
    refine guarded_reaches t alive fun i im hi => ?_
    rw [← im, ← Machine.top_call]
    have called := Handle.call_one_reaches (t := t) wakes.callSoon_live wakes.stop_live hi
    rw [← attempt_state] at called
    exact called.trans (bind_becomes (attempt (n.callSoon.call [n.stop])) _ t i).memory
  exact (due.roused stop').evolves (.of_evolves reached) loop'

/-! ## The callback of every task -/

/-- Evaluating the text of the callback makes the callback. -/
theorem evaluateAlone_stopOnDone {x : Handle}
    (he : (Host.evaluateAlone stopOnDoneSource).perform t h = (.ok x, k)) :
    k.memory.IsStopOnDone x.ref := by
  obtain ⟨globals, _, -, he⟩ := bind_ok he
  obtain ⟨i, he, ik⟩ := Handle.spend_ok he
  obtain ⟨source, _, hs, he⟩ := bind_ok he
  obtain ⟨names, j, -, he⟩ := bind_ok he
  obtain rfl : source = stopOnDoneSource := by
    obtain ⟨hs, -⟩ := ofExcept_ok hs
    cases hs
    rfl
  obtain ⟨c, d, -, he, di⟩ := guarded_ok he
  obtain ⟨made, -⟩ := request_ok he
  obtain ⟨o, evaluated, stops⟩ := Eval.evaluateSource_stopOnDone Machine.top names c.memory
  obtain ⟨same, grown⟩ := Prod.mk.inj (made.symm.trans evaluated)
  refine ik.memory.isStopOnDone (di.memory.isStopOnDone ?_)
  rw [grown, Except.ok.inj same]
  exact stops

/-- The callback that an environment resolves stops the loop of a future. -/
theorem resolveBindings_ok {o : Options} {b : Bindings}
    (he : (resolveBindings o).perform t h = (.ok b, k)) : k.memory.IsStopOnDone b.stopOnDone.ref := by
  have resolved {i j : Host} (he : ((do
      Handle.spend (← Host.importModule "asyncio") fun asyncio => do
        let newEventLoop ← asyncio.getAttr "new_event_loop"
        onFailure
          (do
            let ensureFuture ← asyncio.getAttr "ensure_future"
            onFailure
              (do
                let stopOnDone ← Host.evaluateAlone stopOnDoneSource
                pure ⟨newEventLoop, ensureFuture, stopOnDone⟩)
              ensureFuture.drop)
          newEventLoop.drop : Op Bindings)).perform t i = (.ok b, j)) :
      j.memory.IsStopOnDone b.stopOnDone.ref := by
    obtain ⟨asyncio, _, -, he⟩ := bind_ok he
    obtain ⟨c, he, cj⟩ := Handle.spend_ok he
    obtain ⟨newEventLoop, _, -, he⟩ := bind_ok he
    obtain ⟨ensureFuture, _, -, he⟩ := bind_ok (onFailure_ok he)
    obtain ⟨stopOnDone, _, made, he⟩ := bind_ok (onFailure_ok he)
    cases he
    exact cj.memory.isStopOnDone (evaluateAlone_stopOnDone made)
  obtain ⟨i, j, -, he, jk⟩ := guarded_ok he
  refine jk.memory.isStopOnDone ?_
  dsimp only at he
  split at he
  · obtain ⟨paths, _, -, he⟩ := bind_ok he
    obtain ⟨_, _, -, he⟩ := bind_ok he
    exact resolved he
  · exact resolved he

end Bridge

end EmbeddedPython
