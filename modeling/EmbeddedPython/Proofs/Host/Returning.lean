import EmbeddedPython.Proofs.Host.Succeeding

/-
  Operations that are sure to return

  What an operation returns is known where the interpreter is there, its handles
  are live, and what the interpreter computes is known. The lock, the references
  that are owned and the log make no difference to it, so that it depends on the
  memory alone.
-/

namespace EmbeddedPython

variable {α β : Type}

namespace Op

/-- Whether an operation on a memory returns a value and leaves another memory behind, as long as
there is an interpreter. -/
def Returns (op : Op α) (m : Memory) (a : α) (n : Memory) : Prop :=
  ∀ (t : ThreadId) (h : Host), h.lock.alive = true → h.memory = m →
    ∃ k, op.perform t h = (.ok a, k) ∧ k.memory = n

section

variable {body : Op α} {last : Op Unit} {r : Except Failure α} {t : ThreadId} {h : Host}
  {n o : Memory}

/-- Under a guard an operation comes to what it comes to whoever has the lock. -/
theorem guarded_outcome (alive : h.lock.alive = true)
    (run : ∀ lock : Lock, lock.alive = true →
      ∃ k, body.perform t { h with lock := lock } = (r, k) ∧ k.memory = n) :
    ∃ k, (guarded body).perform t h = (r, k) ∧ k.memory = n := by
  obtain ⟨taken, lock, log, ht, -, hr⟩ := guarded_run body t alive
  obtain ⟨k, hk, kn⟩ := run taken ((congrArg Option.isSome ht).trans alive)
  rw [hk] at hr
  exact ⟨_, hr, kn⟩

/-- A last part that returns leaves it at what the operation before it came to. -/
theorem ensuring_outcome (alive : h.lock.alive = true)
    (run : ∃ k, body.perform t h = (r, k) ∧ k.memory = n) (hl : Returns last n () o) :
    ∃ k, (ensuring body last).perform t h = (r, k) ∧ k.memory = o := by
  obtain ⟨k, hk, kn⟩ := run
  have alive' := alive_perform body t alive
  rw [hk] at alive'
  obtain ⟨i, hi, io⟩ := hl t k alive' kn
  refine ⟨i, ?_, io⟩
  rw [Op.ensuring, perform_andThen, hk]
  show (last.andThen _).perform t k = _
  rw [perform_andThen, hi]
  rfl

end

namespace Returns

variable {m n o : Memory} {a : α} {b : β}

theorem pure (a : α) (m : Memory) : Returns (Pure.pure a) m a m :=
  fun _ h _ hm => ⟨h, rfl, hm⟩

theorem bind {op : Op α} {next : α → Op β} (ho : Returns op m a n) (hn : Returns (next a) n b o) :
    Returns (op >>= next) m b o := by
  intro t h alive hm
  obtain ⟨k, hk, kn⟩ := ho t h alive hm
  have alive' := alive_perform op t alive
  rw [hk] at alive'
  obtain ⟨i, hi, io⟩ := hn t k alive' kn
  refine ⟨i, ?_, io⟩
  rw [perform_bind, hk]
  exact hi

/-- Changes beside the memory. -/
theorem update {f : Host → Host} {keeps : ∀ h : Host, h.Becomes (f h)}
    (memory : ∀ h, (f h).memory = h.memory) : Returns (Op.update f keeps) m () m :=
  fun _ h _ hm => ⟨f h, rfl, (memory h).trans hm⟩

theorem passing (refs : List Ref) (m : Memory) : Returns (Op.passing refs) m () m :=
  update fun _ => rfl

theorem hold (r : Ref) (m : Memory) : Returns (Op.hold r) m () m :=
  update fun h => by split <;> rfl

theorem ensuring {body : Op α} {last : Op Unit} (hb : Returns body m a n)
    (hl : Returns last n () o) : Returns (Op.ensuring body last) m a o := by
  intro t h alive hm
  exact ensuring_outcome alive (hb t h alive hm) hl

/-- What is done after a failure is not done. -/
theorem onFailure {body : Op α} (hb : Returns body m a n) (last : Op Unit) :
    Returns (Op.onFailure body last) m a n := by
  intro t h alive hm
  obtain ⟨k, hk, kn⟩ := hb t h alive hm
  refine ⟨k, ?_, kn⟩
  rw [Op.onFailure, perform_andThen, hk]
  rfl

theorem guarded {body : Op α} (hb : Returns body m a n) : Returns (Op.guarded body) m a n := by
  intro t h alive hm
  exact guarded_outcome alive fun lock alive' => hb t { h with lock := lock } alive' hm

/-- The interpreter computes something. -/
theorem enter {body : Eval α} (refs : List Ref) (h : body.run m = (.ok a, n)) :
    Returns (Op.enter refs body) m (some a) n := by
  refine (passing refs m).bind fun t k _ hm => ?_
  simp only [run, hm, h]
  exact ⟨_, rfl, rfl⟩

/-- The interpreter makes an object, and the host gets a handle to it. -/
theorem request {body : Eval Ref} {r : Ref} (refs : List Ref) (h : body.run m = (.ok r, n)) :
    Returns (Op.request refs body) m (Handle.adopt r) n :=
  (enter refs h).bind ((hold r n).bind (.pure _ n))

/-- What goes on after an operation that is sure to return. -/
theorem bind_perform {op : Op α} (ho : Returns op m a n) (next : α → Op β) (t : ThreadId)
    {h : Host} (alive : h.lock.alive = true) (hm : h.memory = m) :
    ∃ k, (op >>= next).perform t h = (next a).perform t k ∧ k.memory = n ∧
      k.lock.alive = true ∧ h.Becomes k := by
  obtain ⟨k, hk, kn⟩ := ho t h alive hm
  have alive' := alive_perform op t alive
  have becomes := op.keeps t h
  rw [hk] at alive' becomes
  refine ⟨k, ?_, kn, alive', becomes⟩
  rw [perform_bind, hk]

theorem attempt {body : Op α} (hb : Returns body m a n) :
    Returns (Op.attempt body) m (.ok a) n := by
  intro t h alive hm
  obtain ⟨k, hk, kn⟩ := hb t h alive hm
  refine ⟨k, ?_, kn⟩
  rw [perform_attempt, hk]

end Returns

end Op

namespace Handle

open Op

variable {m n o : Memory} {a : α}

theorem drop_returns (x : Handle) (m : Memory) : Returns x.drop m () m := by
  refine .bind (a := { x with disposed := true }) (n := m) (fun t h alive hm => ?_) (.pure () m)
  obtain ⟨lock, log, -, hr⟩ := x.dispose_run t alive
  exact ⟨_, hr, hm⟩

theorem spend_returns {x : Handle} {body : Handle → Op α} (h : Returns (body x) m a n) :
    Returns (x.spend body) m a n :=
  h.ensuring (x.drop_returns n)

theorem getAttr_returns {x : Handle} {name : String} {r : Ref} (hx : x.disposed = false)
    (plain : terminated name = .ok name)
    (h : (Eval.getAttr Machine.top x.ref name).run m = (.ok r, n)) :
    Returns (x.getAttr name) m (adopt r) n := by
  rw [getAttr, getAttrBy, live_run hx, pure_bind, plain]
  exact .guarded (.request [x.ref] h)

theorem call_returns {f : Handle} {r : Ref} (hf : f.disposed = false)
    (h : (Machine.top.call f.ref [] []).run m = (.ok r, n)) :
    Returns (f.call []) m (adopt r) n := by
  rw [call, callThrough, live_run hf, pure_bind]
  exact .guarded (.request [f.ref] h)

theorem callMethod_returns {x : Handle} {name : String} {f r : Ref} (hx : x.disposed = false)
    (plain : terminated name = .ok name)
    (read : (Eval.getAttr Machine.top x.ref name).run m = (.ok f, n))
    (call : (Machine.top.call f [] []).run n = (.ok r, o)) :
    Returns (x.callMethod name []) m (adopt r) o :=
  (getAttr_returns hx plain read).bind (spend_returns (call_returns rfl call))

/-- The truth of a truth value is known without asking. -/
theorem isTruthy_returns (b : Bool) (m : Memory) :
    Returns (adopt (Ref.ofBool b)).isTruthy m b m := by
  rw [isTruthy, live_run rfl, pure_bind]
  cases b <;> exact .pure _ m

end Handle

end EmbeddedPython
