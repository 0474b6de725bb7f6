import EmbeddedPython.Handle.Call
import EmbeddedPython.Proofs.Host.Owning

/-
  What an operation has computed

  An operation that ends with a value has gone through all of its parts. Each
  lemma takes one kind of operation apart and says what the interpreter has
  computed on the way; around it the memory has evolved at most. A call whose
  handles are live reaches the interpreter, whatever comes of it.
-/

namespace EmbeddedPython

variable {α β : Type} {t : ThreadId} {h k : Host}

namespace Op

theorem becomes_of {op : Op α} {r : Except Failure α} (he : op.perform t h = (r, k)) :
    h.Becomes k := by
  have hk := op.keeps t h
  rwa [he] at hk

theorem bind_becomes (body : Op α) (next : α → Op β) (t : ThreadId) (h : Host) :
    (body.perform t h).2.Becomes ((body >>= next).perform t h).2 := by
  rw [perform_bind]
  rcases body.perform t h with ⟨_ | a, i⟩
  · exact .refl i
  · exact (next a).keeps t i

theorem bind_ok {body : Op α} {next : α → Op β} {b : β}
    (he : (body >>= next).perform t h = (.ok b, k)) :
    ∃ a i, body.perform t h = (.ok a, i) ∧ (next a).perform t i = (.ok b, k) := by
  rw [perform_bind] at he
  generalize body.perform t h = c at he ⊢
  obtain ⟨_ | a, i⟩ := c
  · cases he
  · exact ⟨a, i, rfl, he⟩

theorem pure_ok {a b : α} (he : (pure a : Op α).perform t h = (.ok b, k)) : a = b ∧ h = k := by
  cases he
  exact ⟨rfl, rfl⟩

theorem ensuring_ok {body : Op α} {last : Op Unit} {a : α}
    (he : (ensuring body last).perform t h = (.ok a, k)) :
    ∃ i, body.perform t h = (.ok a, i) ∧ i.Becomes k := by
  simp only [ensuring, perform_andThen] at he
  have hl := last.keeps t (body.perform t h).2
  generalize body.perform t h = b at he hl ⊢
  obtain ⟨r, i⟩ := b
  generalize last.perform t i = c at he hl
  obtain ⟨_ | _, j⟩ := c <;> cases he
  exact ⟨i, rfl, hl⟩

theorem onFailure_ok {body : Op α} {last : Op Unit} {a : α}
    (he : (onFailure body last).perform t h = (.ok a, k)) : body.perform t h = (.ok a, k) := by
  simp only [onFailure, perform_andThen] at he
  generalize body.perform t h = b at he ⊢
  obtain ⟨f | b, i⟩ := b
  · simp only [perform_andThen] at he
    generalize last.perform t i = c at he
    obtain ⟨_ | _, j⟩ := c <;> cases he
  · exact he

theorem attempt_ok {body : Op α} {a : α}
    (he : (attempt body).perform t h = (.ok (.ok a), k)) : body.perform t h = (.ok a, k) := by
  rw [perform_attempt] at he
  generalize body.perform t h = b at he ⊢
  obtain ⟨(_ | _ | _) | b, i⟩ := b <;> cases he
  rfl

theorem attempt_state (body : Op α) (t : ThreadId) (h : Host) :
    ((attempt body).perform t h).2 = (body.perform t h).2 := by
  rw [perform_attempt]
  rcases body.perform t h with ⟨(_ | _ | _) | _, _⟩ <;> rfl

theorem ofExcept_ok {r : Except Error α} {a : α}
    (he : (ofExcept r).perform t h = (.ok a, k)) : r = .ok a ∧ h = k := by
  cases r <;> cases he
  exact ⟨rfl, rfl⟩

theorem acquire_memory (t : ThreadId) (h : Host) : (acquire.perform t h).2.memory = h.memory := by
  simp only [acquire]
  split <;> rfl

/-- What is done under the lock is done to the memory as it was. -/
theorem guarded_ok {body : Op α} {a : α} (he : (guarded body).perform t h = (.ok a, k)) :
    ∃ i j, i.memory = h.memory ∧ body.perform t i = (.ok a, j) ∧ j.Becomes k := by
  obtain ⟨_, i, hi, he⟩ := bind_ok he
  obtain ⟨j, hj, hk⟩ := ensuring_ok he
  have same := acquire_memory t h
  rw [hi] at same
  exact ⟨i, j, same, hj, hk⟩

/-- Whatever comes of it, what is done under the lock is done to the memory as it was. -/
theorem guarded_reaches {body : Op α} {m : Memory} (t : ThreadId) (alive : h.lock.alive = true)
    (reaches : ∀ i : Host, i.memory = h.memory → i.lock.alive = true →
      m.Evolves (body.perform t i).2.memory) : m.Evolves ((guarded body).perform t h).2.memory := by
  obtain ⟨taken, lock, log, interpreter, -, hr⟩ := guarded_run body t alive
  rw [hr]
  exact reaches { h with lock := taken } rfl ((congrArg Option.isSome interpreter).trans alive)

/-- A call does to the memory what the interpreter does. -/
theorem enter_memory (refs : List Ref) (body : Eval α) (t : ThreadId) (h : Host) :
    ((enter refs body).perform t h).2.memory = (body.run h.memory).2 := by
  simp only [enter, perform_bind, passing, update, run]
  rcases body.run h.memory with ⟨_ | _, m⟩ <;> rfl

/-- What the interpreter is asked for it does. -/
theorem ask_reaches (refs : List Ref) (body : Eval α) (t : ThreadId) (h : Host) :
    (body.run h.memory).2.Evolves ((ask refs body).perform t h).2.memory := by
  rw [← enter_memory refs body t h]
  exact (bind_becomes (enter refs body) _ t h).memory

/-- A call that returns something has computed it. -/
theorem enter_ok {refs : List Ref} {body : Eval α} {a : α}
    (he : (enter refs body).perform t h = (.ok (some a), k)) :
    body.run h.memory = (.ok a, k.memory) := by
  obtain ⟨_, i, hi, he⟩ := bind_ok he
  cases hi
  simp only [run] at he
  generalize body.run h.memory = b at he ⊢
  obtain ⟨_ | b, m⟩ := b <;> cases he
  rfl

theorem request_ok {refs : List Ref} {body : Eval Ref} {x : Handle}
    (he : (request refs body).perform t h = (.ok x, k)) :
    body.run h.memory = (.ok x.ref, k.memory) ∧ x.disposed = false := by
  obtain ⟨r, i, hi, he⟩ := bind_ok he
  cases r with
  | none =>
    obtain ⟨_, j, -, he⟩ := bind_ok he
    cases he
  | some r =>
    obtain ⟨_, j, hj, he⟩ := bind_ok he
    cases he
    have same : k.memory = i.memory := by
      cases hj
      split <;> rfl
    rw [same]
    exact ⟨enter_ok hi, rfl⟩

end Op

namespace Handle

open Op

theorem live_ok {x : Handle} {r : Ref} (he : x.live.perform t h = (.ok r, k)) :
    r = x.ref ∧ x.disposed = false ∧ h = k := by
  simp only [live] at he
  split at he <;> cases he
  next hd => exact ⟨rfl, by simpa using hd, rfl⟩

theorem spend_ok {x : Handle} {body : Handle → Op α} {a : α}
    (he : (x.spend body).perform t h = (.ok a, k)) :
    ∃ i, (body x).perform t h = (.ok a, i) ∧ i.Becomes k := ensuring_ok he

/-- A clone is another handle to the same object. -/
theorem clone_ok {x y : Handle} (he : x.clone.perform t h = (.ok y, k)) :
    y = adopt x.ref ∧ x.disposed = false := by
  obtain ⟨r, i, hi, he⟩ := bind_ok he
  obtain ⟨rfl, hd, rfl⟩ := live_ok hi
  dsimp only at he
  split at he
  · obtain ⟨_, j, -, he⟩ := bind_ok he
    cases he
    exact ⟨rfl, hd⟩
  · cases he
    exact ⟨rfl, hd⟩

theorem getAttr_ok {x y : Handle} {name : String}
    (he : (x.getAttr name).perform t h = (.ok y, k)) :
    ∃ n, (Eval.getAttr Machine.top x.ref name).run h.memory = (.ok y.ref, n) ∧
      n.Evolves k.memory ∧ y.disposed = false := by
  obtain ⟨r, i, hi, he⟩ := bind_ok he
  obtain ⟨rfl, -, rfl⟩ := live_ok hi
  obtain ⟨name', i, hi, he⟩ := bind_ok he
  obtain ⟨hn, rfl⟩ := ofExcept_ok hi
  have same : name' = name := by
    simp only [terminated] at hn
    split at hn <;> cases hn
    rfl
  obtain ⟨i, j, hm, he, hk⟩ := guarded_ok he
  obtain ⟨hr, hd⟩ := request_ok he
  rw [hm, same] at hr
  exact ⟨_, hr, hk.memory, hd⟩

/-- Calling an object with one argument. -/
theorem call_one_ok {f x y : Handle} (he : (f.call [x]).perform t h = (.ok y, k)) :
    ∃ n, (Machine.top.call f.ref [x.ref] []).run h.memory = (.ok y.ref, n) ∧
      n.Evolves k.memory := by
  obtain ⟨r, i, hi, he⟩ := bind_ok he
  obtain ⟨rfl, -, rfl⟩ := live_ok hi
  obtain ⟨i, j, hm, he, hk⟩ := guarded_ok he
  obtain ⟨r, i', hi, he⟩ := bind_ok he
  obtain ⟨rfl, -, rfl⟩ := live_ok hi
  obtain ⟨hr, -⟩ := request_ok he
  rw [hm] at hr
  exact ⟨_, hr, hk.memory⟩

/-- Calling a method with one argument reads the method first. -/
theorem callMethod_one_ok {x y v : Handle} {name : String}
    (he : (x.callMethod name [y]).perform t h = (.ok v, k)) : ∃ (f : Ref) (n o : Memory) (i : Host),
      (Eval.getAttr Machine.top x.ref name).run h.memory = (.ok f, n) ∧ n.Evolves i.memory ∧
      (Machine.top.call f [y.ref] []).run i.memory = (.ok v.ref, o) ∧ o.Evolves k.memory := by
  obtain ⟨f, i, hi, he⟩ := bind_ok he
  obtain ⟨n, read, evolves, -⟩ := getAttr_ok hi
  obtain ⟨j, hj, jk⟩ := spend_ok he
  obtain ⟨o, call, evolves'⟩ := call_one_ok hj
  exact ⟨f.ref, n, o, i, read, evolves, call, evolves'.trans jk.memory⟩

theorem live_run {x : Handle} (hx : x.disposed = false) : x.live = pure x.ref := by
  simp only [live, hx, Bool.false_eq_true, if_false]

/-- A call with live handles is made. -/
theorem call_one_reaches {f x : Handle} (hf : f.disposed = false) (hx : x.disposed = false)
    (alive : h.lock.alive = true) : ((Machine.top.call f.ref [x.ref] []).run h.memory).2.Evolves
      ((f.call [x]).perform t h).2.memory := by
  simp only [call, callThrough, live_run hf, live_run hx, pure_bind]
  obtain ⟨taken, lock, log, -, -, hr⟩ :=
    guarded_run (request [f.ref, x.ref] (Machine.top.call f.ref [x.ref] [])) t alive
  rw [hr]
  have entered := enter_memory [f.ref, x.ref] (Machine.top.call f.ref [x.ref] []) t
    { h with lock := taken }
  refine Memory.Evolves.trans ?_ (bind_becomes _ _ t { h with lock := taken }).memory
  rw [entered]
  exact .refl _

/-- Cloning a live handle works as long as there is an interpreter. -/
theorem clone_safe {x : Handle} (hx : x.disposed = false) : Safe x.clone := by
  simp only [clone, live_run hx, pure_bind]
  split
  · exact .bind (.guarded (.bind (.update _ _) fun _ => .update _ _)) fun _ => .pure _
  · exact .pure _

end Handle

end EmbeddedPython
