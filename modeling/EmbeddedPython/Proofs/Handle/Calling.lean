import EmbeddedPython.Proofs.Host.Behavior
import EmbeddedPython.Proofs.Host.Status
import EmbeddedPython.Proofs.Interpreter.Preparation

/-
  Calls are applications

  A call looks at its handles, prepares what the object is applied to, and
  applies it once, as the last thing that it does; whatever an application comes
  to is what the call comes to. Where the call fails before, it does so in the
  same way for every application.
-/

namespace EmbeddedPython

open Op (Behaves Quiet translationDepth)

variable {α β γ δ : Type}

theorem Eval.Fails.later {f : Eval α} {g : α → Eval β} {a : α} {m n k : Memory} {e : Failure}
    (run : f.run m = (.ok a, n)) (h : (g a).Fails n e k) : (f >>= g).Fails m e k := by
  cases h with
  | told run' describes => exact .told ((run_bind_ok run g).trans run') describes
  | untold run' => exact .untold ((run_bind_ok run g).trans run')

theorem Eval.Comes.after {f : Eval α} {g : α → Eval β} {made : β → γ} {a : α} {m n k : Memory}
    {r : Except Failure γ} (run : f.run m = (.ok a, n)) (h : (f >>= g).Comes made m r k) :
    (g a).Comes made n r k := by
  cases h with
  | returned run' => exact .returned ((run_bind_ok run g).symm.trans run')
  | failed fails =>
    cases fails with
    | told run' describes => exact .failed (.told ((run_bind_ok run g).symm.trans run') describes)
    | untold run' => exact .failed (.untold ((run_bind_ok run g).symm.trans run'))

theorem Eval.Fails.before {f : Eval α} {m k : Memory} {e : Failure} (g : α → Eval β)
    (h : f.Fails m e k) : (f >>= g).Fails m e k :=
  h.congr fun run => by rw [run_bind, run]

/-! ## Using handles -/

/-- What comes of looking at handles and letting the interpreter carry out an evaluation meanwhile.
A failure of the evaluation may come before a look at a handle. -/
inductive Uses (xs : List Handle) (f : Eval β) (made : β → α) (m : Memory) :
    Except Failure α → Memory → Prop
  | disposed {n : Memory} (some : ∃ x ∈ xs, x.disposed = true) :
      Uses xs f made m (.error (.error .disposed)) n
  | returned {b : β} {n : Memory} (live : ∀ x ∈ xs, x.disposed = false)
      (run : f.run m = (.ok b, n)) : Uses xs f made m (.ok (made b)) n
  | failed {e : Failure} {n : Memory} (fails : f.Fails m e n) : Uses xs f made m (.error e) n

namespace Uses

variable {xs ys : List Handle} {f : Eval β} {made : β → α} {made' : γ → δ} {m n k : Memory}

theorem bind {a : α} {g : α → Eval γ} {r : Except Failure δ} (first : Uses xs f made m (.ok a) n)
    (last : Uses ys (g a) made' n r k) :
    Uses (xs ++ ys) (do g (made (← f))) made' m r k := by
  cases first with
  | returned live run =>
    cases last with
    | disposed some =>
      obtain ⟨y, hy, disposed⟩ := some
      exact .disposed ⟨y, List.mem_append_right xs hy, disposed⟩
    | returned live' run' =>
      refine .returned (fun x hx => ?_) ((Eval.run_bind_ok run _).trans run')
      rcases List.mem_append.mp hx with hx | hx
      · exact live x hx
      · exact live' x hx
    | failed fails => exact .failed (.later run fails)

theorem error {e : Failure} (g : β → Eval γ) (first : Uses xs f made m (.error e) n) :
    Uses (xs ++ ys) (f >>= g) made' m (.error e) n := by
  cases first with
  | disposed some =>
    obtain ⟨x, hx, disposed⟩ := some
    exact .disposed ⟨x, List.mem_append_left ys hx, disposed⟩
  | failed fails => exact .failed (fails.before g)

/-- What is made of a value is made by the evaluation or afterwards. -/
theorem of_map {r : Except Failure α} (h : Uses xs (do pure (made (← f))) id m r n) :
    Uses xs f made m r n := by
  have raised {x : Ref} {n : Memory} (run : (do pure (made (← f))).run m = (.error x, n)) :
      f.run m = (.error x, n) := by
    rw [Eval.run_bind] at run
    generalize f.run m = b at run ⊢
    obtain ⟨y | b, i⟩ := b
    · cases run
      rfl
    · cases run
  cases h with
  | disposed some => exact .disposed some
  | returned live run =>
    obtain ⟨b, i, run', last⟩ := Eval.bind_returned run
    cases last
    exact .returned live run'
  | failed fails => exact .failed (fails.congr raised)

end Uses

namespace Op.Behaves

variable {xs ys : List Handle} {f : Eval β} {made : β → α} {made' : γ → δ}

end Op.Behaves

namespace Handle

end Handle

/-! ## One application -/

/-- A call depends on no more of an evaluation than what comes of it. -/
theorem Op.request_congr {body other : Eval Ref} {h : Host} (refs : List Ref) (t : ThreadId)
    (same : body.run h.memory = other.run h.memory) :
    (Op.request refs body).perform t h = (Op.request refs other).perform t h := by
  simp only [Op.request, Op.enter, Op.passing, Op.update, Op.run, Op.perform_bind, same]

/-- What comes of preparing arguments and applying an object to them: what the application comes to,
or the failure of the preparation. -/
def Applied (apply : Application) (f : Ref) :
    Except Failure Arguments → Memory → Except Failure Handle × Host → Prop
  | .ok a, m, (r, k) => ((apply f a.items a.keywords).Comes Handle.adopt) m r k.memory
  | .error e, m, (r, k) => r = .error e ∧ k.memory = m

theorem Applied.congr {apply : Application} {f : Ref} {prepared : Except Failure Arguments}
    {m : Memory} {r : Except Failure Handle} {i k : Host} (same : k.memory = i.memory)
    (h : Applied apply f prepared m (r, i)) : Applied apply f prepared m (r, k) := by
  cases prepared with
  | ok a =>
    show ((apply f a.items a.keywords).Comes Handle.adopt) m r k.memory
    rw [same]
    exact h
  | error e => exact ⟨h.1, same.trans h.2⟩

/-- Whether an operation prepares arguments and then applies an object to them. What is prepared
does not depend on the application. -/
structure Applies (op : Application → Op Handle) (f : Ref) (P : Behavior Arguments) : Prop where
  comes : ∀ {t : ThreadId} {h : Host}, h.Admits t → h.pending = none → ∃ prepared m,
    P h.memory prepared m ∧ ∀ apply, Applied apply f prepared m ((op apply).perform t h)

namespace Applies

variable {P : Behavior Arguments} {f : Ref} {xs ys : List Handle} {made : β → α}

theorem mono {Q : Behavior Arguments} {op : Application → Op Handle} (h : Applies op f P)
    (hQ : ∀ {m r k}, P m r k → Q m r k) : Applies op f Q := by
  refine ⟨fun {t h'} admits clear => ?_⟩
  obtain ⟨prepared, m, holds, applied⟩ := h.comes admits clear
  exact ⟨prepared, m, hQ holds, applied⟩

/-- Preparing continues after an operation that does not apply anything. -/
theorem bind {op : Op α} {next : α → Application → Op Handle} {A : Behavior α}
    {B : α → Behavior Arguments} (ho : Behaves op A) (hn : ∀ a, Applies (next a) f (B a))
    (ok : ∀ {m a n r k}, A m (.ok a) n → B a n r k → P m r k)
    (error : ∀ {m e k}, A m (.error e) k → P m (.error e) k) :
    Applies (fun apply => op >>= fun a => next a apply) f P := by
  refine ⟨fun {t h} admits clear => ?_⟩
  have admits' := Op.admits_perform ho.honest.level admits
  have ends := ho.honest.ends (fun _ => admits) clear
  have first := ho.comes admits clear
  simp only [Op.perform_bind]
  generalize op.perform t h = b at admits' ends first ⊢
  obtain ⟨e | a, k⟩ := b
  · exact ⟨.error e, k.memory, error first, fun _ => ⟨rfl, rfl⟩⟩
  · cases ends with
    | returned clear' _ =>
      obtain ⟨prepared, m, holds, applied⟩ := (hn a).comes admits' clear'
      exact ⟨prepared, m, ok first holds, applied⟩

/-- Nothing is applied if a handle has been disposed of. -/
theorem live {x : Handle} {next : Ref → Application → Op Handle} {body : Eval Arguments}
    (h : Applies (next x.ref) f (Uses ys body id)) :
    Applies (fun apply => x.live >>= fun r => next r apply) f (Uses (x :: ys) body id) := by
  cases hx : x.disposed with
  | true =>
    have disposed : x.live = Op.fail .disposed := by rw [Handle.live, hx, if_pos rfl]
    rw [disposed]
    refine ⟨fun {t h} _ _ => ⟨.error (.error .disposed), h.memory, ?_, fun _ => ⟨rfl, rfl⟩⟩⟩
    exact .disposed ⟨x, List.mem_cons_self, hx⟩
  | false =>
    simp only [Handle.live_run hx, pure_bind]
    refine h.mono fun used => ?_
    cases used with
    | disposed some =>
      obtain ⟨y, hy, disposed⟩ := some
      exact .disposed ⟨y, List.mem_cons_of_mem x hy, disposed⟩
    | returned live run => exact .returned (List.forall_mem_cons.mpr ⟨hx, live⟩) run
    | failed fails => exact .failed fails

/-- Nothing that is done afterwards changes what an application comes to. -/
theorem ensuring {op : Application → Op Handle} {last : Op Unit} (h : Applies op f P)
    (hl : Quiet last) : Applies (fun apply => Op.ensuring (op apply) last) f P := by
  refine ⟨fun {t h'} admits clear => ?_⟩
  obtain ⟨prepared, m, holds, applied⟩ := h.comes admits clear
  refine ⟨prepared, m, holds, fun apply => ?_⟩
  obtain ⟨k, hr, hk⟩ := hl.ensuring_run (op apply) t h'
  rw [hr]
  exact (applied apply).congr hk.memory

theorem spend {op : Handle → Application → Op Handle} (x : Handle) (h : Applies (op x) f P) :
    Applies (fun apply => x.spend fun y => op y apply) f P :=
  ensuring h x.drop_quiet

theorem guarded {op : Application → Op Handle} (h : Applies op f P) :
    Applies (fun apply => Op.guarded (op apply)) f P := by
  refine ⟨fun {t h'} admits clear => ?_⟩
  obtain ⟨i, hi, admits', runs⟩ := Op.guarded_opens (α := Handle) admits
  obtain ⟨prepared, m, holds, applied⟩ := h.comes admits' (hi.pending.trans clear)
  refine ⟨prepared, m, hi.memory ▸ holds, fun apply => ?_⟩
  obtain ⟨k, hr, hk, -⟩ := runs (op apply)
  rw [hr]
  exact (applied apply).congr hk.memory

/-- The interpreter prepares what is left to prepare and applies the object at once. -/
theorem request (refs : List Ref) (f : Ref) (body : Eval Arguments) :
    Applies (fun apply => Op.request refs do
      let a ← body
      apply f a.items a.keywords) f (Uses [] body id) := by
  refine ⟨fun {t h} admits clear => ?_⟩
  generalize hb : body.run h.memory = b
  obtain ⟨x | a, n⟩ := b
  · have raises {g : Arguments → Eval Ref} : (body >>= g).run h.memory = (.error x, n) := by
      rw [Eval.run_bind, hb]
    have comes := (Behaves.request refs (body >>= fun _ => pure Ref.none)).comes admits clear
    have same (apply : Application) := Op.request_congr refs t
      (raises.trans raises.symm : (body >>= fun a => apply f a.items a.keywords).run h.memory =
        (body >>= fun _ => pure Ref.none).run h.memory)
    generalize (Op.request refs (body >>= fun _ => pure Ref.none)).perform t h = c at comes same
    obtain ⟨r, k⟩ := c
    cases comes with
    | returned run => cases raises.symm.trans run
    | @failed e _ fails =>
      refine ⟨.error e, k.memory, .failed (fails.congr fun run => ?_), fun apply => ?_⟩
      · cases raises.symm.trans run
        exact hb
      · rw [same apply]
        exact ⟨rfl, rfl⟩
  · refine ⟨.ok a, n, .returned (by rintro x ⟨⟩) hb, fun apply => ?_⟩
    have comes := (Behaves.request refs (do
      let a ← body
      apply f a.items a.keywords)).comes admits clear
    exact Eval.Comes.after (g := fun a => apply f a.items a.keywords) hb comes

end Applies

namespace Handle

variable (f : Handle) (arguments : List Handle) (names : List String) (values : List Handle)

variable (extra : Option Handle) {t : ThreadId} {h : Host}

end Handle

end EmbeddedPython
