import EmbeddedPython.Proofs.Handle.Honesty

/-
  What comes of an operation

  Where the lock is open and nothing is pending, an operation leads from one
  memory to another and ends with a result. A behavior says which results and
  which memories go together, and the behavior of an operation is put together
  of those of its parts. An exception that makes it fail is the one that an
  evaluation raised, as a translation tells it.
-/

namespace EmbeddedPython

variable {α β γ : Type}

/-- Which memories before and after an operation go together with its result. -/
abbrev Behavior (α : Type) := Memory → Except Failure α → Memory → Prop

namespace Eval

/-- Whether an evaluation raises an exception, the failure that tells it, and the memory after that
has been told. Telling may use up the stack. -/
inductive Fails (f : Eval β) (m : Memory) : Failure → Memory → Prop
  | told {x : Ref} {n k : Memory} {e : PythonError} (run : f.run m = (.error x, n))
      (describes : e.Describes ⟨n.classOf x, some x⟩ n k) : Fails f m (.error (.python e)) k
  | untold {x : Ref} {n k : Memory} (run : f.run m = (.error x, n)) : Fails f m .overflow k

theorem Fails.raises {f : Eval β} {m k : Memory} {e : Failure} (h : f.Fails m e k) :
    ∃ x n, f.run m = (.error x, n) := by
  cases h with
  | told run _ => exact ⟨_, _, run⟩
  | untold run => exact ⟨_, _, run⟩

theorem Fails.congr {f : Eval β} {g : Eval α} {m k : Memory} {e : Failure}
    (h : ∀ {x n}, f.run m = (.error x, n) → g.run m = (.error x, n)) (fails : f.Fails m e k) :
    g.Fails m e k := by
  cases fails with
  | told run describes => exact .told (h run) describes
  | untold run => exact .untold (h run)

/-- What comes of letting the interpreter carry out an evaluation and making something of what it
returns. -/
inductive Comes (f : Eval β) (made : β → α) (m : Memory) : Except Failure α → Memory → Prop
  | returned {b : β} {n : Memory} (run : f.run m = (.ok b, n)) : Comes f made m (.ok (made b)) n
  | failed {e : Failure} {k : Memory} (fails : f.Fails m e k) : Comes f made m (.error e) k

end Eval

namespace Op

/-- Whether an operation is honest and what comes of it goes together. -/
structure Behaves (op : Op α) (B : Behavior α) : Prop where
  honest : Honest translationDepth True op
  comes : ∀ {t : ThreadId} {h : Host}, h.Admits t → h.pending = none →
    B h.memory (op.perform t h).1 (op.perform t h).2.memory

namespace Behaves

variable {A C : Behavior α}

theorem mono {op : Op α} (h : Behaves op A) (hB : ∀ {m r k}, A m r k → C m r k) : Behaves op C :=
  ⟨h.honest, fun admits clear => hB (h.comes admits clear)⟩

theorem pure (a : α) (h : ∀ m, C m (.ok a) m) : Behaves (Pure.pure a : Op α) C :=
  ⟨.pure a, fun _ _ => h _⟩

/-- What is known only of some operations, all of which are honest. -/
theorem assuming {p : Prop} {op : Op α} (honest : Honest translationDepth True op)
    (h : p → Behaves op C) : Behaves op fun m r k => p → C m r k :=
  ⟨honest, fun admits clear hp => (h hp).comes admits clear⟩

theorem fail {e : Error} (own : e.python? = none) (h : ∀ m, C m (.error (.error e)) m) :
    Behaves (Op.fail e : Op α) C :=
  ⟨.fail own, fun _ _ => h _⟩

theorem panic (text : String) (h : ∀ m, C m (.error (.panic text)) m) :
    Behaves (Op.panic text : Op α) C :=
  ⟨.panic text, fun _ _ => h _⟩

/-- One operation after another. -/
theorem bind {op : Op α} {next : α → Op β} {B : α → Behavior β} {D : Behavior β}
    (ho : Behaves op A) (hn : ∀ a, Behaves (next a) (B a))
    (ok : ∀ {m a n r k}, A m (.ok a) n → B a n r k → D m r k)
    (error : ∀ {m e k}, A m (.error e) k → D m (.error e) k) : Behaves (op >>= next) D := by
  refine ⟨.bind ho.honest fun a => (hn a).honest, fun {t h} admits clear => ?_⟩
  have admits' := admits_perform ho.honest.level admits
  have ends := ho.honest.ends (fun _ => admits) clear
  have first := ho.comes admits clear
  rw [perform_bind]
  generalize op.perform t h = b at admits' ends first ⊢
  obtain ⟨e | a, k⟩ := b
  · exact error first
  · cases ends with
    | returned clear' _ => exact ok first ((hn a).comes admits' clear')

/-- What is made of what an operation returns. -/
theorem map {op : Op α} {D : Behavior β} (f : α → β)
    (h : Behaves op fun m r k => D m (r.map f) k) : Behaves (do Pure.pure (f (← op))) D :=
  h.bind (B := fun a m r k => r = .ok (f a) ∧ k = m) (fun a => pure (f a) fun _ => ⟨rfl, rfl⟩)
    (fun first last => by
      obtain ⟨rfl, rfl⟩ := last
      exact first)
    id

theorem quiet {op : Op α} (ho : Quiet op) : Behaves op fun m r k => (∃ a, r = .ok a) ∧ k = m := by
  refine ⟨.quiet ho, fun {t h} _ _ => ?_⟩
  obtain ⟨a, k, hr, hk⟩ := ho.2 t h
  rw [hr]
  exact ⟨⟨a, rfl⟩, hk.memory⟩

/-- After an operation that is sure to return and leaves the memory as it is. -/
theorem after {op : Op β} {next : β → Op α}
    (ho : Behaves op fun m r k => (∃ b, r = .ok b) ∧ k = m) (hn : ∀ b, Behaves (next b) C) :
    Behaves (op >>= next) C := by
  refine ho.bind hn (fun h hc => ?_) fun h => ?_
  · obtain ⟨-, rfl⟩ := h
    exact hc
  · obtain ⟨⟨b, hb⟩, -⟩ := h
    cases hb

/-- After a look at the memory. -/
theorem looking {f : Memory → β} {next : β → Op α}
    (hn : ∀ b, Behaves (next b) fun m r k => f m = b → C m r k) :
    Behaves ((do Pure.pure (f (← memory))) >>= next) C := by
  refine ⟨.bind (.quiet (.bind .memory fun _ => .pure _)) fun b => (hn b).honest,
    fun {t h} admits clear => ?_⟩
  exact (hn (f h.memory)).comes admits clear rfl

/-- A look at the memory decides what is done. -/
theorem deciding {f : Memory → Bool} {no yes : Op α}
    (hn : Behaves no fun m r k => f m = false → C m r k)
    (hy : Behaves yes fun m r k => f m = true → C m r k) :
    Behaves (do if !f (← memory) then no else yes) C := by
  have looked : ∀ b, Behaves (if !b then no else yes) fun m r k => f m = b → C m r k := by
    intro b
    cases b with
    | true => exact hy
    | false => exact hn
  exact looking looked

theorem guarded {body : Op α} (hb : Behaves body C) : Behaves (Op.guarded body) C := by
  refine ⟨.guarded hb.honest, fun {t h} admits clear => ?_⟩
  obtain ⟨i, k, hi, admits', hr, ik, -⟩ := guarded_open body admits
  rw [hr, ← hi.memory, ik.memory]
  exact hb.comes admits' (hi.pending.trans clear)

theorem ensuring {body : Op α} {last : Op Unit} (hb : Behaves body C) (hl : Quiet last) :
    Behaves (Op.ensuring body last) C := by
  refine ⟨hb.honest.ensuring hl, fun {t h} admits clear => ?_⟩
  obtain ⟨k, hr, hk⟩ := hl.ensuring_run body t h
  rw [hr, hk.memory]
  exact hb.comes admits clear

theorem onFailure {body : Op α} {last : Op Unit} (hb : Behaves body C) (hl : Quiet last) :
    Behaves (Op.onFailure body last) C := by
  refine ⟨hb.honest.onFailure hl, fun {t h} admits clear => ?_⟩
  obtain ⟨k, hr, hk⟩ := hl.onFailure_run body t h
  rw [hr, hk.memory]
  exact hb.comes admits clear

theorem spend {x : Handle} {body : Handle → Op α} (hb : Behaves (body x) C) :
    Behaves (x.spend body) C :=
  hb.ensuring x.drop_quiet

/-- After a call: `next` goes on with what it returned, and reports a failure. -/
theorem enter (refs : List Ref) (f : Eval β) {next : Option β → Op α} {B : β → Behavior α}
    (honest : Honest translationDepth True (enter refs f >>= next))
    (report : ∀ (t : ThreadId) (k : Host), k.pending.isSome = true →
      (next none).perform t k = (do Op.fail (← translate) : Op α).perform t k)
    (hn : ∀ b, Behaves (next (some b)) (B b))
    (ok : ∀ {m b n r k}, f.run m = (.ok b, n) → B b n r k → C m r k)
    (error : ∀ {m e k}, f.Fails m e k → C m (.error e) k) :
    Behaves (Op.enter refs f >>= next) C := by
  refine ⟨honest, fun {t h} admits clear => ?_⟩
  rw [perform_bind]
  rcases enter_cases refs f t h with ⟨b, k, hr, lock, run, pending, -⟩ |
    ⟨x, k, hr, lock, run, pending, -⟩
  · rw [hr]
    have admits' := admits.congr (k := k) (congrArg _ lock) (congrArg (Lock.depth · t) lock)
    exact ok run ((hn b).comes admits' (pending.trans clear))
  · rw [hr]
    have admits' := admits.congr (k := k) (congrArg _ lock) (congrArg (Lock.depth · t) lock)
    have told := translate_translates.describes admits' pending
    show C h.memory ((next none).perform t k).1 ((next none).perform t k).2.memory
    rw [report t k (by rw [pending]; rfl), perform_bind]
    generalize translate.perform t k = b at told ⊢
    cases told with
    | given _ holds =>
      obtain ⟨e, rfl, describes⟩ := holds
      exact error (.told run describes)
    | exhausted _ => exact error (.untold run)

theorem ask (refs : List Ref) (f : Eval α) : Behaves (Op.ask refs f) (f.Comes id) :=
  enter refs f (ask_honest refs f) (fun _ _ _ => rfl)
    (fun a => pure (C := fun m r k => r = .ok a ∧ k = m) a fun _ => ⟨rfl, rfl⟩)
    (fun run h => by
      obtain ⟨rfl, rfl⟩ := h
      exact .returned run)
    .failed

theorem request (refs : List Ref) (f : Eval Ref) :
    Behaves (Op.request refs f) (f.Comes Handle.adopt) :=
  enter refs f (request_honest refs f) (fun _ _ _ => rfl)
    (fun r => after (.quiet (.hold r)) fun _ =>
      pure (C := fun m q k => q = .ok (Handle.adopt r) ∧ k = m) _ fun _ => ⟨rfl, rfl⟩)
    (fun run h => by
      obtain ⟨rfl, rfl⟩ := h
      exact .returned run)
    .failed

/-- After a call for something that the memory tells. -/
theorem asking {f : Eval β} {g : Memory → β} (refs : List Ref)
    (run : ∀ m, f.run m = (.ok (g m), m)) {next : β → Op α}
    (hn : ∀ b, Behaves (next b) fun m r k => g m = b → C m r k) :
    Behaves (Op.ask refs f >>= next) C := by
  refine (ask refs f).bind hn (fun {m b n r k} comes last => ?_) fun {m e k} comes => ?_
  · cases comes with
    | returned run' =>
      cases (run m).symm.trans run'
      exact last rfl
  · cases comes with
    | failed fails =>
      obtain ⟨_, _, run'⟩ := fails.raises
      cases (run m).symm.trans run'

/-- After a call with an answer of its own for a failure. -/
theorem enterOr {failed : β} (refs : List Ref) (f : Eval β) {next : β → Op α} {B : β → Behavior α}
    (report : ∀ (t : ThreadId) (k : Host), k.pending.isSome = true →
      (next failed).perform t k = (do Op.fail (← translate) : Op α).perform t k)
    (hn : ∀ b, Behaves (next b) (B b))
    (ok : ∀ {m b n r k}, f.run m = (.ok b, n) → B b n r k → C m r k)
    (error : ∀ {m e k}, f.Fails m e k → C m (.error e) k) :
    Behaves (Op.enterOr failed refs f >>= next) C := by
  have honest := enterOr_honest refs f (fun b => (hn b).honest) report
  rw [Op.enterOr, bind_assoc] at honest ⊢
  simp only [pure_bind] at honest ⊢
  exact enter (B := B) refs f honest report hn ok error

/-- A number that tells a failure is told from it by the exception that is pending then. -/
theorem askNumber [BEq α] {failed : α} (same : (failed == failed) = true) (refs : List Ref)
    (f : Eval α) : Behaves (Op.askNumber failed refs f) (f.Comes id) := by
  refine enterOr (B := fun a m r k => r = .ok a ∧ k = m) refs f (fun t k pending => ?_)
    (fun a => ⟨checkNumber_honest failed a, fun {t h} _ clear => ?_⟩) (fun run h => ?_) .failed
  · show (if failed == failed && k.pending.isSome then _ else _ : Op α).perform t k = _
    rw [same, pending]
    rfl
  · rw [checkNumber_run failed a t clear]
    exact ⟨rfl, rfl⟩
  · obtain ⟨rfl, rfl⟩ := h
    exact .returned run

end Behaves

end Op

end EmbeddedPython
