import EmbeddedPython.Proofs.Host.Describing
import EmbeddedPython.Proofs.Host.Fetching
import EmbeddedPython.Proofs.Host.Quiet
import EmbeddedPython.Proofs.Host.Succeeding

/-
  Telling what was raised

  A call that fails leaves its exception pending, and a translation tells that
  very exception. To tell it the host asks the interpreter again; a question that
  fails is translated in turn, at a level less, and leaves a placeholder. The log
  grows by an exception at each level, so that a translation of so many levels
  comes to an end unless as many exceptions were raised.
-/

namespace EmbeddedPython

variable {α β γ : Type} {depth : Nat} {g h i k : Host}

/-! ## What an operation comes to -/

namespace Host

/-- What an operation gives that leaves no exception pending. It may also have used up so many
levels, each by an exception. -/
inductive Gives (depth : Nat) (h : Host) (Q : α → Memory → Prop) : Except Failure α × Host → Prop
  | given {a : α} {k : Host} (clear : k.pending = none) (holds : Q a k.memory) :
      Gives depth h Q (.ok a, k)
  | exhausted {k : Host} (deep : h.raised.length + depth ≤ k.raised.length) :
      Gives depth h Q (.error .overflow, k)

/-- How an operation ends that lets the interpreter carry out an evaluation and makes something of
what it returns. -/
inductive Follows (depth : Nat) (h : Host) (f : Eval β) (made : β → α) :
    Except Failure α × Host → Prop
  | returned {b : β} {k : Host} (run : f.run h.memory = (.ok b, k.memory)) (clear : k.pending = none)
      (nothing : k.raised = h.raised) : Follows depth h f made (.ok (made b), k)
  | reported {x : Ref} {m : Memory} {later : List Pending} {e : PythonError} {k : Host}
      (run : f.run h.memory = (.error x, m)) (clear : k.pending = none)
      (log : k.raised = later ++ ⟨m.classOf x, some x⟩ :: h.raised)
      (describes : e.Describes ⟨m.classOf x, some x⟩ m k.memory) :
      Follows depth h f made (.error (.error (.python e)), k)
  | exhausted {k : Host} (deep : h.raised.length + depth < k.raised.length) :
      Follows depth h f made (.error .overflow, k)

theorem Gives.resembles {Q : α → Memory → Prop} {r : Except Failure α}
    (hg : h.Gives depth Q (r, k)) (ki : k.Resembles i) : h.Gives depth Q (r, i) := by
  cases hg with
  | given clear holds => exact .given (ki.pending.trans clear) (ki.memory ▸ holds)
  | exhausted deep => exact .exhausted (ki.raised ▸ deep)

theorem Gives.mono {Q R : α → Memory → Prop} {p : Except Failure α × Host}
    (hg : h.Gives depth Q p) (hQ : ∀ a m, Q a m → R a m) : h.Gives depth R p := by
  cases hg with
  | given clear holds => exact .given clear (hQ _ _ holds)
  | exhausted deep => exact .exhausted deep

/-- Levels are counted from any state with the same log. -/
theorem Gives.since {Q : α → Memory → Prop} {p : Except Failure α × Host}
    (hg : h.Gives depth Q p) (raised : h.raised = g.raised) : g.Gives depth Q p := by
  cases hg with
  | given clear holds => exact .given clear holds
  | exhausted deep => exact .exhausted (raised ▸ deep)

namespace Follows

variable {f : Eval β} {made : β → α} {r : Except Failure α}

theorem resembles (hf : h.Follows depth f made (r, k)) (ki : k.Resembles i) :
    h.Follows depth f made (r, i) := by
  cases hf with
  | returned run clear nothing =>
    exact .returned (ki.memory ▸ run) (ki.pending.trans clear) (ki.raised.trans nothing)
  | reported run clear log describes =>
    exact .reported run (ki.pending.trans clear) (ki.raised.trans log) (ki.memory ▸ describes)
  | exhausted deep => exact .exhausted (ki.raised ▸ deep)

theorem congr {p : Except Failure α × Host} (hf : h.Follows depth f made p) (gh : g.Resembles h) :
    g.Follows depth f made p := by
  cases hf with
  | returned run clear nothing => exact .returned (gh.memory ▸ run) clear (nothing.trans gh.raised)
  | reported run clear log describes =>
    exact .reported (gh.memory ▸ run) clear (gh.raised ▸ log) describes
  | exhausted deep => exact .exhausted (gh.raised ▸ deep)

/-- One evaluation after another. -/
theorem after {f' : α → Eval β} {f : Eval α} {made : β → γ} {a : α} {p : Except Failure γ × Host}
    (run : f.run h.memory = (.ok a, k.memory)) (nothing : k.raised = h.raised)
    (hf : k.Follows depth (f' a) made p) : h.Follows depth (f >>= f') made p := by
  have goes : (f >>= f').run h.memory = (f' a).run k.memory := Eval.run_bind_ok run f'
  cases hf with
  | returned run' clear nothing' => exact .returned (goes.trans run') clear (nothing'.trans nothing)
  | reported run' clear log describes =>
    exact .reported (goes.trans run') clear (nothing ▸ log) describes
  | exhausted deep => exact .exhausted (nothing ▸ deep)

end Follows

end Host

namespace Op

/-- Whether an operation fetches the pending exception and tells it, with so many levels for what is
raised in telling it. -/
structure Translates (depth : Nat) (fetch : Op Error) : Prop where
  level : Level fetch
  describes : ∀ {t : ThreadId} {h : Host} {p : Pending}, h.Admits t → h.pending = some p →
    h.Gives depth (fun told m => ∃ e, told = .python e ∧ e.Describes p h.memory m)
      (fetch.perform t h)
  unexplained : ∀ {t : ThreadId} {h : Host}, 0 < depth → h.Admits t → h.pending = none →
    ∃ k, fetch.perform t h = (.ok (.python .unexplained), k) ∧ h.Resembles k

/-- Whether an operation lets the interpreter carry out an evaluation and makes something of what it
returns. -/
def Carries (depth : Nat) (op : Op α) (f : Eval β) (made : β → α) : Prop :=
  Level op ∧ ∀ {t : ThreadId} {h : Host}, h.Admits t → h.pending = none →
    h.Follows depth f made (op.perform t h)

/-! ## Calls -/

/-- A call either returns something or leaves its exception pending, in the log as well. -/
theorem enter_cases (refs : List Ref) (body : Eval β) (t : ThreadId) (h : Host) :
    (∃ b k, (enter refs body).perform t h = (.ok (some b), k) ∧ k.lock = h.lock ∧
      body.run h.memory = (.ok b, k.memory) ∧ k.pending = h.pending ∧ k.raised = h.raised) ∨
    ∃ x k, (enter refs body).perform t h = (.ok none, k) ∧ k.lock = h.lock ∧
      body.run h.memory = (.error x, k.memory) ∧
      k.pending = some ⟨k.memory.classOf x, some x⟩ ∧
      k.raised = ⟨k.memory.classOf x, some x⟩ :: h.raised := by
  simp only [enter, perform_bind, passing, update, run]
  rcases body.run h.memory with ⟨x | b, m⟩
  · exact .inr ⟨x, _, rfl, rfl, rfl, rfl, rfl⟩
  · exact .inl ⟨b, _, rfl, rfl, rfl, rfl, rfl⟩

theorem enter_level (refs : List Ref) (body : Eval β) : Level (enter refs body) := by
  intro t h
  rcases enter_cases refs body t h with ⟨b, k, hr, lock, -⟩ | ⟨x, k, hr, lock, -⟩
  · rw [hr, lock]
  · rw [hr, lock]

section Calls

variable {fetch : Op Error} {f : Eval β}

/-- A call that has just failed is reported by its own exception. -/
theorem Translates.follows (ht : Translates depth fetch) {t : ThreadId} {x : Ref} (made : β → α)
    (admits : k.Admits t) (run : f.run h.memory = (.error x, k.memory))
    (pending : k.pending = some ⟨k.memory.classOf x, some x⟩)
    (log : k.raised = ⟨k.memory.classOf x, some x⟩ :: h.raised) :
    h.Follows depth f made ((do Op.fail (← fetch) : Op α).perform t k) := by
  obtain ⟨later, suffix⟩ := (fetch.keeps t k).raised
  have told := ht.describes admits pending
  rw [perform_bind]
  generalize fetch.perform t k = b at suffix told ⊢
  cases told with
  | given clear holds =>
    obtain ⟨e, rfl, describes⟩ := holds
    rw [log] at suffix
    exact .reported run clear suffix.symm describes
  | exhausted deep =>
    rw [log, List.length_cons] at deep
    exact .exhausted (by omega)

theorem Carries.guarded {op : Op α} {made : β → α} (hc : Carries depth op f made) :
    Carries depth (Op.guarded op) f made := by
  refine ⟨hc.1.guarded, fun {t h} admits clear => ?_⟩
  obtain ⟨i, k, hi, admits', hr, ik, -⟩ := guarded_open op admits
  rw [hr]
  exact ((hc.2 admits' (hi.pending.trans clear)).resembles ik).congr hi

/-- What the interpreter is asked for without an answer is told from a failure. -/
theorem answered_carries (ht : Translates depth fetch) (refs : List Ref) (body : Eval β) :
    Carries depth (enter refs body >>= Handle.answeredBy fetch) body id := by
  refine ⟨(enter_level refs body).bind fun r => ?_, fun {t h} admits clear => ?_⟩
  · cases r with
    | some b => exact .pure b
    | none => exact ht.level.bind fun e => .failure _
  · rw [perform_bind]
    rcases enter_cases refs body t h with ⟨b, k, hr, -, run, pending, raised⟩ |
      ⟨x, k, hr, lock, run, pending, log⟩
    · rw [hr]
      exact .returned run (pending.trans clear) raised
    · rw [hr]
      exact ht.follows id (admits.congr (congrArg _ lock) (congrArg (Lock.depth · t) lock)) run
        pending log

theorem owned_carries (ht : Translates depth fetch) (refs : List Ref) (body : Eval Ref) :
    Carries depth (enter refs body >>= Handle.ownedBy fetch) body Handle.adopt := by
  refine ⟨(enter_level refs body).bind fun r => ?_, fun {t h} admits clear => ?_⟩
  · cases r with
    | some r => exact (Quiet.hold r).1.bind fun _ => .pure _
    | none => exact ht.level.bind fun e => .failure _
  · rw [perform_bind]
    rcases enter_cases refs body t h with ⟨r, k, hr, -, run, pending, raised⟩ |
      ⟨x, k, hr, lock, run, pending, log⟩
    · obtain ⟨_, i, hi, ki⟩ := (Quiet.hold r).2 t k
      have held : (Handle.ownedBy fetch (some r)).perform t k = (.ok (Handle.adopt r), i) := by
        rw [Handle.ownedBy, perform_bind, hi]
        rfl
      rw [hr]
      show h.Follows depth body Handle.adopt ((Handle.ownedBy fetch (some r)).perform t k)
      rw [held]
      exact .resembles (.returned run (pending.trans clear) raised) ki
    · rw [hr]
      exact ht.follows _ (admits.congr (congrArg _ lock) (congrArg (Lock.depth · t) lock)) run
        pending log

end Calls

end Op

/-! ## What a description asks for -/

namespace Handle

open Op

variable {fetch : Op Error}

/-- An object that is made for a further call. -/
theorem spend_carries {op : Op Handle} {next : Handle → Op α} {f : Eval Ref} {f' : Ref → Eval β}
    {made : β → α} (ho : Carries depth op f adopt)
    (hn : ∀ r, Carries depth (next (adopt r)) (f' r) made) (level : ∀ x, Level (next x)) :
    Carries depth (op >>= fun x => x.spend next) (f >>= f') made := by
  refine ⟨ho.1.bind fun x => spend_level (level x), fun {t h} admits clear => ?_⟩
  have admits' := admits_perform ho.1 admits
  have first := ho.2 admits clear
  rw [perform_bind]
  generalize op.perform t h = b at first admits' ⊢
  cases first with
  | @returned r k run clear nothing =>
    obtain ⟨i, hr, ki⟩ := (adopt r).spend_run next t k
    show h.Follows depth (f >>= f') made (((adopt r).spend next).perform t k)
    rw [hr]
    exact (((hn r).2 admits' clear).resembles ki).after run nothing
  | reported run clear log describes =>
    exact .reported (by rw [Eval.run_bind, run]) clear log describes
  | exhausted deep => exact .exhausted deep

theorem textBy_carries (ht : Translates depth fetch) (refs : List Ref) (body : Eval Ref) :
    Carries depth (enter refs body >>= textBy fetch) (body >>= Eval.utf8Of) id := by
  have text : Carries depth (enter refs body >>= ownedBy fetch >>= fun text =>
      text.spend fun text => enter [text.ref] (Eval.utf8Of text.ref) >>= answeredBy fetch)
      (body >>= Eval.utf8Of) id :=
    spend_carries (owned_carries ht refs body) (fun r => answered_carries ht [r] (Eval.utf8Of r))
      fun x => (answered_carries ht _ _).1
  rwa [bind_assoc] at text

theorem strBy_level (ht : Translates depth fetch) (x : Handle) : Level (x.strBy fetch) :=
  x.live_level.bind fun _ => (textBy_carries ht _ _).1.guarded

theorem strBy_carries (ht : Translates depth fetch) (r : Ref) :
    Carries depth ((adopt r).strBy fetch) (Eval.hostText Machine.top r) id :=
  (textBy_carries ht [r] (Eval.strObject Machine.top r)).guarded

theorem getAttrBy_carries (ht : Translates depth fetch) (r : Ref) {name : String}
    (plain : terminated name = .ok name) :
    Carries depth ((adopt r).getAttrBy fetch name) (Eval.getAttr Machine.top r name) adopt := by
  have asked := (owned_carries ht [r] (Eval.getAttr Machine.top r name)).guarded
  rwa [getAttrBy, live_run rfl, pure_bind, plain]

/-- The name of a type is read through its attribute. -/
theorem typeName_carries (ht : Translates depth fetch) (cls : Ref) :
    Carries depth ((adopt cls).getAttrBy fetch "__name__" >>= fun name =>
      name.spend fun name => name.strBy fetch) (Eval.hostTypeName Machine.top cls) id :=
  spend_carries (getAttrBy_carries ht cls rfl) (fun r => strBy_carries ht r)
    fun x => strBy_level ht x

end Handle

namespace Op

variable {fetch : Op Error}

/-- What is given first is there for what comes after it. -/
theorem gives_bind {op : Op α} {next : α → Op β} {Q : α → Memory → Prop} {R : β → Memory → Prop}
    {t : ThreadId} (level : Level op) (admits : h.Admits t) (first : h.Gives depth Q (op.perform t h))
    (second : ∀ (a : α) (k : Host), k.Admits t → k.pending = none → Q a k.memory →
      k.Gives depth R ((next a).perform t k)) :
    h.Gives depth R ((op >>= next).perform t h) := by
  have admits' := admits_perform level admits
  have grows := (op.keeps t h).raised.length_le
  rw [perform_bind]
  generalize op.perform t h = b at first admits' grows ⊢
  cases first with
  | @given a k clear holds =>
    have done := second a k admits' clear holds
    show h.Gives depth R ((next a).perform t k)
    generalize (next a).perform t k = c at done ⊢
    cases done with
    | given clear holds => exact .given clear holds
    | exhausted deep => exact .exhausted (Nat.le_trans (Nat.add_le_add_right grows _) deep)
  | exhausted deep => exact .exhausted deep

/-- A question that fails is answered by the placeholder, and nothing stays pending. -/
theorem Carries.tells {body : Op String} {f : Eval String} (hc : Carries depth body f id)
    (placeholder : String) {t : ThreadId} (admits : h.Admits t) (clear : h.pending = none) :
    h.Gives (depth + 1) (f.Tells placeholder h.memory) ((orElse placeholder body).perform t h) := by
  have first := hc.2 admits clear
  rw [perform_orElse]
  generalize body.perform t h = b at first ⊢
  cases first with
  | returned run clear nothing => exact .given clear (.answer run)
  | reported run clear log describes => exact .given clear (.failure run describes.evolves)
  | exhausted deep => exact .exhausted deep

theorem orElse_level {placeholder : String} {body : Op String} (hb : Level body) :
    Level (orElse placeholder body) :=
  hb.attempt.bind fun r => by cases r <;> exact .pure _

theorem Quiet.gives {op : Op α} (hq : Quiet op) (t : ThreadId) (clear : h.pending = none) :
    h.Gives depth (fun _ m => m = h.memory) (op.perform t h) := by
  obtain ⟨a, k, hr, hk⟩ := hq.2 t h
  rw [hr]
  exact .given (hk.pending.trans clear) hk.memory

theorem spend_gives {x : Handle} {body : Handle → Op α} {Q : α → Memory → Prop} {t : ThreadId}
    (hb : h.Gives depth Q ((body x).perform t h)) :
    h.Gives depth Q ((x.spend body).perform t h) := by
  obtain ⟨k, hr, hk⟩ := x.spend_run body t h
  rw [hr]
  exact hb.resembles hk

theorem describe_level (ht : Translates depth fetch) (cls value : Ref) :
    Level (describe fetch cls value) := by
  refine (Quiet.hold cls).1.bind fun _ => (Quiet.hold value).1.bind fun _ => ?_
  refine Handle.spend_level (Handle.spend_level ?_)
  refine (orElse_level (Handle.typeName_carries ht cls).1).bind fun _ => ?_
  exact (orElse_level (Handle.strBy_carries ht value).1).bind fun _ => .pure _

/-- An exception is told by the name of its type, which is asked for first, and by its text. -/
theorem describe_gives (ht : Translates depth fetch) {t : ThreadId} (cls value : Ref)
    (admits : h.Admits t) (clear : h.pending = none) :
    h.Gives (depth + 1) (fun told m => ∃ e named, told = .python e ∧
      (Eval.hostTypeName Machine.top cls).Tells unknownType h.memory e.typeName named ∧
      (Eval.hostText Machine.top value).Tells unprintable named e.message m)
      ((describe fetch cls value).perform t h) := by
  have named := Handle.typeName_carries ht cls
  have texted := Handle.strBy_carries ht value
  refine gives_bind (Quiet.hold cls).1 admits ((Quiet.hold cls).gives t clear) ?_
  intro _ i admits clear im
  refine gives_bind (Quiet.hold value).1 admits ((Quiet.hold value).gives t clear) ?_
  intro _ j admits clear jm
  refine spend_gives (spend_gives ?_)
  refine gives_bind (orElse_level named.1) admits (named.tells unknownType admits clear) ?_
  intro typeName k admits clear typeTold
  refine gives_bind (orElse_level texted.1) admits (texted.tells unprintable admits clear) ?_
  intro text l _ clear textTold
  rw [jm, im] at typeTold
  exact .given clear ⟨⟨typeName, text⟩, k.memory, rfl, typeTold, textTold⟩

theorem tell_level (ht : Translates depth fetch) (p : Pending) : Level (tell fetch p) := by
  refine (enter_level _ _).bind fun made => ?_
  rcases made with _ | ⟨cls, value⟩
  · exact .pure _
  · exact describe_level ht cls value

theorem tell_gives (ht : Translates depth fetch) {t : ThreadId} (p : Pending) (admits : h.Admits t)
    (clear : h.pending = none) :
    h.Gives (depth + 1) (fun told m => ∃ e, told = .python e ∧ e.Describes p h.memory m)
      ((tell fetch p).perform t h) := by
  rw [tell, perform_bind]
  rcases enter_cases [] (Eval.normalize Machine.top p) t h with
    ⟨⟨cls, value⟩, k, hr, lock, normal, pending, raised⟩ | ⟨x, k, -, -, run, -⟩
  · have told := describe_gives ht cls value
      (admits.congr (k := k) (congrArg _ lock) (congrArg (Lock.depth · t) lock))
      (pending.trans clear)
    rw [hr]
    refine (told.mono fun a m holds => ?_).since raised
    obtain ⟨e, named, rfl, typeTold, textTold⟩ := holds
    exact ⟨e, rfl, normal, typeTold, textTold⟩
  · -- normalizing never raises
    obtain ⟨a, ha⟩ := Eval.normalize_total Machine.top p h.memory
    rw [run] at ha
    cases ha

theorem takePending_level : Level takePending := fun _ _ => rfl

/-- What is taken under the lock is not pending any more. -/
theorem guarded_takePending (next : Option Pending → Op α) {t : ThreadId} (admits : h.Admits t) :
    ∃ i k, i.Admits t ∧ i.memory = h.memory ∧ i.pending = none ∧ i.raised = h.raised ∧
      (guarded (takePending >>= next)).perform t h = (((next h.pending).perform t i).1, k) ∧
      ((next h.pending).perform t i).2.Resembles k := by
  obtain ⟨i, k, hi, admits', hr, ik, -⟩ := guarded_open (takePending >>= next) admits
  have goes : (takePending >>= next).perform t i =
      (next h.pending).perform t { i with pending := none } := by
    rw [← hi.pending]
    rfl
  rw [goes] at hr ik
  exact ⟨{ i with pending := none }, k, admits', hi.memory, rfl, hi.raised, hr, ik⟩

/-- A translation tells the pending exception, at every level. -/
theorem fetchError_translates (depth : Nat) : Translates depth (fetchError depth) := by
  induction depth with
  | zero =>
    refine ⟨fun _ _ => rfl, fun {t h p} _ _ => .exhausted (Nat.le_refl _), fun h => ?_⟩
    exact absurd h (Nat.lt_irrefl 0)
  | succ depth ih =>
    refine ⟨.guarded (takePending_level.bind fun p => ?_), fun {t h p} admits pending => ?_,
      fun {t h} _ admits clear => ?_⟩
    · cases p with
      | none => exact .pure _
      | some p => exact tell_level ih p
    · obtain ⟨i, k, admits', memory, taken, raised, hr, ik⟩ := guarded_takePending _ admits
      rw [fetchError, hr]
      rw [pending] at ik ⊢
      have told := tell_gives ih p admits' taken
      rw [memory] at told
      exact (told.since raised).resembles ik
    · obtain ⟨i, k, -, memory, taken, raised, hr, ik⟩ := guarded_takePending _ admits
      rw [fetchError, hr]
      rw [clear] at ik ⊢
      exact ⟨k, rfl, ik.memory.trans memory, ik.pending.trans (taken.trans clear.symm),
        ik.raised.trans raised⟩

end Op

end EmbeddedPython
