import EmbeddedPython.Proofs.Host.Translating

/-
  How deep a translation nests

  To tell an exception the host asks for the name of its type and for its text.
  Where a question fails, the exception that it raised is told first, at a level
  less, and a placeholder takes the place of the answer. `Telling.within` computes
  from the memory what is told with so many levels; a translation comes to just
  that, and uses up the stack where nothing is told.
-/

namespace EmbeddedPython

variable {α β γ : Type}

/-- What is told of an exception that is pending in a memory, and the memory after that, if it comes
to an end. -/
abbrev Telling := Pending → Memory → Option (PythonError × Memory)

namespace Telling

/-- The answer to a question, or a placeholder once the exception is told that the question
raised. -/
def answer (tell : Telling) (placeholder : String) (question : Eval String) (m : Memory) :
    Option (String × Memory) :=
  match question.run m with
  | (.ok s, n) => some (s, n)
  | (.error x, k) => (tell ⟨k.classOf x, some x⟩ k).map fun told => (placeholder, told.2)

/-- What is told of an object by the name of a class and by its own text. -/
def portrait (tell : Telling) (cls value : Ref) (m : Memory) : Option (PythonError × Memory) :=
  (tell.answer unknownType (Eval.hostTypeName Machine.top cls) m).bind fun typeName =>
    (tell.answer unprintable (Eval.hostText Machine.top value) typeName.2).map fun text =>
      (⟨typeName.1, text.1⟩, text.2)

/-- What is told with so many levels for what is raised meanwhile. -/
def within : Nat → Telling
  | 0, _, _ => none
  | depth + 1, p, m =>
    match (Eval.normalize Machine.top p).run m with
    | (.ok (cls, value), made) => (within depth).portrait cls value made
    | (.error _, _) => none

/-! ## More levels -/

/-- Whether everything that is told in one way is told just so in another. -/
def Extends (tell tell' : Telling) : Prop :=
  ∀ p m told, tell p m = some told → tell' p m = some told

section

variable {tell tell' : Telling} {m : Memory}

theorem Extends.answer (h : tell.Extends tell') {placeholder : String} {question : Eval String}
    {a : String × Memory} (told : tell.answer placeholder question m = some a) :
    tell'.answer placeholder question m = some a := by
  unfold Telling.answer at told ⊢
  split at told
  · exact told
  · next x k _ =>
    obtain ⟨inner, deeper, rfl⟩ := Option.map_eq_some_iff.mp told
    rw [h _ _ _ deeper]
    rfl

theorem Extends.portrait (h : tell.Extends tell') {cls value : Ref} {a : PythonError × Memory}
    (told : tell.portrait cls value m = some a) : tell'.portrait cls value m = some a := by
  obtain ⟨typeName, named, rest⟩ := Option.bind_eq_some_iff.mp told
  obtain ⟨text, texted, rfl⟩ := Option.map_eq_some_iff.mp rest
  rw [Telling.portrait, h.answer named, Option.bind_some, h.answer texted]
  rfl

end

/-- A level more never changes what is told. -/
theorem within_succ (depth : Nat) : (within depth).Extends (within (depth + 1)) := by
  induction depth with
  | zero =>
    intro p m told h
    cases h
  | succ depth ih =>
    intro p m told h
    rw [within] at h ⊢
    split at h
    · next made => exact ih.portrait h
    · cases h

theorem within_mono {depth depth' : Nat} (le : depth ≤ depth') :
    (within depth).Extends (within depth') := by
  induction le with
  | refl => exact fun _ _ _ h => h
  | step _ ih => exact fun _ _ _ h => within_succ _ _ _ _ (ih _ _ _ h)

/-! ## Placeholders -/

/-- What is told is an answer, or a placeholder where the question fails. -/
theorem answer_tells {tell : Telling} {placeholder s : String} {question : Eval String}
    {m n : Memory} (later : ∀ {p k e n}, tell p k = some (e, n) → k.Evolves n)
    (told : tell.answer placeholder question m = some (s, n)) : question.Tells placeholder m s n := by
  unfold answer at told
  split at told
  · next run =>
    cases told
    exact .answer run
  · next run =>
    obtain ⟨⟨e, n'⟩, deeper, h⟩ := Option.map_eq_some_iff.mp told
    cases h
    exact .failure run (later deeper)

/-- What is told describes the exception. -/
theorem within_describes {depth : Nat} {p : Pending} {m n : Memory} {e : PythonError}
    (told : within depth p m = some (e, n)) : e.Describes p m n := by
  induction depth generalizing p m n e with
  | zero => cases told
  | succ depth ih =>
    rw [within] at told
    split at told
    · next normal =>
      obtain ⟨typeName, named, rest⟩ := Option.bind_eq_some_iff.mp told
      obtain ⟨text, texted, h⟩ := Option.map_eq_some_iff.mp rest
      cases h
      exact ⟨normal, answer_tells (fun h => (ih h).evolves) named,
        answer_tells (fun h => (ih h).evolves) texted⟩
    · cases told

/-! ## What is never told -/

/-- Whether every exception of a family raises another one of it when it is described, by the name
of its class or by its text. -/
def Perpetual (family : Pending → Memory → Prop) : Prop :=
  ∀ p m, family p m → ∃ cls value made,
    (Eval.normalize Machine.top p).run m = (.ok (cls, value), made) ∧
    ((∃ x k, (Eval.hostTypeName Machine.top cls).run made = (.error x, k) ∧
        family ⟨k.classOf x, some x⟩ k) ∨
      ∃ typeName named x k, (∃ depth, (within depth).answer unknownType
          (Eval.hostTypeName Machine.top cls) made = some (typeName, named)) ∧
        (Eval.hostText Machine.top value).run named = (.error x, k) ∧
        family ⟨k.classOf x, some x⟩ k)

/-- What is not told by any number of levels is not told in the answer to a question. -/
theorem Perpetual.untold {family : Pending → Memory → Prop} (perpetual : Perpetual family)
    (depth : Nat) : ∀ p m, family p m → within depth p m = none := by
  induction depth with
  | zero => exact fun _ _ _ => rfl
  | succ depth ih =>
    intro p m member
    obtain ⟨cls, value, made, normal, fails⟩ := perpetual p m member
    rw [within, normal]
    rcases fails with ⟨x, k, run, next⟩ | ⟨typeName, named, x, k, ⟨depth', answered⟩, run, next⟩
    · simp only [portrait, answer, run, ih _ _ next, Option.map_none, Option.bind_none]
    · have untold : (within depth).answer unprintable (Eval.hostText Machine.top value) named =
          none := by
        simp only [answer, run, ih _ _ next, Option.map_none]
      cases first : (within depth).answer unknownType (Eval.hostTypeName Machine.top cls) made with
      | none => simp only [portrait, first, Option.bind_none]
      | some a =>
        -- the answer does not depend on the levels
        have one := (within_mono (Nat.le_max_left depth depth')).answer first
        have other := (within_mono (Nat.le_max_right depth depth')).answer answered
        obtain rfl : a = (typeName, named) := Option.some.inj (one.symm.trans other)
        simp only [portrait, first, Option.bind_some, untold, Option.map_none]

/-- A question that gets no answer raises an exception that is never told. -/
theorem fails_of_unanswered (placeholder : String) (question : Eval String) (m : Memory)
    (unanswered : ∀ depth, (within depth).answer placeholder question m = none) :
    ∃ x k, question.run m = (.error x, k) ∧
      ∀ depth, within depth ⟨k.classOf x, some x⟩ k = none := by
  generalize hr : question.run m = b at unanswered
  obtain ⟨x | s, k⟩ := b
  · refine ⟨x, k, rfl, fun depth => ?_⟩
    have h := unanswered depth
    simp only [answer, hr] at h
    exact Option.map_eq_none_iff.mp h
  · have h := unanswered 0
    simp only [answer, hr] at h
    cases h

/-- An exception is never told just if it belongs to a perpetual family. -/
theorem never_told_iff (p : Pending) (m : Memory) :
    (∀ depth, within depth p m = none) ↔ ∃ family, Perpetual family ∧ family p m := by
  refine ⟨fun never => ⟨fun p m => ∀ depth, within depth p m = none, ?_, never⟩,
    fun ⟨family, perpetual, member⟩ depth => perpetual.untold depth p m member⟩
  intro p m never
  obtain ⟨⟨cls, value⟩, total⟩ := Eval.normalize_total Machine.top p m
  generalize hn : (Eval.normalize Machine.top p).run m = b at total
  obtain ⟨_, made⟩ := b
  cases total
  have nothing (depth : Nat) : (within depth).portrait cls value made = none := by
    have h := never (depth + 1)
    rwa [within, hn] at h
  refine ⟨cls, value, made, rfl, ?_⟩
  by_cases answered : ∃ depth a, (within depth).answer unknownType
      (Eval.hostTypeName Machine.top cls) made = some a
  · obtain ⟨depth, ⟨typeName, named⟩, answered⟩ := answered
    -- with levels enough for the name of the class, it is the text that is not told
    have unanswered (depth' : Nat) : (within depth').answer unprintable
        (Eval.hostText Machine.top value) named = none := by
      by_contra told
      obtain ⟨text, told⟩ := Option.ne_none_iff_exists'.mp told
      have first := (within_mono (Nat.le_max_left depth depth')).answer answered
      have second := (within_mono (Nat.le_max_right depth depth')).answer told
      have whole := nothing (max depth depth')
      simp only [portrait, first, Option.bind_some, second, Option.map_some] at whole
      cases whole
    obtain ⟨x, k, run, untold⟩ := fails_of_unanswered _ _ named unanswered
    exact .inr ⟨typeName, named, x, k, ⟨depth, answered⟩, run, untold⟩
  · obtain ⟨x, k, run, untold⟩ := fails_of_unanswered unknownType
      (Eval.hostTypeName Machine.top cls) made fun depth =>
        Option.eq_none_iff_forall_ne_some.mpr fun a h => answered ⟨depth, a, h⟩
    exact .inl ⟨x, k, run, untold⟩

end Telling

/-! ## What operations come to -/

namespace Host

variable {g h i k : Host} {made : β → α}

/-- How an operation ends that lets the interpreter carry out an evaluation and makes something of
what it returns, where a failure is told in some way. -/
inductive Concludes (tell : Telling) (f : Eval β) (made : β → α) (m : Memory) :
    Except Failure α × Host → Prop
  | returned {b : β} {k : Host} (run : f.run m = (.ok b, k.memory)) (clear : k.pending = none) :
      Concludes tell f made m (.ok (made b), k)
  | reported {x : Ref} {n : Memory} {e : PythonError} {k : Host} (run : f.run m = (.error x, n))
      (told : tell ⟨n.classOf x, some x⟩ n = some (e, k.memory)) (clear : k.pending = none) :
      Concludes tell f made m (.error (.error (.python e)), k)
  | endless {x : Ref} {n : Memory} {k : Host} (run : f.run m = (.error x, n))
      (untold : tell ⟨n.classOf x, some x⟩ n = none) : Concludes tell f made m (.error .overflow, k)

/-- How an operation ends of which it is known what it comes to, if it comes to an end. -/
inductive Settles (made : β → α) (outcome : Option (β × Memory)) : Except Failure α × Host → Prop
  | ended {b : β} {k : Host} (comes : outcome = some (b, k.memory)) (clear : k.pending = none) :
      Settles made outcome (.ok (made b), k)
  | endless {k : Host} (never : outcome = none) : Settles made outcome (.error .overflow, k)

theorem Concludes.resembles {tell : Telling} {f : Eval β} {m : Memory} {r : Except Failure α}
    (hc : Concludes tell f made m (r, k)) (ki : k.Resembles i) : Concludes tell f made m (r, i) := by
  cases hc with
  | returned run clear => exact .returned (ki.memory ▸ run) (ki.pending.trans clear)
  | reported run told clear => exact .reported run (ki.memory ▸ told) (ki.pending.trans clear)
  | endless run untold => exact .endless run untold

theorem Settles.resembles {outcome : Option (β × Memory)} {r : Except Failure α}
    (hs : Settles made outcome (r, k)) (ki : k.Resembles i) : Settles made outcome (r, i) := by
  cases hs with
  | ended comes clear => exact .ended (ki.memory ▸ comes) (ki.pending.trans clear)
  | endless never => exact .endless never

end Host

namespace Op

variable {tell : Telling} {fetch : Op Error} {h k : Host}

/-- Whether an operation fetches the pending exception and tells it in some way. -/
structure Performs (tell : Telling) (fetch : Op Error) : Prop where
  level : Level fetch
  settles : ∀ {t : ThreadId} {h : Host} {p : Pending}, h.Admits t → h.pending = some p →
    Host.Settles Error.python (tell p h.memory) (fetch.perform t h)

/-- Whether an operation lets the interpreter carry out an evaluation and makes something of what it
returns; a failure is told in some way. -/
def Asks (tell : Telling) (op : Op α) (f : Eval β) (made : β → α) : Prop :=
  Level op ∧ ∀ {t : ThreadId} {h : Host}, h.Admits t → h.pending = none →
    Host.Concludes tell f made h.memory (op.perform t h)

theorem Performs.concludes (hf : Performs tell fetch) {f : Eval β} {m : Memory} {t : ThreadId}
    {x : Ref} (made : β → α) (admits : k.Admits t) (run : f.run m = (.error x, k.memory))
    (pending : k.pending = some ⟨k.memory.classOf x, some x⟩) :
    Host.Concludes tell f made m ((do Op.fail (← fetch) : Op α).perform t k) := by
  have told := hf.settles admits pending
  rw [perform_bind]
  generalize fetch.perform t k = b at told ⊢
  cases told with
  | ended comes clear => exact .reported run comes clear
  | endless never => exact .endless run never

theorem Asks.guarded {op : Op α} {f : Eval β} {made : β → α} (ha : Asks tell op f made) :
    Asks tell (Op.guarded op) f made := by
  refine ⟨ha.1.guarded, fun {t h} admits clear => ?_⟩
  obtain ⟨i, k, hi, admits', hr, ik, -⟩ := guarded_open op admits
  rw [hr, ← hi.memory]
  exact (ha.2 admits' (hi.pending.trans clear)).resembles ik

theorem answeredBy_asks (hf : Performs tell fetch) (refs : List Ref) (body : Eval β) :
    Asks tell (enter refs body >>= Handle.answeredBy fetch) body id := by
  refine ⟨(enter_level refs body).bind fun r => ?_, fun {t h} admits clear => ?_⟩
  · cases r with
    | some b => exact .pure b
    | none => exact hf.level.bind fun e => .failure _
  · rw [perform_bind]
    rcases enter_cases refs body t h with ⟨b, k, hr, -, run, pending, -⟩ |
      ⟨x, k, hr, lock, run, pending, -⟩
    · rw [hr]
      exact .returned run (pending.trans clear)
    · rw [hr]
      exact hf.concludes id (admits.congr (congrArg _ lock) (congrArg (Lock.depth · t) lock)) run
        pending

theorem ownedBy_asks (hf : Performs tell fetch) (refs : List Ref) (body : Eval Ref) :
    Asks tell (enter refs body >>= Handle.ownedBy fetch) body Handle.adopt := by
  refine ⟨(enter_level refs body).bind fun r => ?_, fun {t h} admits clear => ?_⟩
  · cases r with
    | some r => exact (Quiet.hold r).1.bind fun _ => .pure _
    | none => exact hf.level.bind fun e => .failure _
  · rw [perform_bind]
    rcases enter_cases refs body t h with ⟨r, k, hr, -, run, pending, -⟩ |
      ⟨x, k, hr, lock, run, pending, -⟩
    · obtain ⟨_, i, hi, ki⟩ := (Quiet.hold r).2 t k
      rw [hr]
      show Host.Concludes tell body Handle.adopt h.memory
        ((Handle.ownedBy fetch (some r)).perform t k)
      rw [Handle.ownedBy, perform_bind, hi]
      exact .resembles (.returned run (pending.trans clear)) ki
    · rw [hr]
      exact hf.concludes _ (admits.congr (congrArg _ lock) (congrArg (Lock.depth · t) lock)) run
        pending

/-- An object that is made for a further call. -/
theorem Asks.spend {op : Op Handle} {next : Handle → Op α} {f : Eval Ref} {f' : Ref → Eval β}
    {made : β → α} (ho : Asks tell op f Handle.adopt)
    (hn : ∀ r, Asks tell (next (Handle.adopt r)) (f' r) made) (level : ∀ x, Level (next x)) :
    Asks tell (op >>= fun x => x.spend next) (f >>= f') made := by
  refine ⟨ho.1.bind fun x => Handle.spend_level (level x), fun {t h} admits clear => ?_⟩
  have admits' := admits_perform ho.1 admits
  have first := ho.2 admits clear
  rw [perform_bind]
  generalize op.perform t h = b at first admits' ⊢
  cases first with
  | @returned r k run clear =>
    obtain ⟨i, hr, ki⟩ := (Handle.adopt r).spend_run next t k
    show Host.Concludes tell (f >>= f') made h.memory (((Handle.adopt r).spend next).perform t k)
    rw [hr]
    have second := ((hn r).2 admits' clear).resembles ki
    have goes : (f >>= f').run h.memory = (f' r).run k.memory := Eval.run_bind_ok run f'
    generalize ((next (Handle.adopt r)).perform t k).1 = a at second ⊢
    cases second with
    | returned run' clear => exact .returned (goes.trans run') clear
    | reported run' told clear => exact .reported (goes.trans run') told clear
    | endless run' untold => exact .endless (goes.trans run') untold
  | reported run told clear => exact .reported (by rw [Eval.run_bind, run]) told clear
  | endless run untold => exact .endless (by rw [Eval.run_bind, run]) untold

end Op

/-! ## Telling an exception -/

namespace Handle

open Op

variable {tell : Telling} {fetch : Op Error}

theorem textBy_asks (hf : Performs tell fetch) (refs : List Ref) (body : Eval Ref) :
    Asks tell (enter refs body >>= textBy fetch) (body >>= Eval.utf8Of) id := by
  have text : Asks tell (enter refs body >>= ownedBy fetch >>= fun text =>
      text.spend fun text => enter [text.ref] (Eval.utf8Of text.ref) >>= answeredBy fetch)
      (body >>= Eval.utf8Of) id :=
    .spend (ownedBy_asks hf refs body) (fun r => answeredBy_asks hf [r] (Eval.utf8Of r))
      fun x => (answeredBy_asks hf _ _).1
  rwa [bind_assoc] at text

theorem strBy_asks (hf : Performs tell fetch) (r : Ref) :
    Asks tell ((adopt r).strBy fetch) (Eval.hostText Machine.top r) id :=
  (textBy_asks hf [r] (Eval.strObject Machine.top r)).guarded

theorem strBy_asks_level (hf : Performs tell fetch) (x : Handle) : Level (x.strBy fetch) :=
  x.live_level.bind fun _ => (textBy_asks hf _ _).1.guarded

theorem typeName_asks (hf : Performs tell fetch) (cls : Ref) :
    Asks tell ((adopt cls).getAttrBy fetch "__name__" >>= fun name =>
      name.spend fun name => name.strBy fetch) (Eval.hostTypeName Machine.top cls) id := by
  have name : Asks tell ((adopt cls).getAttrBy fetch "__name__")
      (Eval.getAttr Machine.top cls "__name__") adopt :=
    (ownedBy_asks hf [cls] (Eval.getAttr Machine.top cls "__name__")).guarded
  exact name.spend (fun r => strBy_asks hf r) fun x => strBy_asks_level hf x

end Handle

namespace Op

open Telling Host

variable {tell : Telling} {fetch : Op Error} {h : Host} {t : ThreadId}

theorem Performs.settles_bind {op : Op α} {next : α → Op β} {outcome : Option (α × Memory)}
    {rest : α × Memory → Option (γ × Memory)} {made : γ → β} (level : Level op)
    (admits : h.Admits t) (first : Settles id outcome (op.perform t h))
    (second : ∀ (a : α) (k : Host), k.Admits t → k.pending = none →
      Settles made (rest (a, k.memory)) ((next a).perform t k)) :
    Settles made (outcome.bind rest) ((op >>= next).perform t h) := by
  have admits' := admits_perform level admits
  rw [perform_bind]
  generalize op.perform t h = b at first admits' ⊢
  cases first with
  | ended comes clear =>
    rw [comes]
    exact second _ _ admits' clear
  | endless never =>
    rw [never]
    exact .endless rfl

/-- A question is answered, if by a placeholder. -/
theorem Asks.answers {body : Op String} {f : Eval String} (ha : Asks tell body f id)
    (placeholder : String) (admits : h.Admits t) (clear : h.pending = none) :
    Settles id (tell.answer placeholder f h.memory) ((orElse placeholder body).perform t h) := by
  have first := ha.2 admits clear
  rw [perform_orElse]
  generalize body.perform t h = b at first ⊢
  cases first with
  | returned run clear => exact .ended (by rw [answer, run]) clear
  | reported run told clear =>
    refine .ended ?_ clear
    simp only [answer, run, told, Option.map_some]
  | endless run untold =>
    refine .endless ?_
    simp only [answer, run, untold, Option.map_none]

theorem settles_spend {x : Handle} {body : Handle → Op α} {made : β → α}
    {outcome : Option (β × Memory)} (hb : Settles made outcome ((body x).perform t h)) :
    Settles made outcome ((x.spend body).perform t h) := by
  obtain ⟨k, hr, hk⟩ := x.spend_run body t h
  rw [hr]
  exact hb.resembles hk

/-- A type is described by its name, or by the placeholder. -/
theorem describeType_settles (hf : Performs tell fetch) (cls : Ref) (admits : h.Admits t)
    (clear : h.pending = none) :
    Settles id (tell.answer unknownType (Eval.hostTypeName Machine.top cls) h.memory)
      ((describeType fetch (Handle.adopt cls)).perform t h) :=
  (Handle.typeName_asks hf cls).answers unknownType admits clear

theorem describeType_level (hf : Performs tell fetch) (cls : Ref) :
    Level (describeType fetch (Handle.adopt cls)) :=
  orElse_level (Handle.typeName_asks hf cls).1

/-- After the name of the type comes the text of the object. -/
theorem portrait_settles (hf : Performs tell fetch) {cls : Ref} (value : Ref)
    (made : PythonError → α) {name : Op String} (level : Level name) (admits : h.Admits t)
    (named : Settles id (tell.answer unknownType (Eval.hostTypeName Machine.top cls) h.memory)
      (name.perform t h)) :
    Settles made (tell.portrait cls value h.memory) ((do
      let typeName ← name
      let text ← describeValue fetch (Handle.adopt value)
      pure (made ⟨typeName, text⟩) : Op α).perform t h) := by
  have texted := Handle.strBy_asks hf value
  refine Performs.settles_bind level admits named ?_
  intro typeName i admits clear
  rw [Option.map_eq_bind]
  refine Performs.settles_bind (orElse_level texted.1) admits
    (texted.answers unprintable admits clear) ?_
  intro text k _ clear
  exact .ended rfl clear

theorem describe_settles (hf : Performs tell fetch) (cls value : Ref) (admits : h.Admits t)
    (clear : h.pending = none) :
    Settles Error.python (tell.portrait cls value h.memory) ((describe fetch cls value).perform t h) := by
  obtain ⟨_, i, hi, ki⟩ := (Quiet.hold cls).2 t h
  obtain ⟨_, j, hj, kj⟩ := (Quiet.hold value).2 t i
  have admits' := admits_perform (Quiet.hold cls).1 admits
  rw [hi] at admits'
  have admits'' := admits_perform (Quiet.hold value).1 admits'
  rw [hj] at admits''
  have same := ki.trans kj
  rw [describe, perform_bind, hi]
  show Settles _ _ ((hold value >>= _).perform t i)
  rw [perform_bind, hj, ← same.memory]
  refine settles_spend (settles_spend ?_)
  exact portrait_settles hf value Error.python (describeType_level hf cls) admits''
    (describeType_settles hf cls admits'' (same.pending.trans clear))

theorem tell_settles {depth : Nat} (hf : Performs (within depth) fetch) (p : Pending)
    (admits : h.Admits t) (clear : h.pending = none) :
    Settles Error.python (within (depth + 1) p h.memory) ((Op.tell fetch p).perform t h) := by
  rw [Op.tell, perform_bind, within]
  rcases enter_cases [] (Eval.normalize Machine.top p) t h with
    ⟨⟨cls, value⟩, k, hr, lock, normal, pending, -⟩ | ⟨x, k, -, -, run, -⟩
  · rw [hr, normal]
    exact describe_settles hf cls value
      (admits.congr (congrArg _ lock) (congrArg (Lock.depth · t) lock)) (pending.trans clear)
  · obtain ⟨a, ha⟩ := Eval.normalize_total Machine.top p h.memory
    rw [run] at ha
    cases ha

/-- Fetching comes to just what is told with so many levels. -/
theorem fetchError_performs (depth : Nat) : Performs (within depth) (fetchError depth) := by
  induction depth with
  | zero => exact ⟨fun _ _ => rfl, fun _ _ => .endless rfl⟩
  | succ depth ih =>
    refine ⟨(fetchError_translates (depth + 1)).level, fun {t h p} admits pending => ?_⟩
    obtain ⟨i, k, admits', memory, taken, -, hr, ik⟩ := guarded_takePending _ admits
    rw [fetchError, hr]
    rw [pending] at ik ⊢
    have told := tell_settles ih p admits' taken
    rw [memory] at told
    exact told.resembles ik

end Op

/-- Telling an exception object comes to just what is told of it and its class. -/
theorem PythonError.ofException_settles (r : Ref) {t : ThreadId} {h : Host} (admits : h.Admits t)
    (clear : h.pending = none) : Host.Settles id
      ((Telling.within Op.translationDepth).portrait (h.memory.classOf r) r h.memory)
      ((ofException (Handle.adopt r)).perform t h) := by
  have translate := Op.fetchError_performs Op.translationDepth
  have typed : Op.Asks (Telling.within Op.translationDepth)
      ((Handle.adopt r).getTypeBy Op.translate) (do pure ((← Eval.memory).classOf r)) Handle.adopt :=
    (Op.ownedBy_asks translate [r] (do pure ((← Eval.memory).classOf r))).guarded
  have admits' := Op.admits_perform typed.1 admits
  have first := typed.2 admits clear
  rw [ofException, Op.perform_bind, Op.perform_attempt]
  generalize ((Handle.adopt r).getTypeBy Op.translate).perform t h = b at first admits' ⊢
  cases first with
  | @returned cls k run clear =>
    obtain ⟨rfl, same⟩ : h.memory.classOf r = cls ∧ h.memory = k.memory :=
      (Prod.mk.inj run).imp Except.ok.inj id
    rw [same]
    refine Op.portrait_settles translate r id
      (Handle.spend_level (Op.describeType_level translate _)) admits' ?_
    exact Op.settles_spend (Op.describeType_settles translate _ admits' clear)
  | reported run | endless run => cases run

namespace Host

open Op Telling

/-! ## Translating the pending exception -/

/-- What comes of translating the pending exception, whatever the size of the stack. -/
structure Translated (t : ThreadId) (h : Host) (p : Pending) : Prop where
  /-- it returns where there are levels enough, with a placeholder for what cannot be told, and more
  levels make no difference -/
  returns : ∀ depth e n, within depth p h.memory = some (e, n) → e.Describes p h.memory n ∧
    ∀ depth', depth ≤ depth' → ∃ k, (fetchError depth').perform t h = (.ok (.python e), k) ∧
      k.memory = n ∧ k.pending = none
  /-- and uses up the stack where there are not -/
  overflows : ∀ depth, within depth p h.memory = none →
    ∃ k, (fetchError depth).perform t h = (.error .overflow, k)
  /-- no stack is large enough just for exceptions that raise one another when they are described -/
  endless : (∀ depth, within depth p h.memory = none) ↔
    ∃ family, Perpetual family ∧ family p h.memory

theorem translated {t : ThreadId} {h : Host} {p : Pending} (admits : h.Admits t)
    (pending : h.pending = some p) : Translated t h p where
  returns depth e n told := by
    refine ⟨within_describes told, fun depth' le => ?_⟩
    have settles := (fetchError_performs depth').settles admits pending
    rw [within_mono le _ _ _ told] at settles
    generalize (fetchError depth').perform t h = b at settles ⊢
    cases settles with
    | ended comes clear =>
      cases comes
      exact ⟨_, rfl, rfl, clear⟩
    | endless never => cases never
  overflows depth untold := by
    have settles := (fetchError_performs depth).settles admits pending
    rw [untold] at settles
    generalize (fetchError depth).perform t h = b at settles ⊢
    cases settles with
    | ended comes => cases comes
    | endless => exact ⟨_, rfl⟩
  endless := never_told_iff p h.memory

/-- Translating an exception comes to an end unless describing it raises one of a family of
exceptions that raise one another without end. An exception object is told just as a pending
exception is. -/
theorem translation_ends_unless_perpetual (t : ThreadId) (h : Host) :
    (∀ p, h.Admits t → h.pending = some p → Translated t h p) ∧
    ∀ r, h.Admits t → h.pending = none →
      Settles id ((within translationDepth).portrait (h.memory.classOf r) r h.memory)
        ((PythonError.ofException (Handle.adopt r)).perform t h) :=
  ⟨fun _ admits pending => translated admits pending,
    fun r admits clear => PythonError.ofException_settles r admits clear⟩

/-- A process with a pending exception that is raised again when it is asked for its text. -/
def perpetual : Host :=
  let cls : Object := ⟨Ref.ofBuiltin .type, .cls ⟨"E", [Ref.ofExceptionClass .exception],
    (Builtin.exception .exception).lineage.map Ref.ofBuiltin, [("__str__", .cell 1)], none, false⟩,
    none⟩
  let text : Object := ⟨Ref.ofBuiltin .function,
    .function ⟨"__str__", .anything, [], [], .raiser (.existing (.cell 2))⟩, some []⟩
  let e : Object := ⟨.cell 0, .exception [] .nothing, some []⟩
  { Host.fresh with
    memory := { Memory.fresh with cells := #[cls, text, e] }
    pending := some ⟨.cell 0, some (.cell 2)⟩ }

/-- Describing that exception raises it again, and leaves everything as it was. -/
theorem perpetual_family : Perpetual fun p m =>
    p = ⟨.cell 0, some (.cell 2)⟩ ∧ m = perpetual.memory := by
  rintro p m ⟨rfl, rfl⟩
  refine ⟨.cell 0, .cell 2, perpetual.memory, rfl, .inr ?_⟩
  have name : (Eval.hostTypeName Machine.top (.cell 0)).run perpetual.memory =
      (.ok "E", perpetual.memory) := rfl
  refine ⟨"E", perpetual.memory, .cell 2, perpetual.memory, ⟨0, ?_⟩, rfl, rfl, rfl⟩
  rw [answer, name]

/-- There are exceptions that are never translated. -/
theorem raised_again_is_never_translated : ¬ ∀ (t : ThreadId) (h : Host) (p : Pending),
    h.Admits t → h.pending = some p → ∃ e k, translate.perform t h = (.ok e, k) := by
  intro returns
  have admits : perpetual.Admits 0 := .inl rfl
  have untold := perpetual_family.untold translationDepth _ _ ⟨rfl, rfl⟩
  obtain ⟨k, hk⟩ := (translated admits rfl).overflows translationDepth untold
  obtain ⟨e, k', hk'⟩ := returns 0 perpetual _ admits rfl
  cases hk'.symm.trans hk

end Host

end EmbeddedPython
