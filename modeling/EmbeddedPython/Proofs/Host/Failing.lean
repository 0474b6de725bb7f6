import EmbeddedPython.Handle.Call
import EmbeddedPython.Proofs.Host.Fetching
import EmbeddedPython.Proofs.Host.Status
import EmbeddedPython.Proofs.Host.Succeeding

/-
  How operations fail

  An operation on an interpreter fails because the interpreter raised something,
  because it was asked for something impossible, or because it used up the
  stack. That something has been cancelled is never among the reasons, nor that
  an environment is live: these are said only where they have been found out. An
  operation does not panic either, as long as there is an interpreter.
-/

namespace EmbeddedPython

variable {α β : Type}

/-- Whether an error can be that of an operation on an interpreter. -/
def Error.IsProper (e : Error) : Prop := e ≠ .canceled ∧ e ≠ .alreadyRunning

/-- Whether an operation may fail like this. -/
def Failure.Proper : Failure → Prop
  | .error e => e.IsProper
  | .panic _ => False
  | .overflow => True

namespace Op

/-- Whether all failures of an operation are proper ones. -/
def Proper (op : Op α) : Prop :=
  ∀ (t : ThreadId) (h : Host), h.lock.alive = true →
    ∀ f, (op.perform t h).1 = .error f → f.Proper

theorem Safe.proper {op : Op α} (h : Safe op) : Proper op := by
  intro t k alive f hf
  obtain ⟨a, ha⟩ := h t k alive
  rw [ha] at hf
  cases hf

namespace Proper

theorem pure (a : α) : Proper (Pure.pure a) := Safe.proper (.pure a)

theorem fail {e : Error} (h : e.IsProper) : Proper (Op.fail e : Op α) := by
  intro _ _ _ f hf
  cases hf
  exact h

theorem andThen {body : Op α} {next : Except Failure α → Op β} (hb : Proper body)
    (ho : ∀ a, Proper (next (.ok a))) (he : ∀ f : Failure, f.Proper → Proper (next (.error f))) :
    Proper (body.andThen next) := by
  intro t h alive f hf
  have alive' := alive_perform body t alive
  rw [perform_andThen] at hf
  cases hr : (body.perform t h).1 with
  | ok a =>
    rw [hr] at hf
    exact ho a t _ alive' f hf
  | error g =>
    rw [hr] at hf
    exact he g (hb t h alive g hr) t _ alive' f hf

theorem failure {f : Failure} (h : f.Proper) : Proper (Op.failure f : Op α) := by
  intro _ _ _ g hg
  cases hg
  exact h

theorem bind {body : Op α} {next : α → Op β} (hb : Proper body) (hn : ∀ a, Proper (next a)) :
    Proper (body >>= next) :=
  andThen hb hn fun _ hf => failure hf

theorem ensuring {body : Op α} {last : Op Unit} (hb : Proper body) (hl : Proper last) :
    Proper (Op.ensuring body last) := by
  refine andThen hb (fun a => ?_) fun f hf => ?_
  · exact andThen hl (fun _ => pure a) fun _ hg => failure hg
  · exact andThen hl (fun _ => failure hf) fun _ hg => failure hg

theorem onFailure {body : Op α} {last : Op Unit} (hb : Proper body) (hl : Proper last) :
    Proper (Op.onFailure body last) :=
  andThen hb pure fun _ hf => andThen hl (fun _ => failure hf) fun _ hg => failure hg

theorem attempt {body : Op α} (hb : Proper body) : Proper (Op.attempt body) := by
  refine andThen hb (fun _ => pure _) fun f hf => ?_
  cases f with
  | error e => exact pure _
  | panic text => exact hf.elim
  | overflow => exact failure hf

/-- An attempt hands proper errors on. -/
theorem attempt_bind {body : Op α} {next : Except Error α → Op β} (hb : Proper body)
    (ho : ∀ a, Proper (next (.ok a))) (he : ∀ e : Error, e.IsProper → Proper (next (.error e))) :
    Proper (Op.attempt body >>= next) := by
  intro t h alive f hf
  have alive' := alive_perform body t alive
  have proper := hb t h alive
  rw [perform_bind, perform_attempt] at hf
  generalize body.perform t h = b at hf alive' proper
  obtain ⟨(e | text | _) | a, k⟩ := b
  · exact he e (proper _ rfl) t k alive' f hf
  · exact (proper _ rfl).elim
  · cases hf
    trivial
  · exact ho a t k alive' f hf

/-- Where there is an interpreter the lock can be taken. -/
theorem guarded {body : Op α} (hb : Proper body) : Proper (Op.guarded body) := by
  intro t h alive f hf
  obtain ⟨taken, lock, log, ht, -, hr⟩ := guarded_run body t alive
  rw [hr] at hf
  exact hb t { h with lock := taken } ((congrArg Option.isSome ht).trans alive) f hf

theorem ofExcept {r : Except Error α} (h : ∀ e, r = .error e → e.IsProper) :
    Proper (Op.ofExcept r) := by
  cases r with
  | ok a => exact pure a
  | error e => exact fail (h e rfl)

theorem update (f : Host → Host) (keeps : ∀ h : Host, h.Becomes (f h)) :
    Proper (Op.update f keeps) := Safe.proper (.update f keeps)

theorem host : Proper Op.host := fun _ _ _ _ hf => nomatch hf

end Proper

/-- A call reports by an answer, and never fails itself. -/
theorem enter_safe (refs : List Ref) (body : Eval α) : Safe (enter refs body) := by
  refine .bind (.update _ _) fun _ t h _ => ?_
  simp only [run]
  rcases body.run h.memory with ⟨_ | a, m⟩
  · exact ⟨none, rfl⟩
  · exact ⟨some a, rfl⟩

theorem enter_proper (refs : List Ref) (body : Eval α) : Proper (enter refs body) :=
  (enter_safe refs body).proper

end Op

/-! ## What handles are used for -/

theorem terminated_proper (s : String) : Op.Proper (Op.ofExcept (terminated s)) := by
  refine .ofExcept fun e he => ?_
  simp only [terminated] at he
  split at he
  · cases he
    exact ⟨(by rintro ⟨⟩), (by rintro ⟨⟩)⟩
  · cases he

namespace Handle

open Op

theorem live_proper (x : Handle) : Proper x.live := by
  simp only [live]
  split
  · exact .fail ⟨(by rintro ⟨⟩), (by rintro ⟨⟩)⟩
  · exact .pure _

theorem dispose_proper (x : Handle) : Proper x.dispose :=
  Safe.proper fun t _ alive => ⟨_, x.dispose_result t alive⟩

theorem drop_proper (x : Handle) : Proper x.drop := x.drop_safe.proper

theorem spend_proper {x : Handle} {body : Handle → Op α} (h : Proper (body x)) :
    Proper (x.spend body) := .ensuring h x.drop_proper

end Handle

/-! ## What an operation can return -/

namespace Op

/-- Whether everything that an operation returns is of a kind. -/
def Yields (P : α → Prop) (op : Op α) : Prop :=
  ∀ (t : ThreadId) (h k : Host) (a : α), op.perform t h = (.ok a, k) → P a

namespace Yields

variable {P : α → Prop}

theorem pure {a : α} (h : P a) : Yields P (Pure.pure a) := by
  intro _ _ _ b hb
  cases hb
  exact h

theorem failure (f : Failure) : Yields P (Op.failure f) := fun _ _ _ _ hb => nomatch hb

theorem bind {body : Op β} {next : β → Op α} (h : ∀ b, Yields P (next b)) :
    Yields P (body >>= next) := by
  intro t k i a ha
  obtain ⟨b, j, -, hb⟩ := bind_ok ha
  exact h b t j i a hb

theorem ensuring {body : Op α} {last : Op Unit} (h : Yields P body) :
    Yields P (Op.ensuring body last) := by
  intro t k i a ha
  obtain ⟨j, hj, -⟩ := ensuring_ok ha
  exact h t k j a hj

theorem guarded {body : Op α} (h : Yields P body) : Yields P (Op.guarded body) :=
  bind fun _ => ensuring h

end Yields

/-! ## Translating -/

/-- Whether an operation finds out how a call failed: the interpreter has raised something. -/
structure Explains (fetch : Op Error) : Prop where
  proper : Proper fetch
  python : Yields (fun e => ∃ x, e = .python x) fetch

variable {fetch : Op Error}

theorem Explains.fail (hf : Explains fetch) : Proper (do Op.fail (← fetch) : Op α) := by
  intro t h alive f hr
  rw [perform_bind] at hr
  have proper := hf.proper t h alive
  have python := hf.python t h
  generalize fetch.perform t h = b at hr proper python
  obtain ⟨g | e, k⟩ := b
  · cases hr
    exact proper f rfl
  · obtain ⟨x, rfl⟩ := python k e rfl
    cases hr
    exact ⟨nofun, nofun⟩

end Op

namespace Handle

open Op

variable {fetch : Op Error}

theorem ownedBy_proper (hf : Explains fetch) (result : Option Ref) :
    Proper (ownedBy fetch result) := by
  cases result with
  | none => exact hf.fail
  | some r => exact .bind (.update _ _) fun _ => .pure _

theorem answeredBy_proper (hf : Explains fetch) (result : Option α) :
    Proper (answeredBy fetch result) := by
  cases result with
  | none => exact hf.fail
  | some r => exact .pure r

theorem getAttrBy_proper (hf : Explains fetch) (x : Handle) (name : String) :
    Proper (x.getAttrBy fetch name) :=
  .bind x.live_proper fun _ => .bind (terminated_proper name) fun _ =>
    .guarded (.bind (enter_proper _ _) fun r => ownedBy_proper hf r)

theorem textBy_proper (hf : Explains fetch) (result : Option Ref) :
    Proper (textBy fetch result) :=
  .bind (ownedBy_proper hf result) fun _ =>
    spend_proper (.bind (enter_proper _ _) fun r => answeredBy_proper hf r)

theorem strBy_proper (hf : Explains fetch) (x : Handle) : Proper (x.strBy fetch) :=
  .bind x.live_proper fun _ =>
    .guarded (.bind (enter_proper _ _) fun r => textBy_proper hf r)

theorem getTypeBy_proper (hf : Explains fetch) (x : Handle) : Proper (x.getTypeBy fetch) :=
  .bind x.live_proper fun _ =>
    .guarded (.bind (enter_proper _ _) fun r => ownedBy_proper hf r)

end Handle

/-! ## What translations cannot fail at -/

namespace Op

/-- A last part that never fails makes no difference to the result. -/
theorem ensuring_result (body : Op α) {last : Op Unit} (safe : Safe last) (t : ThreadId) {h : Host}
    (alive : h.lock.alive = true) :
    ((Op.ensuring body last).perform t h).1 = (body.perform t h).1 := by
  obtain ⟨_, hl⟩ := safe t _ (alive_perform body t alive)
  rw [Op.ensuring, perform_andThen, perform_andThen, hl]
  rfl

namespace Certain

theorem proper {op : Op α} (h : Certain op) : Proper op := by
  intro t k alive f hf
  refine Classical.byContradiction fun improper => ?_
  have other : f ≠ .overflow := fun hf => improper (hf ▸ trivial)
  obtain ⟨a, ha⟩ := h t k alive fun hr => other (Except.error.inj (hf.symm.trans hr))
  rw [hf] at ha
  cases ha

theorem guarded {body : Op α} (hb : Certain body) : Certain (Op.guarded body) := by
  intro t h alive hover
  obtain ⟨taken, lock, log, ht, -, hr⟩ := guarded_run body t alive
  rw [hr] at hover ⊢
  exact hb t { h with lock := taken } ((congrArg Option.isSome ht).trans alive) hover

theorem ensuring {body : Op α} {last : Op Unit} (hb : Certain body) (safe : Safe last) :
    Certain (Op.ensuring body last) := by
  intro t h alive hover
  rw [ensuring_result body safe t alive] at hover ⊢
  exact hb t h alive hover

/-- The errors of an operation are values of its attempt. -/
theorem attempt {body : Op α} (hb : Proper body) : Certain (Op.attempt body) := by
  intro t h alive hover
  have proper := hb t h alive
  rw [perform_attempt] at hover ⊢
  generalize body.perform t h = b at hover proper ⊢
  obtain ⟨(e | text | _) | a, k⟩ := b
  · exact ⟨_, rfl⟩
  · exact (proper _ rfl).elim
  · exact absurd rfl hover
  · exact ⟨_, rfl⟩

end Certain

variable {fetch : Op Error}

theorem orElse_certain {body : Op String} (h : Proper body) (placeholder : String) :
    Certain (orElse placeholder body) := by
  refine .bind (.attempt h) fun r => ?_
  cases r <;> exact (Safe.pure _).certain

theorem describeType_certain (hf : Explains fetch) (cls : Handle) :
    Certain (describeType fetch cls) :=
  orElse_certain (.bind (Handle.getAttrBy_proper hf cls _) fun name =>
    Handle.spend_proper (Handle.strBy_proper hf name)) _

theorem describeValue_certain (hf : Explains fetch) (value : Handle) :
    Certain (describeValue fetch value) :=
  orElse_certain (Handle.strBy_proper hf value) _

/-- A translation explains, by translations at the level below, unless it uses up the stack. -/
theorem fetchError_explains (depth : Nat) :
    Certain (fetchError depth) ∧ Explains (fetchError depth) := by
  induction depth with
  | zero =>
    refine ⟨fun _ _ _ hover => absurd rfl hover, .failure trivial, .failure _⟩
  | succ depth ih =>
    have certain : Certain (fetchError (depth + 1)) := by
      have taken : Certain takePending := fun t h _ _ => ⟨h.pending, rfl⟩
      refine .guarded (taken.bind fun p => ?_)
      cases p with
      | none => exact (Safe.pure _).certain
      | some p =>
        refine .bind (enter_safe _ _).certain fun made => ?_
        rcases made with _ | ⟨cls, value⟩
        · exact (Safe.pure _).certain
        · refine .bind (Safe.update _ _).certain fun _ => .bind (Safe.update _ _).certain fun _ => ?_
          refine .ensuring (.ensuring ?_ (Handle.drop_safe _)) (Handle.drop_safe _)
          exact .bind (describeType_certain ih.2 _) fun _ =>
            .bind (describeValue_certain ih.2 _) fun _ => (Safe.pure _).certain
    refine ⟨certain, certain.proper, .guarded (.bind fun p => ?_)⟩
    cases p with
    | none => exact .pure ⟨_, rfl⟩
    | some p =>
      refine .bind fun made => ?_
      rcases made with _ | ⟨cls, value⟩
      · exact .pure ⟨_, rfl⟩
      · refine .bind fun _ => .bind fun _ => .ensuring (.ensuring ?_)
        exact .bind fun _ => .bind fun _ => .pure ⟨_, rfl⟩

theorem translate_certain : Certain translate := (fetchError_explains translationDepth).1

theorem translate_explains : Explains translate := (fetchError_explains translationDepth).2

/-- What a call that raises comes to. -/
theorem request_raises {body : Eval Ref} {m n : Memory} {e : Ref} (refs : List Ref)
    (hr : body.run m = (.error e, n)) (t : ThreadId) {h : Host} (alive : h.lock.alive = true)
    (hm : h.memory = m) : ((request refs body).perform t h).1 = .error .overflow ∨
      ∃ x, ((request refs body).perform t h).1 = .error (.error (.python x)) := by
  obtain ⟨k, hk, alive'⟩ : ∃ k, (enter refs body).perform t h = (.ok none, k) ∧
      k.lock.alive = true := by
    refine ⟨_, Prod.ext ?_ rfl, alive_perform _ t alive⟩
    simp only [enter, perform_bind, passing, update, run, hm, hr]
  have certain := translate_certain t k alive'
  have python := translate_explains.python t k
  have failed : (request refs body).perform t h =
      (do Op.fail (← translate) : Op Handle).perform t k := by
    rw [request, perform_bind, hk]
    rfl
  rw [failed, perform_bind]
  generalize translate.perform t k = b at certain python ⊢
  obtain ⟨f | e, i⟩ := b
  · refine .inl (Classical.byContradiction fun other => ?_)
    obtain ⟨_, ha⟩ := certain fun hf => other (congrArg _ (Except.error.inj hf))
    cases ha
  · obtain ⟨x, rfl⟩ := python i e rfl
    exact .inr ⟨x, rfl⟩

theorem ask_proper (refs : List Ref) (body : Eval α) : Proper (ask refs body) :=
  .bind (enter_proper _ _) fun r => Handle.answeredBy_proper translate_explains r

theorem askDone_proper (refs : List Ref) (body : Eval Unit) : Proper (askDone refs body) := by
  rw [askDone_eq]
  exact ask_proper refs body

theorem askTruth_proper (refs : List Ref) (body : Eval Bool) : Proper (askTruth refs body) := by
  rw [askTruth_eq]
  exact ask_proper refs body

theorem request_proper (refs : List Ref) (body : Eval Ref) : Proper (request refs body) :=
  .bind (enter_proper _ _) fun r => Handle.ownedBy_proper translate_explains r

end Op

/-- An exception object is always translated, unless that uses up the stack. -/
theorem PythonError.ofException_certain (x : Handle) :
    Op.Certain (PythonError.ofException x) := by
  refine .bind (.attempt (Handle.getTypeBy_proper Op.translate_explains x)) fun r => ?_
  have described (typeName : String) : Op.Certain (do
      pure (⟨typeName, ← Op.describeValue Op.translate x⟩ : PythonError)) :=
    .bind (Op.describeValue_certain Op.translate_explains x) fun _ => (Op.Safe.pure _).certain
  cases r with
  | ok cls =>
    exact .bind (.ensuring (Op.describeType_certain Op.translate_explains cls) cls.drop_safe)
      described
  | error _ => exact .bind (Op.Safe.pure unknownType).certain described

/-! ## Asking and calling objects -/

namespace Handle

open Op

theorem getAttr_proper (x : Handle) (name : String) : Proper (x.getAttr name) :=
  getAttrBy_proper translate_explains x name

theorem isTruthy_proper (x : Handle) : Proper x.isTruthy := by
  refine .bind x.live_proper fun _ => ?_
  split
  · exact .pure _
  · exact .guarded (askTruth_proper _ _)

theorem fill_proper (tuple : Handle) (items : List Handle) : Proper (fill tuple items) := by
  induction items with
  | nil => exact .pure ()
  | cons x rest ih =>
    exact .bind x.live_proper fun _ => .bind (.update _ _) fun _ => .bind (.update _ _) fun _ =>
      .bind (askDone_proper _ _) fun _ => .bind (.update _ _) fun _ => ih

theorem tupleOf_proper (items : List Handle) : Proper (tupleOf items) := by
  simp only [tupleOf]
  split
  · exact request_proper _ _
  · exact .bind (request_proper _ _) fun tuple =>
      .bind (.onFailure (fill_proper tuple items) tuple.drop_proper) fun _ => .pure _

theorem call_proper (f : Handle) (arguments : List Handle) : Proper (f.call arguments) := by
  refine .bind f.live_proper fun _ => .guarded ?_
  split
  · exact request_proper _ _
  · next x => exact .bind x.live_proper fun _ => request_proper _ _
  · exact .bind (tupleOf_proper _) fun _ => spend_proper (request_proper _ _)

theorem nameValues_proper (dict : Handle) (values : List (String × Handle)) :
    Proper (nameValues dict values) := by
  induction values with
  | nil => exact .pure ()
  | cons value rest ih =>
    obtain ⟨name, x⟩ := value
    exact .bind x.live_proper fun _ => .bind (request_proper _ _) fun _ =>
      .bind (spend_proper (askDone_proper _ _)) fun _ => ih

theorem callWithKeywords_proper (f : Handle) (arguments : List Handle) (names : List String)
    (values : List Handle) (extra : Option Handle) :
    Proper (f.callWithKeywords arguments names values extra) := by
  simp only [callWithKeywords, callWithKeywordsThrough]
  split
  · exact .fail ⟨nofun, nofun⟩
  split
  · exact f.call_proper arguments
  refine .bind f.live_proper fun _ => .guarded ?_
  refine .bind (tupleOf_proper _) fun _ => spend_proper ?_
  refine .bind (request_proper _ _) fun dict => spend_proper ?_
  have called (callee : Ref) (tuple : Handle) : Proper (do
      nameValues dict (names.zip values)
      request [callee, tuple.ref, dict.ref]
        (Eval.applyAll Machine.top.call callee tuple.ref dict.ref)) :=
    .bind (nameValues_proper _ _) fun _ => request_proper _ _
  cases extra with
  | some y =>
    exact .bind y.live_proper fun _ => .bind (askDone_proper _ _) fun _ => called _ _
  | none => exact called _ _

theorem callMethod_proper (x : Handle) (name : String) (arguments : List Handle) :
    Proper (x.callMethod name arguments) :=
  .bind (x.getAttr_proper name) fun f => spend_proper (f.call_proper arguments)

theorem hasAttr_proper (x : Handle) (name : String) : Proper (x.hasAttr name) := by
  refine .bind x.live_proper fun r => .bind (terminated_proper name) fun name =>
    .guarded (.bind (enter_proper _ _) fun found => ?_)
  cases found with
  | some _ => exact .pure _
  | none => exact .bind (.bind .host fun _ => .bind (.update _ _) fun _ => .pure _) fun _ => .pure _

theorem typeName_proper (x : Handle) : Proper x.typeName :=
  .bind (getTypeBy_proper translate_explains x) fun cls =>
    spend_proper (.bind (cls.getAttr_proper _) fun name =>
      spend_proper (strBy_proper translate_explains name))

theorem clone_proper (x : Handle) : Proper x.clone := by
  refine .bind x.live_proper fun r => ?_
  have counted : Proper (Op.guarded do Op.passing [r]; Op.hold r) :=
    .guarded (.bind (.update _ _) fun _ => .update _ _)
  split
  · exact .bind counted fun _ => .pure _
  · exact .pure _

end Handle

end EmbeddedPython
