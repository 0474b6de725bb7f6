import EmbeddedPython.Proofs.Host.Translating

/-
  Honest operations

  An operation is honest when it leaves no exception pending, returns a value
  only if nothing was raised, and tells the very exception that made it fail: the
  first one of its share of the log. Later ones were raised in telling it.
-/

namespace EmbeddedPython

variable {α β : Type} {depth : Nat} {inside : Prop} {g h i k : Host}

namespace Host

/-- Whether an error tells what went wrong between two states: it describes the exception that was
raised first, or says that there was none. -/
inductive Blames (h k : Host) (e : PythonError) : Prop
  | raised {p : Pending} {later : List Pending} {m : Memory} (log : k.raised = later ++ p :: h.raised)
      (since : h.memory.Evolves m) (describes : e.Describes p m k.memory)
  | nothing (log : k.raised = h.raised) (unexplained : e = .unexplained)

/-- How an operation ends that is honest. -/
inductive Ends (depth : Nat) (h : Host) : Except Failure α × Host → Prop
  | returned {a : α} {k : Host} (clear : k.pending = none) (nothing : k.raised = h.raised) :
      Ends depth h (.ok a, k)
  | reported {e : PythonError} {k : Host} (clear : k.pending = none) (blames : h.Blames k e) :
      Ends depth h (.error (.error (.python e)), k)
  | refused {e : Error} {k : Host} (clear : k.pending = none) (own : e.python? = none) :
      Ends depth h (.error (.error e), k)
  | panicked {text : String} {k : Host} (clear : k.pending = none) :
      Ends depth h (.error (.panic text), k)
  | exhausted {k : Host} (deep : h.raised.length + depth < k.raised.length) :
      Ends depth h (.error .overflow, k)

namespace Ends

variable {r : Except Failure α} {f : Failure}

/-- What has been told stays told while nothing else is raised. -/
theorem resembles (e : h.Ends depth (r, k)) (ki : k.Resembles i) : h.Ends depth (r, i) := by
  cases e with
  | returned clear nothing => exact .returned (ki.pending.trans clear) (ki.raised.trans nothing)
  | reported clear blames =>
    refine .reported (ki.pending.trans clear) ?_
    cases blames with
    | raised log since describes => exact .raised (ki.raised.trans log) since (ki.memory ▸ describes)
    | nothing log unexplained => exact .nothing (ki.raised.trans log) unexplained
  | refused clear own => exact .refused (ki.pending.trans clear) own
  | panicked clear => exact .panicked (ki.pending.trans clear)
  | exhausted deep => exact .exhausted (ki.raised ▸ deep)

/-- An end is one since an earlier state, too, if nothing was raised in between. -/
theorem since {p : Except Failure α × Host} (e : h.Ends depth p) (memory : g.memory.Evolves h.memory)
    (raised : h.raised = g.raised) : g.Ends depth p := by
  cases e with
  | returned clear nothing => exact .returned clear (nothing.trans raised)
  | reported clear blames =>
    refine .reported clear ?_
    cases blames with
    | raised log since describes => exact .raised (raised ▸ log) (memory.trans since) describes
    | nothing log unexplained => exact .nothing (log.trans raised) unexplained
  | refused clear own => exact .refused clear own
  | panicked clear => exact .panicked clear
  | exhausted deep => exact .exhausted (raised ▸ deep)

/-- A failure is one of whatever was to be returned. -/
theorem failed (e : h.Ends depth ((.error f : Except Failure α), k)) :
    h.Ends depth ((.error f : Except Failure β), k) := by
  cases e with
  | reported clear blames => exact .reported clear blames
  | refused clear own => exact .refused clear own
  | panicked clear => exact .panicked clear
  | exhausted deep => exact .exhausted deep

end Ends

theorem Follows.ends {f : Eval β} {made : β → α} {p : Except Failure α × Host}
    (hf : h.Follows depth f made p) : h.Ends depth p := by
  cases hf with
  | returned run clear nothing => exact .returned clear nothing
  | reported run clear log describes =>
    have since := f.evolves h.memory
    rw [run] at since
    exact .reported clear (.raised log since describes)
  | exhausted deep => exact .exhausted deep

end Host

namespace Op

/-- Whether an operation is honest, with so many levels for what is raised in telling a failure. An
operation that is used `inside` others expects the lock to be open. -/
structure Honest (depth : Nat) (inside : Prop) (op : Op α) : Prop where
  level : Level op
  ends : ∀ {t : ThreadId} {h : Host}, (inside → h.Admits t) → h.pending = none →
    h.Ends depth (op.perform t h)

theorem Carries.honest {op : Op α} {f : Eval β} {made : β → α} (hc : Carries depth op f made) :
    Honest depth True op :=
  ⟨hc.1, fun admits clear => (hc.2 (admits trivial) clear).ends⟩

namespace Honest

theorem quiet {op : Op α} (hq : Quiet op) : Honest depth inside op := by
  refine ⟨hq.1, fun {t h} _ clear => ?_⟩
  obtain ⟨a, k, hr, hk⟩ := hq.2 t h
  rw [hr]
  exact .returned (hk.pending.trans clear) hk.raised

theorem pure (a : α) : Honest depth inside (Pure.pure a : Op α) := quiet (.pure a)

/-- An error of the host itself tells of no exception. -/
theorem fail {e : Error} (own : e.python? = none) : Honest depth inside (Op.fail e : Op α) :=
  ⟨.failure _, fun _ clear => .refused clear own⟩

theorem panic (text : String) : Honest depth inside (Op.panic text : Op α) :=
  ⟨.failure _, fun _ clear => .panicked clear⟩

theorem ofExcept {r : Except Error α} (own : ∀ e, r = .error e → e.python? = none) :
    Honest depth inside (Op.ofExcept r) := by
  cases r with
  | ok a => exact pure a
  | error e => exact fail (own e rfl)

/-- Where the first part returns nothing has been raised, so that the second part speaks for both. -/
theorem bind {op : Op α} {next : α → Op β} (ho : Honest depth inside op)
    (hn : ∀ a, Honest depth inside (next a)) : Honest depth inside (op >>= next) := by
  refine ⟨ho.level.bind fun a => (hn a).level, fun {t h} admits clear => ?_⟩
  have admits' := fun needed => admits_perform ho.level (admits needed)
  have memory := (op.keeps t h).memory
  have first := ho.ends admits clear
  rw [perform_bind]
  generalize op.perform t h = b at admits' memory first ⊢
  obtain ⟨f | a, k⟩ := b
  · exact first.failed
  · cases first with
    | returned clear nothing => exact ((hn a).ends admits' clear).since memory nothing

theorem ensuring {body : Op α} {last : Op Unit} (hb : Honest depth inside body) (hl : Quiet last) :
    Honest depth inside (Op.ensuring body last) := by
  refine ⟨hb.level.ensuring hl.1, fun {t h} admits clear => ?_⟩
  obtain ⟨k, hr, hk⟩ := hl.ensuring_run body t h
  rw [hr]
  exact (hb.ends admits clear).resembles hk

theorem onFailure {body : Op α} {last : Op Unit} (hb : Honest depth inside body) (hl : Quiet last) :
    Honest depth inside (Op.onFailure body last) := by
  refine ⟨hb.level.onFailure hl.1, fun {t h} admits clear => ?_⟩
  obtain ⟨k, hr, hk⟩ := hl.onFailure_run body t h
  rw [hr]
  exact (hb.ends admits clear).resembles hk

/-- Under the lock it is open. -/
theorem guarded {body : Op α} (hb : Honest depth True body) : Honest depth inside (Op.guarded body) := by
  refine ⟨hb.level.guarded, fun {t h} _ clear => ?_⟩
  by_cases admits : h.Admits t
  · obtain ⟨i, k, hi, admits', hr, ik, -⟩ := guarded_open body admits
    have ends := hb.ends (fun _ => admits') (hi.pending.trans clear)
    rw [hr]
    exact (ends.since (hi.memory ▸ .refl _) hi.raised).resembles ik
  · obtain ⟨text, hr⟩ := guarded_closed body admits
    rw [hr]
    exact .panicked clear

theorem spend {x : Handle} {body : Handle → Op α} (hb : Honest depth inside (body x)) :
    Honest depth inside (x.spend body) :=
  hb.ensuring x.drop_quiet

/-- A failure that is made something else of tells of no exception any more. -/
theorem orElse_fail {body : Op String} (hb : Honest depth inside body) (placeholder : String)
    {e : String → Error} (own : ∀ s, (e s).python? = none) :
    Honest depth inside (do Op.fail (e (← orElse placeholder body)) : Op α) := by
  refine ⟨(orElse_level hb.level).bind fun s => .failure _, fun {t h} admits clear => ?_⟩
  have ends := hb.ends admits clear
  rw [perform_bind, perform_orElse]
  generalize body.perform t h = b at ends ⊢
  cases ends with
  | returned clear nothing => exact .refused clear (own _)
  | reported clear blames => exact .refused clear (own _)
  | refused clear _ => exact .refused clear (own _)
  | panicked clear => exact .panicked clear
  | exhausted deep => exact .exhausted deep

end Honest

/-! ## Calls -/

theorem translate_translates : Translates translationDepth translate :=
  fetchError_translates translationDepth

/-- A failure without an exception is told as such. -/
theorem fail_translate_honest : Honest translationDepth inside (do Op.fail (← translate) : Op α) := by
  refine ⟨translate_translates.level.bind fun e => .failure _, fun {t h} _ clear => ?_⟩
  by_cases admits : h.Admits t
  · obtain ⟨k, hr, hk⟩ := translate_translates.unexplained (by decide) admits clear
    rw [perform_bind, hr]
    exact .reported (hk.pending.trans clear) (.nothing hk.raised rfl)
  · obtain ⟨text, hr⟩ := guarded_closed _ admits
    rw [perform_bind, translate, translationDepth, fetchError, hr]
    exact .panicked clear

/-- What a call answers is looked at by `next`. An answer that stands for a failure is taken for one
where an exception is pending. -/
theorem enterOr_honest {failed : β} {next : β → Op α} (refs : List Ref) (body : Eval β)
    (hn : ∀ b, Honest translationDepth True (next b))
    (report : ∀ (t : ThreadId) (k : Host), k.pending.isSome = true →
      (next failed).perform t k = (do Op.fail (← translate) : Op α).perform t k) :
    Honest translationDepth True (enterOr failed refs body >>= next) := by
  refine ⟨?_, fun {t h} admits clear => ?_⟩
  · exact ((enter_level refs body).bind fun _ => .pure _).bind fun b => (hn b).level
  · rw [enterOr, bind_assoc, perform_bind]
    rcases enter_cases refs body t h with ⟨b, k, hr, lock, run, pending, raised⟩ |
      ⟨x, k, hr, lock, run, pending, log⟩
    · have memory := body.evolves h.memory
      have admits' := (admits trivial).congr (k := k) (congrArg _ lock)
        (congrArg (Lock.depth · t) lock)
      rw [run] at memory
      rw [hr]
      exact ((hn b).ends (fun _ => admits') (pending.trans clear)).since memory raised
    · have admits' := (admits trivial).congr (k := k) (congrArg _ lock)
        (congrArg (Lock.depth · t) lock)
      rw [hr]
      show h.Ends translationDepth ((next failed).perform t k)
      rw [report t k (by rw [pending]; rfl)]
      -- what would have come after the evaluation plays no part
      have fails : (body >>= fun _ => (throw x : Eval α)).run h.memory = (.error x, k.memory) := by
        rw [Eval.run_bind, run]
      exact (translate_translates.follows id admits' fails pending log).ends

theorem checkStatus_honest (status : Int) :
    Honest translationDepth inside (checkStatus status) := by
  rw [checkStatus]
  split
  · exact fail_translate_honest
  · exact .pure _

theorem askStatus_honest (refs : List Ref) (body : Eval Int) :
    Honest translationDepth True (askStatus refs body) :=
  enterOr_honest refs body checkStatus_honest fun _ _ _ => rfl

/-- A number is never taken for a failure where no exception is pending. -/
theorem checkNumber_run [BEq α] (failed number : α) (t : ThreadId) (clear : h.pending = none) :
    (checkNumber failed number).perform t h = (.ok number, h) := by
  show (if number == failed && h.pending.isSome then _ else _ : Op α).perform t h = _
  rw [clear, Option.isSome_none, Bool.and_false, if_neg Bool.false_ne_true]
  rfl

theorem checkNumber_honest [BEq α] (failed number : α) :
    Honest translationDepth inside (checkNumber failed number) := by
  refine ⟨Level.host.bind fun h => ?_, fun {t h} _ clear => ?_⟩
  · split
    · exact translate_translates.level.bind fun e => .failure _
    · exact .pure _
  · rw [checkNumber_run failed number t clear]
    exact .returned clear rfl

theorem askNumber_honest [BEq α] {failed : α} (same : (failed == failed) = true) (refs : List Ref)
    (body : Eval α) : Honest translationDepth True (askNumber failed refs body) := by
  refine enterOr_honest refs body (checkNumber_honest failed) fun t k pending => ?_
  show (if failed == failed && k.pending.isSome then _ else _ : Op α).perform t k = _
  rw [same, pending]
  rfl

theorem request_honest (refs : List Ref) (body : Eval Ref) :
    Honest translationDepth True (request refs body) :=
  (owned_carries translate_translates refs body).honest

theorem ask_honest (refs : List Ref) (body : Eval α) :
    Honest translationDepth True (ask refs body) :=
  (answered_carries translate_translates refs body).honest

theorem askDone_honest (refs : List Ref) (body : Eval Unit) :
    Honest translationDepth True (askDone refs body) :=
  (askStatus_honest refs _).bind fun _ => .pure _

theorem askTruth_honest (refs : List Ref) (body : Eval Bool) :
    Honest translationDepth True (askTruth refs body) :=
  (askStatus_honest refs _).bind fun _ => .pure _

end Op

end EmbeddedPython
