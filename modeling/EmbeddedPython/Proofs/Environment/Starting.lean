import EmbeddedPython.Proofs.Environment.Finalization
import EmbeddedPython.Proofs.Environment.Telling

/-
  Starting an environment

  A start is refused only because an environment is live. What it does after
  that, resolving what the environment needs, may fail, but never in this way.
-/

namespace EmbeddedPython

open Op Bridge

namespace Host

theorem importModule_proper (name : String) : Proper (importModule name) :=
  .bind (terminated_proper name) fun _ => .guarded (request_proper _ _)

theorem newGlobals_proper : Proper newGlobals := by
  refine .guarded (.bind (request_proper _ _) fun globals => ?_)
  have fill : Proper (do
      Handle.spend (← importModule "builtins") fun builtins => do
        Handle.spend (← (HostValue.text "__builtins__").toHandle) fun key =>
          askDone [globals.ref, key.ref, builtins.ref]
            (Eval.setKey Machine.top globals.ref key.ref builtins.ref)) := by
    refine .bind (importModule_proper _) fun builtins => Handle.spend_proper ?_
    have key : Proper (HostValue.text "__builtins__").toHandle := by
      rw [HostValue.toHandle]
      exact .guarded (request_proper _ _)
    exact .bind key fun _ => Handle.spend_proper (askDone_proper _ _)
  exact .bind (.onFailure fill globals.drop_proper) fun _ => .pure _

theorem evaluateAlone_proper (expression : String) : Proper (evaluateAlone expression) :=
  .bind newGlobals_proper fun globals => Handle.spend_proper <|
    .bind (terminated_proper expression) fun _ => .bind globals.live_proper fun _ =>
      .guarded (request_proper _ _)

end Host

theorem appendPath_proper (list : Handle) (paths : List String) :
    Proper (appendPath list paths) := by
  induction paths with
  | nil => exact .pure ()
  | cons path rest ih =>
    have entry : Proper (HostValue.text path).toHandle := by
      rw [HostValue.toHandle]
      exact .guarded (request_proper _ _)
    have appended (x : Handle) : Proper (do (← list.callMethod "append" [x]).drop) :=
      .bind (list.callMethod_proper _ _) fun result => result.drop_proper
    exact .bind entry fun x => .bind (Handle.spend_proper (appended x)) fun _ => ih

theorem searchPathList_proper : Proper searchPathList := by
  refine .bind (.bind .host fun _ => .pure _) fun m => ?_
  simp only [borrowed]
  split
  · exact .bind (.update _ _) fun _ => .bind (.update _ _) fun _ => .pure _
  · exact translate_explains.fail

/-- Resolving what an environment needs fails in no way of its own. -/
theorem resolveBindings_proper (o : Options) : Proper (resolveBindings o) := by
  refine .guarded ?_
  split
  case' isTrue =>
    refine .bind searchPathList_proper fun list =>
      .bind (Handle.spend_proper (appendPath_proper list _)) fun _ => ?_
  all_goals
    refine .bind (Host.importModule_proper _) fun asyncio => Handle.spend_proper ?_
    refine .bind (asyncio.getAttr_proper _) fun newEventLoop =>
      .onFailure ?_ newEventLoop.drop_proper
    refine .bind (asyncio.getAttr_proper _) fun ensureFuture =>
      .onFailure ?_ ensureFuture.drop_proper
    exact .bind (Host.evaluateAlone_proper _) fun _ => .pure _

/-! ## Refusals -/

namespace Activity

variable {p : Process} {t : ThreadId} {o : Options}

/-- What an environment needs cannot be missing because an environment is live. -/
theorem resolve_error {e : EnvironmentId} (alive : p.host.lock.alive = true) {error : Error}
    (h : (resolve t e p).1 = .error error) : error ≠ .alreadyRunning := by
  simp only [resolve, run_get_bind] at h
  rw [run_bind] at h
  generalize hb : ask t (resolveBindings (p.environment e).options) p = b at h
  obtain ⟨error' | bindings, q⟩ := b <;> cases h
  exact ((resolveBindings_proper _).isProper alive (System.ask_error (congrArg Prod.fst hb))).2

/-- A start that is refused changes nothing. -/
theorem start_of_active (h : p.active = true) : start t o p = (.error .alreadyRunning, p) := by
  rw [start, run_bind, beginStart_eq, if_pos h]
  rfl

/-- What a start comes to where no environment is live. -/
theorem start_of_inactive (h : p.active = false) : start t o p =
    match resolve t p.environments.size (p.enroll o) with
    | (.ok _, q) => (.ok p.environments.size, q)
    | (.error error, q) => (.error error, (dropEnvironment t p.environments.size q).2) := by
  rw [start, run_bind, beginStart_eq, if_neg (h ▸ Bool.false_ne_true)]
  dsimp only
  rw [run_bind]
  rcases resolve t p.environments.size (p.enroll o) with ⟨_ | _, q⟩ <;> rfl

/-- A start is refused if and only if an environment is live. -/
theorem start_refused_iff (t : ThreadId) (o : Options) (p : Process) :
    (start t o p).1 = .error .alreadyRunning ↔ p.active = true := by
  refine ⟨fun h => ?_, fun h => by rw [start_of_active h]⟩
  refine Classical.byContradiction fun idle => ?_
  have alive := p.enroll_alive o
  rw [start_of_inactive (Bool.eq_false_of_not_eq_true idle)] at h
  generalize hr : resolve t p.environments.size (p.enroll o) = r at h
  obtain ⟨error | _, q⟩ := r
  · exact resolve_error alive (congrArg Prod.fst hr) (Except.error.inj h)
  · cases h

end Activity

end EmbeddedPython
