import EmbeddedPython.Handle.Call
import EmbeddedPython.Handle.Comparison
import EmbeddedPython.Host.Evaluation
import EmbeddedPython.Proofs.Host.Fetching
import EmbeddedPython.Proofs.Host.Status

/-
  Operations on handles

  Every operation owes nothing: what it is given stays with the caller, and
  what it makes on the way is given back, wherever it fails. What it returns is
  all that it leaves.
-/

namespace EmbeddedPython

open Op

variable {α : Type}

namespace Op

/-! ## Requests -/

theorem request_moves (refs : List Ref) (body : Eval Ref) :
    Moves 0 (request refs body) Handle.owned :=
  Handle.owned_moves translate_fetches refs body

theorem ask_moves (refs : List Ref) (body : Eval α) : Moves 0 (ask refs body) fun _ => 0 :=
  Handle.answered_moves translate_fetches refs body

theorem askDone_moves (refs : List Ref) (body : Eval Unit) :
    Moves 0 (askDone refs body) fun _ => 0 := by
  rw [askDone_eq]
  exact ask_moves refs body

theorem askTruth_moves (refs : List Ref) (body : Eval Bool) :
    Moves 0 (askTruth refs body) fun _ => 0 := by
  rw [askTruth_eq]
  exact ask_moves refs body

/-- A call that tells a failure by an answer of its own owes nothing, if what follows that answer
fetches the exception. -/
theorem enterOr_moves {failed : α} {next : α → Op β} {gains : β → Multiset Ref} (refs : List Ref)
    (body : Eval α) (fails : ∀ s, Leads (fun h => h.Holds s ∧ h.pending.isSome = true)
      (next failed) fun r h => (∃ f, r = .error f) ∧ h.Owns s)
    (goes : ∀ a, Moves 0 (next a) gains) : Moves 0 (enterOr failed refs body >>= next) gains := by
  intro rest
  rw [enterOr, bind_assoc]
  refine (enter_leads refs body _).bind (fun r => ?_) fun f h hp => ?_
  · rw [pure_bind]
    cases r with
    | some a =>
      refine (goes a rest).mono (fun h hp => ?_) fun _ _ => id
      rcases hp with ⟨a, -, ho⟩ | ⟨hn, -⟩
      · exact ho
      · cases hn
    | none =>
      refine (fails (0 + rest)).mono (fun h hp => ?_) fun r h hp => ?_
      · rcases hp with ⟨a, ha, -⟩ | ⟨-, hh⟩
        · cases ha
        · exact hh
      · obtain ⟨⟨f, rfl⟩, ho⟩ := hp
        exact ho
  · rcases hp with ⟨a, ha, -⟩ | ⟨hn, -⟩
    · cases ha
    · cases hn

theorem fail_moves (gains : α → Multiset Ref) : Moves 0 (do fail (← translate) : Op α) gains := by
  intro rest
  refine (translate_fetches.fail (0 + rest)).mono (fun h hp => hp.toHolds) ?_
  rintro _ h ⟨⟨f, rfl⟩, ho⟩
  exact ho

theorem askStatus_moves (refs : List Ref) (body : Eval Int) :
    Moves 0 (askStatus refs body) fun _ => 0 := by
  refine enterOr_moves refs body (fun s => ?_) fun n => ?_
  · exact (translate_fetches.fail s).mono (fun h hp => hp.1) fun _ _ => id
  · simp only [checkStatus]
    split
    · exact fail_moves _
    · exact .pure n rfl

theorem askNumber_moves [BEq α] {failed : α} (told : (failed == failed) = true) (refs : List Ref)
    (body : Eval α) : Moves 0 (askNumber failed refs body) fun _ => 0 := by
  refine enterOr_moves refs body (fun s => ?_) fun a => .host_bind fun k _ => ?_
  · refine .host_bind fun k hk => ?_
    rw [told, hk.2]
    exact (translate_fetches.fail s).mono (fun h hp => hp ▸ hk.1) fun _ _ => id
  · split
    · exact fail_moves _
    · exact .pure a rfl

/-- A question that never raises can be asked with something in hand. -/
theorem ask_total_moves (refs : List Ref) {body : Eval α} (total : body.Total)
    (s : Multiset Ref) : Moves s (ask refs body) fun _ => s := by
  intro rest
  refine (enter_total refs total _).bind (fun r => ?_) fun f h hp => nomatch hp.1
  cases r with
  | some a => exact .pure fun h hp => hp.2
  | none => exact fun t h hp _ => nomatch hp.1

theorem memory_moves : Moves 0 memory fun _ => 0 := .host_bind fun k _ => .pure k.memory rfl

theorem borrowed_moves (result : Option Ref) :
    Moves 0 (borrowed result) Handle.owned := by
  cases result with
  | some r => exact .bind (.passing [r]) fun _ => .bind (hold_moves r) fun _ => .pure _ rfl
  | none =>
    refine fun rest => (translate_fetches.fail (0 + rest)).mono (fun h hp => hp.toHolds) ?_
    rintro _ h ⟨⟨f, rfl⟩, ho⟩
    exact ho

end Op

namespace Handle

/-! ## Asking objects -/

theorem clone_moves (x : Handle) : Moves 0 x.clone Handle.owned := by
  cases hd : x.disposed with
  | true =>
    simp only [clone, live, hd]
    exact .fail .disposed
  | false =>
    simp only [clone, live, hd]
    rw [if_neg Bool.false_ne_true, pure_bind]
    cases hi : x.isImmortal with
    | true =>
      have none : 0 = (adopt x.ref).owned := by
        simp only [isImmortal] at hi
        simp [owned, adopt, isImmortal, hi]
      exact .pure _ none
    | false =>
      exact .bind (.guarded (.bind (.passing [x.ref]) fun _ => hold_moves x.ref)) fun _ =>
        .pure _ rfl

theorem getAttr_moves (x : Handle) (name : String) : Moves 0 (x.getAttr name) Handle.owned :=
  getAttrBy_moves translate_fetches x name

theorem hasAttr_moves (x : Handle) (name : String) : Moves 0 (x.hasAttr name) fun _ => 0 := by
  refine .bind x.live_moves fun r => .bind (.ofExcept _) fun name => .guarded fun rest => ?_
  refine (enter_leads [r] (Eval.getAttr Machine.top r name) _).bind (fun found => ?_) fun f h hp => ?_
  · cases found with
    | some a =>
      refine .pure fun h hp => ?_
      rcases hp with ⟨a, -, ho⟩ | ⟨hn, -⟩
      · exact ho
      · cases hn
    | none =>
      refine ((takePending_leads (0 + rest)).mono (fun h hp => ?_) fun _ _ => id).bind
        (fun _ => .pure fun h hp => hp.2) fun f h hp => hp.2
      rcases hp with ⟨a, ha, -⟩ | ⟨-, hh, -⟩
      · cases ha
      · exact hh
  · rcases hp with ⟨a, ha, -⟩ | ⟨hn, -⟩
    · cases ha
    · cases hn

theorem setAttr_moves (x : Handle) (name : String) (value : Handle) :
    Moves 0 (x.setAttr name value) fun _ => 0 :=
  .bind x.live_moves fun _ => .bind value.live_moves fun _ => .bind (.ofExcept _) fun _ =>
    .guarded (askDone_moves _ _)

theorem repr_moves (x : Handle) : Moves 0 x.repr fun _ => 0 :=
  .bind x.live_moves fun _ => .guarded (textBy_moves translate_fetches _ _)

theorem str_moves (x : Handle) : Moves 0 x.str fun _ => 0 := strBy_moves translate_fetches x

theorem getType_moves (x : Handle) : Moves 0 x.getType Handle.owned :=
  getTypeBy_moves translate_fetches x

theorem typeName_moves (x : Handle) : Moves 0 x.typeName fun _ => 0 :=
  .bind x.getType_moves fun cls => use_moves <|
    .bind (cls.getAttr_moves _) fun name => use_moves name.str_moves

theorem isTruthy_moves (x : Handle) : Moves 0 x.isTruthy fun _ => 0 := by
  refine .bind x.live_moves fun r => ?_
  split
  · exact .pure _ rfl
  · exact .guarded (askTruth_moves _ _)

theorem hash_moves (x : Handle) : Moves 0 x.hash fun _ => 0 :=
  .bind x.live_moves fun _ => .guarded (askStatus_moves _ _)

theorem referenceCount_moves (x : Handle) : Moves 0 x.referenceCount fun _ => 0 :=
  .bind x.live_moves fun r => .guarded (.bind (.passing [r]) fun _ =>
    .host_bind fun _ _ => .pure _ rfl)

theorem richCompare_moves (x y : Handle) (c : Comparison) :
    Moves 0 (x.richCompare y c) fun _ => 0 :=
  .bind x.live_moves fun _ => .bind y.live_moves fun _ => .guarded (askTruth_moves _ _)

theorem equals_moves (x y : Handle) : Moves 0 (x.equals y) fun _ => 0 := by
  simp only [equals]
  split
  · exact .pure _ rfl
  · exact x.richCompare_moves y .eq

theorem partialCompare_moves (x y : Handle) : Moves 0 (x.partialCompare y) fun _ => 0 := by
  refine .bind (x.equals_moves y) fun same => ?_
  split
  · exact .pure _ rfl
  · refine .bind (x.richCompare_moves y .lt) fun less => ?_
    split
    · exact .pure _ rfl
    · refine .bind (x.richCompare_moves y .gt) fun greater => ?_
      split <;> exact .pure _ rfl

/-! ## Calling objects -/

theorem fill_moves (tuple : Handle) (items : List Handle) :
    Moves 0 (fill tuple items) fun _ => 0 := by
  induction items with
  | nil => exact .pure () rfl
  | cons x rest ih =>
    refine .bind x.live_moves fun r => .bind (.passing [r]) fun _ => .bind (hold_moves r) fun _ => ?_
    -- the call never fails, so that the reference that the tuple takes over is not lost
    have total : Eval.Total (Eval.addItem tuple.ref r rest.isEmpty) := by
      refine .bind (.valueOf tuple.ref) fun v => ?_
      split
      · exact .update _ _
      · exact .pure _
    rw [askDone_eq]
    exact .bind (ask_total_moves _ total _) fun _ => .bind (letGo_moves r) fun _ => ih

theorem tupleOf_moves (items : List Handle) : Moves 0 (tupleOf items) Handle.owned := by
  simp only [tupleOf]
  split
  · exact request_moves _ _
  · refine .bind (request_moves _ _) fun tuple => ?_
    have filled := Moves.onFailure (fill_moves tuple items) tuple.drop_moves tuple.drop_safe
    exact .bind (filled.mono (add_zero _).symm fun _ => zero_add _) fun _ => .pure _ rfl

theorem call_moves (f : Handle) (arguments : List Handle) :
    Moves 0 (f.call arguments) Handle.owned := by
  refine .bind f.live_moves fun callee => .guarded ?_
  split
  · exact request_moves _ _
  · next x => exact .bind x.live_moves fun _ => request_moves _ _
  · exact .bind (tupleOf_moves _) fun tuple => use_moves (request_moves _ _)

theorem nameValues_moves (dict : Handle) (named : List (String × Handle)) :
    Moves 0 (nameValues dict named) fun _ => 0 := by
  induction named with
  | nil => exact .pure () rfl
  | cons entry rest ih =>
    obtain ⟨name, x⟩ := entry
    exact .bind x.live_moves fun r => .bind (request_moves _ _) fun key =>
      .bind (use_moves (askDone_moves _ _)) fun _ => ih

theorem callWithKeywords_moves (f : Handle) (arguments : List Handle) (names : List String)
    (values : List Handle) (extra : Option Handle) :
    Moves 0 (f.callWithKeywords arguments names values extra) Handle.owned := by
  simp only [callWithKeywords, callWithKeywordsThrough]
  split
  · exact .fail _
  split
  · exact f.call_moves arguments
  refine .bind f.live_moves fun callee => .guarded ?_
  refine .bind (tupleOf_moves arguments) fun tuple => use_moves ?_
  refine .bind (request_moves _ _) fun dict => use_moves ?_
  have called : Moves 0 (do
      nameValues dict (names.zip values)
      request [callee, tuple.ref, dict.ref]
        (Eval.applyAll Machine.top.call callee tuple.ref dict.ref)) Handle.owned :=
    .bind (nameValues_moves dict _) fun _ => request_moves _ _
  cases extra with
  | none => exact called
  | some x => exact .bind x.live_moves fun r => .bind (askDone_moves _ _) fun _ => called

theorem callMethod_moves (x : Handle) (name : String) (arguments : List Handle) :
    Moves 0 (x.callMethod name arguments) Handle.owned :=
  .bind (x.getAttr_moves name) fun f => use_moves (f.call_moves arguments)

end Handle

/-! ## Values of the host -/

namespace HostValue

mutual

/-- The references that the handles inside a value stand for. -/
def owned : HostValue → Multiset Ref
  | .handle x => x.owned
  | .some v => v.owned
  | .list items => ownedAll items
  | _ => 0

def ownedAll : List HostValue → Multiset Ref
  | [] => 0
  | v :: rest => v.owned + ownedAll rest

end

mutual

/-- Making an object of a value leaves the value with the caller. -/
theorem toHandle_moves : ∀ v : HostValue, Moves 0 v.toHandle Handle.owned
  | .int _ | .float _ | .text _ => by
    simp only [toHandle]
    exact .guarded (request_moves _ _)
  | .size n => by
    simp only [toHandle]
    split
    · exact .fail _
    · exact .guarded (request_moves _ _)
  | .truth b => by
    simp only [toHandle]
    exact .pure _ (by cases b <;> rfl)
  | .unit | .none => by
    simp only [toHandle]
    exact .pure _ rfl
  | .handle x => by
    simp only [toHandle]
    exact x.clone_moves
  | .some v => by
    simp only [toHandle]
    exact toHandle_moves v
  | .list items => by
    simp only [toHandle]
    refine .guarded (.bind (request_moves _ _) fun list => ?_)
    have filled := Moves.onFailure (appendAll_moves list items) list.drop_moves list.drop_safe
    exact .bind (filled.mono (add_zero _).symm fun _ => zero_add _) fun _ => .pure _ rfl

theorem appendAll_moves (list : Handle) :
    ∀ items : List HostValue, Moves 0 (appendAll list items) fun _ => 0
  | [] => by
    simp only [appendAll]
    exact .pure () rfl
  | v :: rest => by
    simp only [appendAll]
    exact .bind (toHandle_moves v) fun item => .bind (Handle.use_moves (askDone_moves _ _)) fun _ =>
      appendAll_moves list rest

end

end HostValue

namespace Handle

mutual

/-- The handles inside a value are dropped with it, and dropping never fails. -/
theorem dropValue_moves : ∀ v : HostValue, Moves v.owned (dropValue v) fun _ => 0
  | .handle x => by
    simp only [dropValue]
    exact x.drop_moves
  | .some v => by
    simp only [dropValue]
    exact dropValue_moves v
  | .list items => by
    simp only [dropValue]
    exact dropValues_moves items
  | .int _ | .size _ | .float _ | .truth _ | .text _ | .unit | .none => by
    simp only [dropValue]
    exact .pure () rfl

theorem dropValues_moves :
    ∀ items : List HostValue, Moves (HostValue.ownedAll items) (dropValue.dropValues items) fun _ => 0
  | [] => by
    simp only [dropValue.dropValues]
    exact .pure () rfl
  | v :: rest => by
    simp only [dropValue.dropValues]
    exact .bind ((dropValue_moves v).carry (dropValue_safe v).certain _) fun _ =>
      (dropValues_moves rest).mono (zero_add _) fun _ => rfl

theorem dropValue_safe : ∀ v : HostValue, Safe (dropValue v)
  | .handle x => by
    simp only [dropValue]
    exact x.drop_safe
  | .some v => by
    simp only [dropValue]
    exact dropValue_safe v
  | .list items => by
    simp only [dropValue]
    exact dropValues_safe items
  | .int _ | .size _ | .float _ | .truth _ | .text _ | .unit | .none => by
    simp only [dropValue]
    exact .pure ()

theorem dropValues_safe : ∀ items : List HostValue, Safe (dropValue.dropValues items)
  | [] => by
    simp only [dropValue.dropValues]
    exact .pure ()
  | v :: rest => by
    simp only [dropValue.dropValues]
    exact .bind (dropValue_safe v) fun _ => dropValues_safe rest

end

/-! ## Reading values -/

theorem mismatch_moves (expected : String) (x : Handle) (gains : α → Multiset Ref) :
    Moves 0 (mismatch expected x) gains :=
  .bind (orElse_moves x.typeName_moves _) fun _ => .fail _

theorem isKind_moves (r : Ref) (c : Builtin) : Moves 0 (isKind r c) fun _ => 0 :=
  .bind memory_moves fun _ => .pure _ rfl

theorem readInt_moves (x : Handle) : Moves 0 x.readInt fun _ => 0 := by
  refine .bind x.live_moves fun r => .guarded (.bind (.passing [r]) fun _ => ?_)
  refine .bind (isKind_moves r _) fun isInt => .bind (isKind_moves r _) fun isBool => ?_
  split
  · exact mismatch_moves _ _ _
  · exact askNumber_moves rfl _ _

theorem readFloat_moves (x : Handle) : Moves 0 x.readFloat fun _ => 0 := by
  refine .bind x.live_moves fun r => .guarded (.bind (.passing [r]) fun _ => ?_)
  refine .bind (isKind_moves r _) fun isFloat => .bind (isKind_moves r _) fun isInt =>
    .bind (isKind_moves r _) fun isBool => ?_
  split
  · exact mismatch_moves _ _ _
  · exact askNumber_moves rfl _ _

theorem readTruth_moves (x : Handle) : Moves 0 x.readTruth fun _ => 0 := by
  refine .bind x.live_moves fun r => .guarded (.bind (.passing [r]) fun _ => ?_)
  refine .bind (isKind_moves r _) fun found => ?_
  split
  · exact mismatch_moves _ _ _
  · exact x.isTruthy_moves

theorem readText_moves (x : Handle) : Moves 0 x.readText fun _ => 0 := by
  refine .bind x.live_moves fun r => .guarded (.bind (.passing [r]) fun _ => ?_)
  refine .bind (isKind_moves r _) fun found => ?_
  split
  · exact mismatch_moves _ _ _
  · exact ask_moves _ _

/-- Items that have been read are dropped when a later one cannot be. -/
theorem readItems_moves {read : Handle → Op HostValue}
    (hr : ∀ x, Moves 0 (read x) HostValue.owned) (r : Ref) (i left : Nat) :
    Moves 0 (readItems read r i left) HostValue.ownedAll := by
  induction left generalizing i with
  | zero => exact .pure [] rfl
  | succ left ih =>
    refine .bind (request_moves _ _) fun item => .bind (use_moves (hr item)) fun v => ?_
    have rest := Moves.onFailure (ih (i + 1)) (dropValue_moves v) (dropValue_safe v)
    exact .bind (rest.mono (add_zero _).symm fun _ => add_comm _ _) fun _ => .pure _ rfl

theorem readList_moves (width : Nat) {read : Handle → Op HostValue}
    (hr : ∀ x, Moves 0 (read x) HostValue.owned) (x : Handle) :
    Moves 0 (x.readList width read) HostValue.ownedAll := by
  refine .bind x.live_moves fun r => .guarded (.bind (.passing [r]) fun _ => ?_)
  refine .bind (ask_moves _ _) fun isSequence => .bind (isKind_moves r _) fun isText => ?_
  split
  · exact mismatch_moves _ _ _
  · refine enterOr_moves _ _ (fun s => ?_) fun n => ?_
    · exact (translate_fetches.fail s).mono (fun h hp => hp.1) fun _ _ => id
    · split
      · exact fail_moves _
      split
      · exact .failure _
      · exact readItems_moves hr r 0 _

theorem getItem_moves (x : Handle) (key : HostValue) : Moves 0 (x.getItem key) Handle.owned :=
  .bind x.live_moves fun _ => .guarded (.bind key.toHandle_moves fun _ =>
    use_moves (request_moves _ _))

/-- What is read from an object stands for the handles inside it, and for nothing else. -/
theorem extract_moves (t : HostType) (x : Handle) : Moves 0 (x.extract t) HostValue.owned := by
  induction t generalizing x with
  | int64 => exact .bind x.readInt_moves fun _ => .pure _ rfl
  | int32 =>
    refine .bind x.readInt_moves fun n => ?_
    split
    · exact .fail _
    · exact .pure _ rfl
  | float => exact .bind x.readFloat_moves fun _ => .pure _ rfl
  | truth => exact .bind x.readTruth_moves fun _ => .pure _ rfl
  | text => exact .bind x.readText_moves fun _ => .pure _ rfl
  | unit =>
    simp only [extract]
    split
    · exact .pure _ rfl
    · exact mismatch_moves _ _ _
  | handle => exact .bind x.clone_moves fun _ => .pure _ rfl
  | option t ih =>
    simp only [extract]
    split
    · exact .pure _ rfl
    · exact .bind (ih x) fun _ => .pure _ rfl
  | list t ih => exact .bind (readList_moves _ (fun item => ih item) x) fun _ => .pure _ rfl

end Handle

/-! ## Programs and exceptions -/

namespace Host

theorem importModule_moves (name : String) : Moves 0 (importModule name) Handle.owned :=
  .bind (.ofExcept _) fun _ => .guarded (request_moves _ _)

theorem newGlobals_moves : Moves 0 newGlobals Handle.owned := by
  refine .guarded (.bind (request_moves _ _) fun globals => ?_)
  have fill : Moves 0 (do
      Handle.spend (← importModule "builtins") fun builtins => do
        Handle.spend (← (HostValue.text "__builtins__").toHandle) fun key =>
          askDone [globals.ref, key.ref, builtins.ref]
            (Eval.setKey Machine.top globals.ref key.ref builtins.ref)) fun _ => 0 :=
    .bind (importModule_moves _) fun builtins => Handle.use_moves <|
      .bind (HostValue.toHandle_moves _) fun key => Handle.use_moves (askDone_moves _ _)
  have filled := Moves.onFailure fill globals.drop_moves globals.drop_safe
  exact .bind (filled.mono (add_zero _).symm fun _ => zero_add _) fun _ => .pure _ rfl

theorem evaluate_moves (expression : String) (globals : Handle) :
    Moves 0 (evaluate expression globals) Handle.owned :=
  .bind (.ofExcept _) fun _ => .bind globals.live_moves fun _ => .guarded (request_moves _ _)

theorem execute_moves (code : String) (globals : Handle) :
    Moves 0 (execute code globals) fun _ => 0 :=
  .bind (.ofExcept _) fun _ => .bind globals.live_moves fun _ =>
    .bind (.guarded (request_moves _ _)) fun result => result.drop_moves

theorem evaluateAlone_moves (expression : String) :
    Moves 0 (evaluateAlone expression) Handle.owned :=
  .bind newGlobals_moves fun globals => Handle.use_moves (evaluate_moves expression globals)

end Host

theorem PythonError.ofException_moves (x : Handle) :
    Moves 0 (PythonError.ofException x) fun _ => 0 := by
  refine .bind (.attempt (Handle.getTypeBy_moves translate_fetches x)) fun found => ?_
  have described (name : String) : Moves 0 (do
      pure (⟨name, ← describeValue translate x⟩ : PythonError)) fun _ => 0 :=
    .bind (describeValue_moves translate_fetches x) fun _ => .pure _ rfl
  cases found with
  | ok cls =>
    exact .bind (Handle.use_moves (describeType_moves translate_fetches cls)) fun _ => described _
  | error _ => exact .bind (.pure _ rfl) fun _ => described _

end EmbeddedPython
