import EmbeddedPython.Host.Translation
import EmbeddedPython.Proofs.Host.Owning

/-
  Calling in and fetching

  A call that fails leaves an exception pending, and whoever sees it fail
  fetches the exception. Together the two leave nothing behind: what is fetched
  is owned for as long as it is described, and after that no exception is
  pending.
-/

namespace EmbeddedPython

variable {α β : Type}

/-! ## Evaluations that never raise -/

namespace Eval

/-- Whether an evaluation never raises. -/
def Total (e : Eval α) : Prop := ∀ m : Memory, ∃ a, (e.run m).1 = .ok a

namespace Total

theorem pure (a : α) : Total (Pure.pure a : Eval α) := fun _ => ⟨a, rfl⟩

theorem update (f : Memory → Memory) (evolves : ∀ m : Memory, m.Evolves (f m)) :
    Total (update f evolves) := fun _ => ⟨(), rfl⟩

theorem bind {e : Eval α} {f : α → Eval β} (he : Total e) (hf : ∀ a, Total (f a)) :
    Total (e >>= f) := by
  intro m
  obtain ⟨a, ha⟩ := he m
  have hr : e.run m = (.ok a, (e.run m).2) := Prod.ext ha rfl
  rw [run_bind_ok hr]
  exact hf a _

theorem memory : Total memory := fun m => ⟨m, rfl⟩

theorem valueOf (r : Ref) : Total (valueOf r) := fun m => ⟨m.valueOf r, rfl⟩

theorem caught (e : Eval α) : Total (caught e) := by
  intro m
  simp only [Eval.caught, run_tryCatch, run_bind]
  rcases e.run m with ⟨x | a, k⟩
  · exact ⟨.error x, rfl⟩
  · exact ⟨.ok a, rfl⟩

end Total

/-- Making the exception that a pending one stands for never raises: a failure to make it takes its
place. -/
theorem normalize_total (m : Machine) (p : Pending) : Total (normalize m p) := by
  refine .bind .memory fun memory => ?_
  dsimp only
  split
  · exact .pure _
  · refine .bind (.caught _) fun made => ?_
    cases made with
    | ok e => exact .pure _
    | error e => exact .bind .memory fun _ => .pure _

end Eval

namespace Op

/-! ## Calling in -/

theorem passing_leads (refs : List Ref) (s : Multiset Ref) :
    Leads (·.Owns s) (passing refs) fun r h => r = .ok () ∧ h.Owns s :=
  .update fun _ hk => ⟨rfl, ⟨hk.alive, hk.held⟩, hk.clear⟩

/-- A call that returns nothing has left an exception pending. -/
theorem enter_leads (refs : List Ref) (body : Eval α) (s : Multiset Ref) :
    Leads (·.Owns s) (enter refs body) fun r h =>
      (∃ a, r = .ok (some a) ∧ h.Owns s) ∨
        r = .ok none ∧ h.Holds s ∧ h.pending.isSome = true := by
  refine (passing_leads refs s).bind (fun _ t h hp _ => ?_) fun f h hp => nomatch hp.1
  obtain ⟨-, ho⟩ := hp
  cases hr : body.run h.memory with
  | mk r m =>
    cases r with
    | ok a =>
      have hrun : (run body).perform t h = (.ok (some a), { h with memory := m }) := by
        simp only [run, hr]
      rw [hrun]
      exact .inl ⟨a, rfl, ⟨ho.alive, ho.held⟩, ho.clear⟩
    | error e =>
      have hrun : (run body).perform t h = (.ok none, { h with
          memory := m, pending := some ⟨m.classOf e, some e⟩,
          raised := ⟨m.classOf e, some e⟩ :: h.raised }) := by
        simp only [run, hr]
      rw [hrun]
      exact .inr ⟨rfl, ⟨ho.alive, ho.held⟩, rfl⟩

/-- A call of what never raises returns something. -/
theorem enter_total (refs : List Ref) {body : Eval α} (total : body.Total) (s : Multiset Ref) :
    Leads (·.Owns s) (enter refs body) fun r h => (∃ a, r = .ok (some a)) ∧ h.Owns s := by
  refine (passing_leads refs s).bind (fun _ t h hp _ => ?_) fun f h hp => nomatch hp.1
  obtain ⟨-, ho⟩ := hp
  obtain ⟨a, ha⟩ := total h.memory
  have hrun : (run body).perform t h =
      (.ok (some a), { h with memory := (body.run h.memory).2 }) := by
    have hr : body.run h.memory = (.ok a, (body.run h.memory).2) := Prod.ext ha rfl
    simp only [run]
    rw [hr]
  rw [hrun]
  exact ⟨⟨a, rfl⟩, ⟨ho.alive, ho.held⟩, ho.clear⟩

/-! ## Fetching -/

/-- Whether an operation fetches the pending exception, if there is one, and leaves nothing
behind. -/
def Fetches (fetch : Op Error) : Prop := ∀ s, Leads (·.Holds s) fetch fun _ h => h.Owns s

theorem takePending_leads (s : Multiset Ref) :
    Leads (·.Holds s) takePending fun r h => (∃ p, r = .ok p) ∧ h.Owns s :=
  fun _ _ hh _ => ⟨⟨_, rfl⟩, ⟨hh.alive, hh.held⟩, rfl⟩

/-- What failed is reported, and no exception is pending any more. -/
theorem Fetches.fail {fetch : Op Error} (hf : Fetches fetch) (s : Multiset Ref) :
    Leads (·.Holds s) (do Op.fail (← fetch) : Op α) fun r h => (∃ f, r = .error f) ∧ h.Owns s := by
  intro t h hh ho
  have hq := hf s t h hh
  rw [perform_bind] at ho ⊢
  generalize fetch.perform t h = b at hq ho ⊢
  obtain ⟨e | e, k⟩ := b
  · exact ⟨⟨e, rfl⟩, hq fun he => ho (congrArg _ (Except.error.inj he))⟩
  · exact ⟨⟨_, rfl⟩, hq nofun⟩

end Op

namespace Handle

open Op

variable {fetch : Op Error}

theorem spend_moves {x : Handle} {body : Handle → Op α} {gains : α → Multiset Ref}
    {s : Multiset Ref} (h : Moves s (body x) gains) : Moves (x.owned + s) (x.spend body) gains :=
  .ensuring h x.drop_moves x.drop_safe

/-- A handle is used for something that owes nothing, and dropped. -/
theorem use_moves {x : Handle} {body : Handle → Op α} {gains : α → Multiset Ref}
    (h : Moves 0 (body x) gains) : Moves x.owned (x.spend body) gains :=
  (spend_moves h).mono (add_zero _).symm fun _ => rfl

/-- A call returns a new reference, which its handle owns, or fails. -/
theorem owned_moves (hf : Fetches fetch) (refs : List Ref) (body : Eval Ref) :
    Moves 0 (enter refs body >>= ownedBy fetch) Handle.owned := by
  intro rest
  refine (enter_leads refs body _).bind (fun r => ?_) fun f h hp => ?_
  · cases r with
    | some r =>
      have made : Moves 0 (ownedBy fetch (some r)) Handle.owned :=
        .bind (hold_moves r) fun _ => .pure _ rfl
      refine (made rest).mono (fun h hp => ?_) fun _ _ => id
      rcases hp with ⟨a, -, ho⟩ | ⟨hn, -⟩
      · exact ho
      · cases hn
    | none =>
      refine (hf.fail (0 + rest)).mono (fun h hp => ?_) fun r h hp => ?_
      · rcases hp with ⟨a, ha, -⟩ | ⟨-, hh, -⟩
        · cases ha
        · exact hh
      · obtain ⟨⟨f, rfl⟩, ho⟩ := hp
        exact ho
  · rcases hp with ⟨a, ha, -⟩ | ⟨hn, -⟩
    · cases ha
    · cases hn

/-- A call that returns no object owes nothing and gives nothing. -/
theorem answered_moves (hf : Fetches fetch) (refs : List Ref) (body : Eval α) :
    Moves 0 (enter refs body >>= answeredBy fetch) fun _ => 0 := by
  intro rest
  refine (enter_leads refs body _).bind (fun r => ?_) fun f h hp => ?_
  · cases r with
    | some a =>
      refine .pure fun h hp => ?_
      rcases hp with ⟨a, -, ho⟩ | ⟨hn, -⟩
      · exact ho
      · cases hn
    | none =>
      refine (hf.fail (0 + rest)).mono (fun h hp => ?_) fun r h hp => ?_
      · rcases hp with ⟨a, ha, -⟩ | ⟨-, hh, -⟩
        · cases ha
        · exact hh
      · obtain ⟨⟨f, rfl⟩, ho⟩ := hp
        exact ho
  · rcases hp with ⟨a, ha, -⟩ | ⟨hn, -⟩
    · cases ha
    · cases hn

theorem getAttrBy_moves (hf : Fetches fetch) (x : Handle) (name : String) :
    Moves 0 (x.getAttrBy fetch name) Handle.owned :=
  .bind x.live_moves fun _ => .bind (.ofExcept _) fun _ => .guarded (owned_moves hf _ _)

theorem textBy_moves (hf : Fetches fetch) (refs : List Ref) (body : Eval Ref) :
    Moves 0 (enter refs body >>= textBy fetch) fun _ => 0 := by
  have text : Moves 0 (enter refs body >>= ownedBy fetch >>= fun text =>
      text.spend fun text => enter [text.ref] (Eval.utf8Of text.ref) >>= answeredBy fetch)
      fun _ => 0 :=
    .bind (owned_moves hf refs body) fun text => use_moves (answered_moves hf _ _)
  rwa [bind_assoc] at text

theorem strBy_moves (hf : Fetches fetch) (x : Handle) : Moves 0 (x.strBy fetch) fun _ => 0 :=
  .bind x.live_moves fun _ => .guarded (textBy_moves hf _ _)

theorem getTypeBy_moves (hf : Fetches fetch) (x : Handle) :
    Moves 0 (x.getTypeBy fetch) Handle.owned :=
  .bind x.live_moves fun _ => .guarded (owned_moves hf _ _)

end Handle

namespace Op

variable {fetch : Op Error}

theorem orElse_moves {body : Op String} (h : Moves 0 body fun _ => 0) (placeholder : String) :
    Moves 0 (orElse placeholder body) fun _ => 0 := by
  refine .bind (.attempt h) fun r => ?_
  cases r <;> exact .pure _ rfl

theorem describeType_moves (hf : Fetches fetch) (cls : Handle) :
    Moves 0 (describeType fetch cls) fun _ => 0 :=
  orElse_moves (.bind (Handle.getAttrBy_moves hf cls _) fun name =>
    Handle.use_moves (Handle.strBy_moves hf name)) _

theorem describeValue_moves (hf : Fetches fetch) (value : Handle) :
    Moves 0 (describeValue fetch value) fun _ => 0 :=
  orElse_moves (Handle.strBy_moves hf value) _

theorem describe_moves (hf : Fetches fetch) (cls value : Ref) :
    Moves 0 (describe fetch cls value) fun _ => 0 := by
  refine .bind (hold_moves cls) fun _ => ?_
  refine .bind ((Moves.carry (hold_moves value) (Safe.update _ _).certain _).mono (zero_add _).symm
    fun _ => add_comm _ _) fun _ => ?_
  refine Handle.spend_moves (Handle.use_moves ?_)
  refine .bind (describeType_moves hf _) fun _ => ?_
  exact .bind (describeValue_moves hf _) fun _ => .pure _ rfl

/-- A translation fetches the pending exception, at every level. -/
theorem fetchError_fetches (depth : Nat) : Fetches (fetchError depth) := by
  induction depth with
  | zero => exact fun s t h _ ho => absurd rfl ho
  | succ depth ih =>
    intro s
    refine Leads.guarded (fun h hp => hp.alive)
      (fun h l hl hp => ⟨(congrArg Option.isSome hl).trans hp.alive, hp.held⟩)
      (fun r h l log hl hp => ⟨⟨(congrArg Option.isSome hl).trans hp.alive, hp.held⟩, hp.clear⟩) ?_
    refine (takePending_leads s).bind (fun p => ?_) fun f h hp => hp.2
    cases p with
    | none => exact .pure fun h hp => hp.2
    | some p =>
      refine ((enter_total [] (Eval.normalize_total Machine.top p) s).mono (fun h hp => hp.2)
        fun _ _ => id).bind (fun made => ?_) fun f h hp => hp.2
      rcases made with _ | ⟨cls, value⟩
      · exact .pure fun h hp => hp.2
      · exact ((describe_moves ih cls value).leads s).mono (fun h hp => hp.2) fun _ _ => id

theorem translate_fetches : Fetches translate := fetchError_fetches translationDepth

end Op

end EmbeddedPython
