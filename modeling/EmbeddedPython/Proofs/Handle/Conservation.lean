import EmbeddedPython.Handle.Script
import EmbeddedPython.Proofs.Handle.Operation
import EmbeddedPython.Proofs.Object.Freeing
import Mathlib.Data.List.Nodup

/-
  Conservation of references

  After every operation of a script, whether it has failed or not, the host owns
  one reference for each handle that has not been disposed of, and no other one.
  So an object is held by these handles and by what is alive, and once all
  handles are disposed of, nothing but the interpreter and rings of objects keep
  an object alive.
-/

namespace EmbeddedPython.HandleScript

open Op

variable {α : Type}

/-! ## The handles of a script -/

namespace Names

/-- The references that the handles stand for. -/
def owned (names : Names) : Multiset Ref := (names.map fun p => p.2.owned).sum

theorem owned_cons (p : String × Handle) (names : Names) :
    owned (p :: names) = p.2.owned + names.owned := rfl

/-- How many of the handles are to an object and have not been disposed of. -/
def undisposed (names : Names) (r : Ref) : Nat :=
  names.countP fun p => !p.2.disposed && p.2.ref == r

theorem count_owned (names : Names) {r : Ref} (h : r.isImmortal = false) :
    names.owned.count r = names.undisposed r := by
  induction names with
  | nil => rfl
  | cons p rest ih =>
    rw [owned_cons, Multiset.count_add, ih, undisposed, undisposed, List.countP_cons, Nat.add_comm]
    congr 1
    obtain ⟨_, ref, disposed⟩ := p
    by_cases hr : ref = r
    · subst hr
      cases disposed <;> simp [Handle.owned, Handle.isImmortal, h]
    · have hne : (ref == r) = false := beq_eq_false_iff_ne.mpr hr
      simp only [Handle.owned, hne, Bool.and_false]
      split
      · rfl
      · simp [Ne.symm hr]

theorem owned_of_disposed {names : Names}
    (h : ∀ p ∈ names, p.2.disposed = true ∨ p.2.isImmortal = true) : names.owned = 0 := by
  refine List.sum_eq_zero fun s hs => ?_
  obtain ⟨p, hp, rfl⟩ := List.mem_map.mp hs
  rcases h p hp with hd | hi
  · simp [Handle.owned, hd]
  · simp [Handle.owned, hi]

/-- Whether every name has one handle. -/
def Distinct (names : Names) : Prop := (names.map (·.1)).Nodup

theorem Distinct.erase {names : Names} (h : names.Distinct) (x : String) :
    (names.erase x).Distinct :=
  h.sublist ((List.filter_sublist).map _)

theorem Distinct.put {names : Names} (h : names.Distinct) (x : String) (handle : Handle) :
    Distinct ((x, handle) :: names.erase x) := by
  refine List.nodup_cons.mpr ⟨fun hm => ?_, h.erase x⟩
  obtain ⟨p, hp, rfl⟩ := List.mem_map.mp hm
  simpa using (List.mem_filter.mp hp).2

theorem Distinct.replace {names : Names} (h : names.Distinct) (x : String) (handle : Handle) :
    Distinct (names.map fun p => if p.1 == x then (x, handle) else p) := by
  have keys : (names.map fun p => if p.1 == x then (x, handle) else p).map (·.1) =
      names.map (·.1) := by
    rw [List.map_map]
    refine List.map_congr_left fun p _ => ?_
    show (if p.1 == x then (x, handle) else p).1 = p.1
    split
    · next he => exact (eq_of_beq he).symm
    · rfl
  rw [Distinct, keys]
  exact h

theorem erase_of_absent {names : Names} {x : String} (h : x ∉ names.map (·.1)) :
    names.erase x = names := by
  refine List.filter_eq_self.mpr fun p hp => bne_iff_ne.mpr fun he => ?_
  exact h (List.mem_map.mpr ⟨p, hp, he⟩)

/-- The handle of a name and all the others make up the whole. -/
theorem owned_erase {names : Names} (h : names.Distinct) (x : String) :
    names.owned = (names.get x).owned + (names.erase x).owned := by
  induction names with
  | nil => rfl
  | cons p rest ih =>
    obtain ⟨k, handle⟩ := p
    obtain ⟨fresh, distinct⟩ := List.nodup_cons.mp h
    by_cases hk : x = k
    · subst hk
      have he : erase ((x, handle) :: rest) x = rest := by
        simp only [erase, List.filter_cons, bne_self_eq_false, Bool.false_eq_true, if_false]
        exact erase_of_absent fresh
      have hg : get ((x, handle) :: rest) x = handle := by simp [get]
      rw [he, hg]
      rfl
    · have he : erase ((k, handle) :: rest) x = (k, handle) :: erase rest x := by
        have hne : (k != x) = true := bne_iff_ne.mpr (Ne.symm hk)
        simp [erase, hne]
      have hg : get ((k, handle) :: rest) x = get rest x := by
        have hne : (x == k) = false := beq_eq_false_iff_ne.mpr hk
        simp [get, List.lookup_cons, hne]
      rw [he, hg]
      rw [owned_cons, owned_cons, ih distinct, add_left_comm]

/-- A handle that is disposed of stands for nothing. -/
theorem owned_replace (names : Names) (x : String) {handle : Handle}
    (h : handle.disposed = true) :
    owned (names.map fun p => if p.1 == x then (x, handle) else p) = (names.erase x).owned := by
  induction names with
  | nil => rfl
  | cons p rest ih =>
    obtain ⟨k, old⟩ := p
    have none : handle.owned = 0 := by simp [Handle.owned, h]
    cases hk : k == x with
    | true =>
      have he : erase ((k, old) :: rest) x = erase rest x := by
        simp [erase, bne, hk]
      rw [he, ← ih]
      show owned ((if k == x then (x, handle) else (k, old)) :: _) = _
      rw [hk]
      exact (owned_cons (x, handle) _).trans (by rw [none, zero_add])
    | false =>
      have he : erase ((k, old) :: rest) x = (k, old) :: erase rest x := by
        simp [erase, bne, hk]
      rw [he]
      show owned ((if k == x then (x, handle) else (k, old)) :: _) = _
      rw [hk]
      exact congrArg (old.owned + ·) ih

theorem dropOld_moves (names : Names) (x : String) :
    Moves (names.get x).owned (names.dropOld x) fun _ => 0 := by
  simp only [dropOld, get]
  cases names.lookup x with
  | some old => exact old.drop_moves
  | none => exact .pure () rfl

theorem dropOld_safe (names : Names) (x : String) : Safe (names.dropOld x) := by
  simp only [dropOld]
  cases names.lookup x with
  | some old => exact old.drop_safe
  | none => exact .pure ()

theorem drop_leads {names : Names} (distinct : names.Distinct) (x : String) :
    Leads (·.Owns names.owned) (names.drop x) fun r h =>
      ∃ names', r = .ok names' ∧ names'.Distinct ∧ h.Owns names'.owned := by
  intro t h ho _
  obtain ⟨a, ha⟩ := names.dropOld_safe x t h ho.alive
  have hq := names.dropOld_moves x _ t h (ho.congr (names.owned_erase distinct x))
    (by rw [ha]; nofun)
  have hd : (names.drop x).perform t h = (.ok (names.erase x), ((names.dropOld x).perform t h).2) := by
    rw [Names.drop, perform_bind]
    generalize (names.dropOld x).perform t h = b at ha ⊢
    obtain ⟨r, k⟩ := b
    obtain rfl : r = .ok a := ha
    rfl
  rw [ha] at hq
  rw [hd]
  exact ⟨names.erase x, rfl, distinct.erase x, hq.congr (zero_add _)⟩

theorem put_leads {names : Names} (distinct : names.Distinct) (x : String) (handle : Handle) :
    Leads (·.Owns (handle.owned + names.owned)) (names.put x handle) fun r h =>
      ∃ names', r = .ok names' ∧ names'.Distinct ∧ h.Owns names'.owned := by
  intro t h ho _
  obtain ⟨a, ha⟩ := names.dropOld_safe x t h ho.alive
  have parts : handle.owned + names.owned =
      (names.get x).owned + (handle.owned + (names.erase x).owned) := by
    rw [names.owned_erase distinct x, add_left_comm]
  have hq := names.dropOld_moves x _ t h (ho.congr parts) (by rw [ha]; nofun)
  have hp : (names.put x handle).perform t h =
      (.ok ((x, handle) :: names.erase x), ((names.dropOld x).perform t h).2) := by
    rw [Names.put, perform_bind]
    generalize (names.dropOld x).perform t h = b at ha ⊢
    obtain ⟨r, k⟩ := b
    obtain rfl : r = .ok a := ha
    rfl
  rw [ha] at hq
  rw [hp]
  exact ⟨_, rfl, distinct.put x handle, hq.congr (zero_add _)⟩

end Names

/-! ## What is shown -/

mutual

/-- A value that is shown is dropped. -/
theorem shown_moves : ∀ v : HostValue, Moves v.owned (shown v) fun _ => 0
  | .handle x => by
    simp only [shown]
    have form := (Moves.caught x.repr_moves).carry (.caught _) x.owned
    refine .bind (form.mono (zero_add _).symm fun r => ?_) fun _ =>
      .bind x.drop_moves fun _ => .pure _ rfl
    cases r <;> exact zero_add _
  | .some v => by
    simp only [shown]
    exact .bind (shown_moves v) fun _ => .pure _ rfl
  | .list items => by
    simp only [shown]
    exact .bind (shownAll_moves items) fun _ => .pure _ rfl
  | .int _ | .size _ | .float _ | .truth _ | .text _ | .unit | .none => by
    simp only [shown]
    exact .pure _ rfl

theorem shownAll_moves :
    ∀ items : List HostValue, Moves (HostValue.ownedAll items) (shownAll items) fun _ => 0
  | [] => by
    simp only [shownAll]
    exact .pure [] rfl
  | v :: rest => by
    simp only [shownAll]
    exact .bind ((shown_moves v).carry (shown_certain v) _) fun _ =>
      .bind ((shownAll_moves rest).mono (zero_add _) fun _ => rfl) fun _ => .pure _ rfl

theorem shown_certain : ∀ v : HostValue, Certain (shown v)
  | .handle x => by
    simp only [shown]
    exact .bind (.caught _) fun _ => .bind x.drop_safe.certain fun _ => (Safe.pure _).certain
  | .some v => by
    simp only [shown]
    exact .bind (shown_certain v) fun _ => (Safe.pure _).certain
  | .list items => by
    simp only [shown]
    exact .bind (shownAll_certain items) fun _ => (Safe.pure _).certain
  | .int _ | .size _ | .float _ | .truth _ | .text _ | .unit | .none => by
    simp only [shown]
    exact (Safe.pure _).certain

theorem shownAll_certain : ∀ items : List HostValue, Certain (shownAll items)
  | [] => by
    simp only [shownAll]
    exact (Safe.pure _).certain
  | v :: rest => by
    simp only [shownAll]
    exact .bind (shown_certain v) fun _ => .bind (shownAll_certain rest) fun _ =>
      (Safe.pure _).certain

end

/-! ## Actions -/

theorem ofBlueprint_moves (names : Names) (b : Blueprint) :
    Moves 0 (ofBlueprint names b) Handle.owned :=
  .guarded (request_moves _ _)

/-- What an action leaves: the references of the handles that there are then. -/
def Left (names : Names) : Except Failure (Answer × Names) → Host → Prop
  | .ok (_, names'), h => names'.Distinct ∧ h.Owns names'.owned
  | .error _, h => h.Owns names.owned

/-- What makes something is kept. -/
theorem keep_leads {names : Names} (distinct : names.Distinct) (target : String)
    {made : Op Handle} (hm : Moves 0 made Handle.owned) :
    Leads (·.Owns names.owned) (do
      let x ← made
      pure (Answer.nothing, ← names.put target x)) (Left names) := by
  refine ((hm names.owned).mono (fun h ho => ho.congr (zero_add _).symm) fun _ _ => id).bind
    (fun x => ?_) fun f h ho => ho.congr (zero_add _)
  refine (Names.put_leads distinct target x).bind (fun kept => .pure fun h hk => ?_) fun f h hk => ?_
  · obtain ⟨names', hr, distinct', ho⟩ := hk
    obtain rfl := Except.ok.inj hr
    exact ⟨distinct', ho⟩
  · obtain ⟨names', hr, -⟩ := hk
    cases hr

/-- What answers something changes no handle. -/
theorem answer_leads {names : Names} (distinct : names.Distinct) {answer : Op Answer}
    (ha : Leads (·.Owns names.owned) answer fun _ h => h.Owns names.owned) :
    Leads (·.Owns names.owned) (do pure (← answer, names)) (Left names) :=
  ha.bind (fun _ => .pure fun _ ho => ⟨distinct, ho⟩) fun _ _ => id

theorem tell_leads {names : Names} (distinct : names.Distinct) {answer : Op Answer}
    (ha : Moves 0 answer fun _ => 0) :
    Leads (·.Owns names.owned) (do pure (← answer, names)) (Left names) :=
  answer_leads distinct (ha.leads names.owned)

theorem dispose_leads {names : Names} (distinct : names.Distinct) (x : String) :
    Leads (·.Owns names.owned) (act names (.dispose x)) (Left names) := by
  intro t h ho hover
  have hq := (names.get x).dispose_moves (names.erase x).owned t h
    (ho.congr (names.owned_erase distinct x))
  obtain ⟨lock, log, -, hr⟩ := (names.get x).dispose_run t ho.alive
  have ha : (act names (.dispose x)).perform t h =
      (.ok (.nothing, names.map fun p => if p.1 == x
        then (x, { names.get x with disposed := true }) else p),
        ((names.get x).dispose.perform t h).2) := by
    show ((names.get x).dispose >>= fun disposed => pure (Answer.nothing, _)).perform t h = _
    rw [perform_bind, hr]
    rfl
  rw [ha]
  refine ⟨distinct.replace x _, ?_⟩
  rw [Names.owned_replace names x rfl]
  rw [hr] at hq ⊢
  exact (hq nofun).congr (zero_add _)

theorem dropped_leads {names : Names} (distinct : names.Distinct) (x : String) :
    Leads (·.Owns names.owned) (do pure (Answer.nothing, ← names.drop x)) (Left names) := by
  refine (Names.drop_leads distinct x).bind (fun left => .pure fun h hk => ?_) fun f h hk => ?_
  · obtain ⟨names', hr, distinct', ho⟩ := hk
    obtain rfl := Except.ok.inj hr
    exact ⟨distinct', ho⟩
  · obtain ⟨names', hr, -⟩ := hk
    cases hr

theorem dropElsewhere_leads {names : Names} (distinct : names.Distinct) (x : String) :
    Leads (·.Owns names.owned) (act names (.dropElsewhere x)) (Left names) := by
  have elsewhere : Leads (·.Owns names.owned) (Op.allowingThreads (Op.onThread 1 (names.drop x)))
      fun r h => ∃ names', r = .ok names' ∧ names'.Distinct ∧ h.Owns names'.owned := by
    refine .allowingThreads (fun h hp => hp.alive)
      (fun h l hl hp => ⟨⟨(congrArg Option.isSome hl).trans hp.alive, hp.held⟩, hp.clear⟩)
      (fun r h l hl hp => ?_) fun t => Names.drop_leads distinct x 1
    obtain ⟨names', hr, distinct', ho⟩ := hp
    exact ⟨names', hr, distinct',
      ⟨(congrArg Option.isSome hl).trans ho.alive, ho.held⟩, ho.clear⟩
  refine elsewhere.bind (fun left => .pure fun h hk => ?_) fun f h hk => ?_
  · obtain ⟨names', hr, distinct', ho⟩ := hk
    obtain rfl := Except.ok.inj hr
    exact ⟨distinct', ho⟩
  · obtain ⟨names', hr, -⟩ := hk
    cases hr

/-! Pending exceptions -/

/-- An operation may leave an exception pending, but not if it fails. -/
def Sets (s : Multiset Ref) : Except Failure Unit → Host → Prop
  | .ok _, h => h.Holds s
  | .error _, h => h.Owns s

theorem raisePending_sets (cls value : Ref) (s : Multiset Ref) :
    Leads (·.Owns s) (raisePending cls value) (Sets s) := by
  refine (enter_leads _ _ s).bind (fun made => ?_) fun f h hp => ?_
  · cases made with
    | some p =>
      refine .update fun h hp => ?_
      rcases hp with ⟨a, -, ho⟩ | ⟨hn, -⟩
      · exact ⟨ho.alive, ho.held⟩
      · cases hn
    | none =>
      refine .pure fun h hp => ?_
      rcases hp with ⟨a, ha, -⟩ | ⟨-, hh, -⟩
      · cases ha
      · exact hh
  · rcases hp with ⟨a, ha, -⟩ | ⟨hn, -⟩
    · cases ha
    · cases hn

theorem spend_sets {x : Handle} {body : Handle → Op Unit} {s : Multiset Ref}
    (hb : Leads (·.Owns (x.owned + s)) (body x) (Sets (x.owned + s))) :
    Leads (·.Owns (x.owned + s)) (x.spend body) (Sets s) := by
  refine .ensuring (fun h ho => ho.alive) hb x.drop_safe fun r => ?_
  cases r with
  | ok _ => exact x.drop_leads s
  | error f =>
    refine (x.drop_moves s).mono (fun _ => id) fun r h ho => ?_
    cases r <;> exact ho.congr (zero_add _)

theorem raise_sets (names : Names) (exception : Option (Blueprint × Blueprint))
    (s : Multiset Ref) : Leads (·.Owns s) (raise names exception) (Sets s) := by
  have nothing {u : Multiset Ref} (h : Host) (ho : h.Owns u) : h.Owns (0 + u) :=
    ho.congr (zero_add u).symm
  have kept {u : Multiset Ref} (_ : Failure) (h : Host) (ho : h.Owns (0 + u)) : h.Owns u :=
    ho.congr (zero_add u)
  cases exception with
  | some p =>
    obtain ⟨cls, value⟩ := p
    refine ((ofBlueprint_moves names cls s).mono nothing fun _ _ => id).bind
      (fun cls => spend_sets ?_) kept
    exact ((ofBlueprint_moves names value _).mono nothing fun _ _ => id).bind
      (fun value => spend_sets (raisePending_sets _ _ _)) kept
  | none => exact .pure fun h ho => ho.toHolds

theorem checkPending_leads (s : Multiset Ref) :
    Leads (·.Holds s) checkPending fun _ h => h.Owns s := by
  refine Leads.guarded (fun h hp => hp.alive)
    (fun h l hl hp => ⟨(congrArg Option.isSome hl).trans hp.alive, hp.held⟩)
    (fun r h l log hl hp => ⟨⟨(congrArg Option.isSome hl).trans hp.alive, hp.held⟩, hp.clear⟩) ?_
  refine .host_bind fun k hk => ?_
  cases hp : k.pending with
  | none => exact .pure fun h he => he ▸ ⟨hk, hp⟩
  | some p => exact (translate_fetches.fail s).mono (fun h he => he ▸ hk) fun _ _ h => h.2

/-- However a pending exception is noticed, it is pending no more. -/
theorem take_leads (notice : Notice) (s : Multiset Ref) :
    Leads (·.Holds s) notice.take fun _ h => h.Owns s := by
  have fetched : Leads (·.Holds s) (do
      let x : Handle ← (do Op.fail (← translate))
      x.drop) fun _ h => h.Owns s :=
    (translate_fetches.fail s).bind (fun x t h hp _ => nomatch hp.1) fun f h hp => hp.2
  cases notice with
  | check => exact checkPending_leads s
  | owned => exact fetched
  | borrowed => exact fetched

theorem pending_leads {names : Names} (distinct : names.Distinct) (notice : Notice)
    (exception : Option (Blueprint × Blueprint)) :
    Leads (·.Owns names.owned) (act names (.pending notice exception)) (Left names) := by
  let s := names.owned
  refine answer_leads distinct (Leads.guarded (fun h hp => hp.alive)
    (fun h l hl hp => ⟨⟨(congrArg Option.isSome hl).trans hp.alive, hp.held⟩, hp.clear⟩)
    (fun r h l log hl hp => ⟨⟨(congrArg Option.isSome hl).trans hp.alive, hp.held⟩, hp.clear⟩) ?_)
  have first : Leads (·.Holds s) (Op.caught notice.take) fun _ h => h.Owns s :=
    (take_leads notice s).caught fun _ _ => id
  have second : Leads (·.Owns s) (Op.caught Op.checkPending) fun _ h => h.Owns s :=
    ((checkPending_leads s).caught fun _ _ => id).mono (fun _ ho => ho.toHolds) fun _ _ => id
  refine (raise_sets names exception s).bind (fun _ => ?_) fun _ _ => id
  refine first.bind (fun _ => ?_) fun _ _ => id
  exact second.bind (fun _ => .pure fun _ => id) fun _ _ => id

theorem act_leads {names : Names} (distinct : names.Distinct) (a : Action) :
    Leads (·.Owns names.owned) (act names a) (Left names) := by
  cases a with
  | new target b => exact keep_leads distinct target (ofBlueprint_moves names b)
  | convert target v => exact keep_leads distinct target v.toHandle_moves
  | convertHandle target x => exact keep_leads distinct target (HostValue.toHandle_moves _)
  | none target => exact keep_leads distinct target (.pure _ rfl)
  | truth target b => exact keep_leads distinct target (.pure _ (by cases b <;> rfl))
  | clone target x => exact keep_leads distinct target (names.get x).clone_moves
  | borrow target x => exact keep_leads distinct target (.guarded (borrowed_moves _))
  | dispose x => exact dispose_leads distinct x
  | drop x => exact dropped_leads distinct x
  | dropElsewhere x => exact dropElsewhere_leads distinct x
  | isSame x y => exact tell_leads distinct (.pure _ rfl)
  | compare x y c =>
    exact tell_leads distinct (.bind ((names.get x).richCompare_moves _ c) fun _ => .pure _ rfl)
  | equals x y =>
    exact tell_leads distinct (.bind ((names.get x).equals_moves _) fun _ => .pure _ rfl)
  | partialCompare x y =>
    exact tell_leads distinct (.bind ((names.get x).partialCompare_moves _) fun _ => .pure _ rfl)
  | getAttr target x name =>
    exact keep_leads distinct target ((names.get x).getAttr_moves name)
  | hasAttr x name =>
    exact tell_leads distinct (.bind ((names.get x).hasAttr_moves name) fun _ => .pure _ rfl)
  | setAttr x name value =>
    exact tell_leads distinct (.bind ((names.get x).setAttr_moves name _) fun _ => .pure _ rfl)
  | getItem target x key => exact keep_leads distinct target ((names.get x).getItem_moves _)
  | repr x => exact tell_leads distinct (.bind (names.get x).repr_moves fun _ => .pure _ rfl)
  | str x => exact tell_leads distinct (.bind (names.get x).str_moves fun _ => .pure _ rfl)
  | typeName x =>
    exact tell_leads distinct (.bind (names.get x).typeName_moves fun _ => .pure _ rfl)
  | getType target x => exact keep_leads distinct target (names.get x).getType_moves
  | isNone x => exact tell_leads distinct (.pure _ rfl)
  | isTruthy x =>
    exact tell_leads distinct (.bind (names.get x).isTruthy_moves fun _ => .pure _ rfl)
  | hash x => exact tell_leads distinct (.bind (names.get x).hash_moves fun _ => .pure _ rfl)
  | referenceCount x =>
    exact tell_leads distinct (.bind (names.get x).referenceCount_moves fun _ => .pure _ rfl)
  | isDisposed x => exact tell_leads distinct (.pure _ rfl)
  | isImmortal x => exact tell_leads distinct (.pure _ rfl)
  | extract x t =>
    exact tell_leads distinct (.bind ((names.get x).extract_moves t) fun v =>
      .bind (shown_moves v) fun _ => .pure _ rfl)
  | call target f arguments => exact keep_leads distinct target ((names.get f).call_moves _)
  | callMethod target x name arguments =>
    exact keep_leads distinct target ((names.get x).callMethod_moves name _)
  | callWithKeywords target f arguments keywords values extra =>
    exact keep_leads distinct target ((names.get f).callWithKeywords_moves _ keywords _ _)
  | checkPending =>
    have checked : Leads (·.Owns names.owned) Op.checkPending fun _ h => h.Owns names.owned :=
      (checkPending_leads _).mono (fun _ ho => ho.toHolds) fun _ _ => id
    exact answer_leads distinct (checked.bind (fun _ => .pure fun _ => id) fun _ _ => id)
  | pending notice exception => exact pending_leads distinct notice exception
  | describeException x =>
    exact tell_leads distinct (.bind (PythonError.ofException_moves _) fun _ => .pure _ rfl)
  | importModule target name =>
    exact keep_leads distinct target (Host.importModule_moves name)
  | evaluateAlone target expression =>
    exact keep_leads distinct target (Host.evaluateAlone_moves expression)
  | newGlobals target => exact keep_leads distinct target Host.newGlobals_moves
  | evaluate target globals expression =>
    exact keep_leads distinct target (Host.evaluate_moves expression _)
  | execute globals code =>
    exact tell_leads distinct (.bind (Host.execute_moves code _) fun _ => .pure _ rfl)
  | liveProbes => exact tell_leads distinct (.host_bind fun _ _ => .pure _ rfl)

/-- Whatever becomes of each action, the host ends with the references of the handles that are
left. -/
theorem actAll_leads {names : Names} (distinct : names.Distinct) (actions : List Action) :
    Leads (·.Owns names.owned) (actAll names actions) fun r h =>
      ∃ answers names', r = .ok (answers, names') ∧ names'.Distinct ∧ h.Owns names'.owned := by
  induction actions generalizing names with
  | nil => exact .pure fun h ho => ⟨[], names, rfl, distinct, ho⟩
  | cons a rest ih =>
    have once : Leads (·.Owns names.owned) (Op.caught (act names a)) fun r h =>
        ∃ done, r = .ok done ∧ Left names done h :=
      (act_leads distinct a).caught fun r _ hl => ⟨r, rfl, hl⟩
    have more {kept : Names} (distinct : kept.Distinct) (result : Except Failure Answer) :
        Leads (·.Owns kept.owned)
          (actAll kept rest >>= fun done => pure (result :: done.1, done.2)) fun r h =>
            ∃ answers names', r = .ok (answers, names') ∧ names'.Distinct ∧ h.Owns names'.owned := by
      refine (ih distinct).bind (fun done => .pure fun h hk => ?_) fun f h hk => ?_
      · obtain ⟨answers, names', hr, distinct', ho⟩ := hk
        obtain rfl := Except.ok.inj hr
        exact ⟨_, names', rfl, distinct', ho⟩
      · obtain ⟨_, _, hr, -⟩ := hk
        cases hr
    refine once.bind (fun done t h hp => ?_) fun f h hp => ?_
    · obtain ⟨done', hr, left⟩ := hp
      obtain rfl := Except.ok.inj hr
      rcases done with f | ⟨answer, names'⟩
      · exact more distinct (.error f) t h left
      · exact more left.1 (.ok answer) t h left.2
    · obtain ⟨done, hr, -⟩ := hp
      cases hr

/-- References are conserved. Between any two actions of a script, whatever has failed before, no
exception is pending, and every object but the singletons is held by its handles that have not been
disposed of, by what the interpreter keeps and by the objects that are alive, and by nothing else.
Once all handles have been disposed of, an object that the interpreter does not reach and that lies
behind no ring of objects has been freed. A script ends early only by using up the stack. -/
theorem references_conserved (memory : Memory) (lock : Lock) (interpreter : Nat) (t : ThreadId)
    (actions : List Action) :
    let start : Host := { Host.fresh with
      memory := memory, lock := { lock with interpreter := some interpreter } }
    let done := (actAll [] actions).perform t start
    let h := done.2
    done.1 = .error .overflow ∨ ∃ answers names, done.1 = .ok (answers, names) ∧
      h.pending = none ∧
      (∀ r, r.isImmortal = false → h.referenceCount r =
        names.undisposed r + (h.memory.ownReferences ++ h.memory.referencesOf fun id =>
          (h.memory.alive h.roots).getD id false).count r) ∧
      ((∀ p ∈ names, p.2.disposed = true ∨ p.2.isImmortal = true) → ∀ id,
        (∀ k, Ref.cell k ∈ h.memory.ownReferences →
          ¬ Relation.ReflTransGen h.memory.RefersTo k id) →
        (∀ k, Relation.ReflTransGen h.memory.RefersTo k id →
          ¬ Relation.TransGen h.memory.RefersTo k k) →
        ¬ Memory.IsIn (h.memory.alive h.roots) id) := by
  intro start done h
  by_cases hover : done.1 = .error .overflow
  · exact .inl hover
  refine .inr ?_
  have nothing : start.Owns (Names.owned []) := ⟨⟨rfl, rfl⟩, rfl⟩
  have distinct : Names.Distinct [] := List.nodup_nil
  obtain ⟨answers, names, hr, -, left⟩ := actAll_leads distinct actions t start nothing hover
  have ho : h.Owns names.owned := left
  have roots : h.roots = h.held := by
    simp only [Host.roots, ho.clear, List.append_nil]
  refine ⟨answers, names, hr, ho.clear, fun r hi => ?_, fun all id unreached acyclic => ?_⟩
  · have held : h.held.count r = names.undisposed r := by
      rw [← names.count_owned hi, ← ho.held, Multiset.coe_count]
    rw [Host.referenceCount, Memory.referenceCount, List.append_assoc, List.count_append, roots, held]
  · have none : h.held = [] := by
      have held := ho.held
      rw [Names.owned_of_disposed all] at held
      exact Multiset.coe_eq_zero _ |>.mp held
    refine Memory.freed_of_acyclic (fun k hk => unreached k ?_) acyclic
    rwa [roots, none, List.nil_append] at hk

end EmbeddedPython.HandleScript
