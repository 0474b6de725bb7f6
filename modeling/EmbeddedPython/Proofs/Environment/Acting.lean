import EmbeddedPython.Proofs.Environment.Driving

/-
  What an action comes to on the board

  What the threads of the host do is one of the acts, as each move of a driver
  is, and with that every action (`System.act`).
-/

namespace EmbeddedPython

open Activity Bridge

namespace System

theorem pushes_append (a b : Chores) : pushes (a ++ b) = pushes a ++ pushes b :=
  List.filterMap_append

theorem pushes_eraseIdx {chores : Chores} {n : Nat} {t : ThreadId} {c : Chore}
    (h : chores[n]? = some (t, c)) : ∃ before after,
      pushes chores = before ++ pushes [(t, c)] ++ after ∧
      pushes (chores.eraseIdx n) = before ++ after := by
  obtain ⟨hn, hx⟩ := List.getElem?_eq_some_iff.mp h
  refine ⟨pushes (chores.take n), pushes (chores.drop (n + 1)), ?_, ?_⟩
  · rw [← pushes_append, ← pushes_append, ← hx, List.append_assoc]
    simp
  · rw [← pushes_append, List.eraseIdx_eq_take_drop_succ]

/-- Whether an activity is quiet and leaves no request to be pushed but those to stop. -/
def Calm (x : Activity Chores) : Prop := Quiet x ∧ ∀ p, ∀ y ∈ pushes (x p).1, y.2 = .stop

namespace Calm

variable {α : Type}

theorem pure {chores : Chores} (h : ∀ y ∈ pushes chores, y.2 = .stop) : Calm (Pure.pure chores) :=
  ⟨.pure chores, fun _ => h⟩

theorem nil : Calm (Pure.pure []) := pure fun _ h => absurd h List.not_mem_nil

theorem bind {x : Activity α} {f : α → Activity Chores} (hx : Quiet x) (hf : ∀ a, Calm (f a)) :
    Calm (x >>= f) :=
  ⟨.bind hx fun a => (hf a).1, fun _ => (hf _).2 _⟩

theorem get_bind {f : Process → Activity Chores} (hf : ∀ p, Calm (f p)) : Calm (get >>= f) :=
  ⟨.get_bind fun p => (hf p).1, fun p => (hf p).2 p⟩

end Calm

theorem disposal_calm (t : ThreadId) (l : LoopId) (dropped : Bool) :
    Calm (disposal t l dropped) := by
  refine .bind (markDisposed_quiet l) fun marked => ?_
  cases marked with
  | true => exact .pure fun y hy => by rw [List.mem_singleton.mp hy]
  | false =>
    cases dropped with
    | true => exact .bind (releaseLoop_quiet t l) fun _ => .nil
    | false => exact .nil

theorem closing_calm (t : ThreadId) (e : EnvironmentId) : Calm (closing t e) := by
  have marked : Quiet (markClosed e) := by
    refine .get_bind fun p => ?_
    dsimp only
    split
    · exact .pure none
    · exact .bind (modifyEnvironment_quiet e _) fun _ => .pure _
  refine .bind marked fun found => ?_
  rcases found with _ | _ | l
  · exact .nil
  · exact .pure fun y hy => absurd hy List.not_mem_nil
  · refine .bind (markDisposed_quiet l) fun disposed => ?_
    cases disposed with
    | true => exact .pure fun y hy => by rw [List.mem_singleton.mp hy]
    | false => exact .pure fun y hy => absurd hy List.not_mem_nil

section

variable {s : System}

theorem board_after {x : Activity Chores} {chores : Chores} {p : Process} :
    (after chores x p).board = (x p).2.board (pushes chores ++ pushes (x p).1) := by
  rw [← pushes_append]
  rfl

/-- What is calm changes nothing but what is left to be pushed. -/
theorem Act.of_calm {x : Activity Chores} {a : Action} (other : ∀ l, a ≠ .drive l)
    {chores : Chores} (hc : pushes chores = pushes s.chores)
    (hb : ∀ w, (x s.process).2.board w = s.process.board w)
    (hx : ∀ y ∈ pushes (x s.process).1, y.2 = .stop) :
    s.Act a [] (after chores x s.process).board := by
  rw [board_after, hb, hc]
  exact .quiet a _ hx other

theorem openLoop_board (t : ThreadId) (e : EnvironmentId) (p : Process)
    (w : List (LoopId × Request)) : (openLoop t e p).2.board w = p.board w ∨
      (openLoop t e p).2.board w = (p.board w).change p.loops.size fun _ => Desk.fresh := by
  cases hb : (p.environment e).bindings with
  | none =>
    refine .inl ?_
    simp only [openLoop, run_get_bind, hb]
    rfl
  | some b =>
    simp only [openLoop, run_get_bind, hb]
    rw [run_bind]
    have pq := ask_idle t (loopObjects b) p
    have qb := ask_quiet t (loopObjects b) p w
    generalize ask t (loopObjects b) p = q at pq qb
    obtain ⟨error | ⟨object, notifier, bindings⟩, q⟩ := q
    · exact .inl qb
    · refine .inr ?_
      dsimp only at pq qb ⊢
      rw [run_get_bind, run_modify_bind, run_bind, run_pure, tell_quiet, Process.addLoop_board, qb,
        pq.loops]
      rfl

theorem defaultLoop_board (t : ThreadId) (e : EnvironmentId) (p : Process)
    (w : List (LoopId × Request)) : (defaultLoop t e p).2.board w = p.board w ∨
      (defaultLoop t e p).2.board w = (p.board w).change p.loops.size fun _ => Desk.fresh := by
  cases hd : (p.environment e).defaultLoop with
  | some l =>
    refine .inl ?_
    simp only [defaultLoop, run_get_bind, hd, run_pure]
  | none =>
    have opened := openLoop_board t e p w
    simp only [defaultLoop, run_get_bind, hd]
    rw [run_bind]
    generalize openLoop t e p = q at opened
    obtain ⟨error | l, q⟩ := q
    · exact opened
    · exact opened

theorem Act.of_openLoop {x : Activity Chores} {a : Action} (other : ∀ l, a ≠ .drive l)
    (opens : a.Opens)
    (hb : ∀ w, (x s.process).2.board w = s.process.board w ∨
      (x s.process).2.board w = (s.process.board w).change s.process.loops.size fun _ => Desk.fresh)
    (hx : (x s.process).1 = []) : s.Act a [] (after s.chores x s.process).board := by
  have hw : pushes s.chores ++ pushes (x s.process).1 = pushes s.chores := by
    rw [hx]
    exact List.append_nil _
  rw [board_after, hw]
  rcases hb (pushes s.chores) with h | h
  · rw [h]
    exact .nothing s other
  · rw [h]
    refine .openLoop a ?_ other opens
    show (s.process.loop s.process.loops.size).desk = _
    rw [Process.loop_of_size_le (Nat.le_refl _)]
    rfl

/-- Preparing a request makes a promise for it, or nothing at all. -/
theorem prepare_board (t : ThreadId) (l : LoopId) (awaitable : Handle)
    (token : Cancellation.Token) (p : Process) (w : List (LoopId × Request)) :
    (∃ e, (prepare t l awaitable token p).1 = .error e ∧
      (prepare t l awaitable token p).2.board w = p.board w) ∨
    ∃ coroutine, (prepare t l awaitable token p).1 =
        .ok (.schedule coroutine token p.promises.size, p.promises.size) ∧
      coroutine = Handle.adopt awaitable.ref ∧
      (prepare t l awaitable token p).2.board w = { p.board w with
        stage := Function.update (p.board w).stage p.promises.size (some .submitted) } := by
  have prepares := prepare_prepares t l awaitable token p
  have quiet {α : Type} {op : Op α} {p q : Process} {r : Except Error α}
      (asked : ask t op p = (r, q)) : q.board w = p.board w := by
    have same := ask_quiet t op p w
    rwa [asked] at same
  generalize prepare t l awaitable token p = result at prepares ⊢
  cases prepares with
  | disposed => exact .inl ⟨_, rfl, rfl⟩
  | unasked asked => exact .inl ⟨_, rfl, quiet asked⟩
  | refused asked named | unnamed asked named =>
    exact .inl ⟨_, rfl, (quiet named).trans (quiet asked)⟩
  | uncloned asked cloned => exact .inl ⟨_, rfl, (quiet cloned).trans (quiet asked)⟩
  | @made coroutine q r asked cloned =>
    have idles := (ask_idles asked).trans (ask_idles cloned)
    have same : r.promises.size = p.promises.size := by rw [idles.promises]
    refine .inr ⟨coroutine, by rw [same], (Handle.clone_ok (ask_ok cloned)).1, ?_⟩
    show ({ r with promises := r.promises.push ⟨.submitted, true⟩ } : Process).board w = _
    rw [r.newPromise_board, quiet cloned, quiet asked, same]

theorem Act.of_submit (s : System) (t : ThreadId) (l : LoopId) (awaitable : Handle)
    (token : Cancellation.Token) : s.Act (.submit t l awaitable token)
      (s.deeds (.submit t l awaitable token)) (s.step (.submit t l awaitable token)).board := by
  have hp := prepare_board t l awaitable token s.process
  show s.Act _ [] (after s.chores (Action.run (.submit t l awaitable token)) s.process).board
  rw [board_after, Action.run, run_bind]
  generalize prepare t l awaitable token s.process = q at hp
  obtain ⟨e | ⟨r, i⟩, q⟩ := q
  · rcases hp (pushes s.chores ++ pushes []) with ⟨_, -, hb⟩ | ⟨_, h, -⟩
    · show s.Act _ [] (q.board (pushes s.chores ++ pushes []))
      rw [hb]
      exact .quiet _ [] (by simp) (by rintro _ ⟨⟩)
    · cases h
  · rcases hp (pushes s.chores ++ pushes [(t, .enqueue l r)]) with
      ⟨_, h, -⟩ | ⟨coroutine, h, same, hb⟩
    · cases h
    · cases h
      show s.Act _ [] (q.board (pushes s.chores ++ pushes [(t, _)]))
      rw [hb]
      exact .submit t l awaitable coroutine token same

/-- A thread pushes a request, or gives it up. -/
theorem Act.of_enqueue (sound : s.Sound) {n : Nat} {t : ThreadId} {l : LoopId} {r : Request}
    (hn : s.chores[n]? = some (t, .enqueue l r)) :
    s.Act (.proceed n) (s.deeds (.proceed n)) (s.step (.proceed n)).board := by
  obtain ⟨before, after', hw, he⟩ := pushes_eraseIdx hn
  have hw' : s.board.pending = before ++ (l, r) :: after' := by
    show pushes s.chores = _
    rw [hw]
    simp [pushes]
  have hs : s.step (.proceed n) =
      after (s.chores.eraseIdx n) (Chore.run t (.enqueue l r)) s.process := by
    simp only [System.step, hn]
  have hd : s.deeds (.proceed n) = if s.process.takes t l then [.push l r] else [] := by
    simp only [deeds, hn]
  have takes := sound.takes_eq t l
  have hb := push_board (before ++ after') t l r s.process
  rw [hs, hd, board_after, Chore.run, run_bind, he, takes]
  rw [takes] at hb
  rcases push_cases t l r s.process with ⟨hp, shut⟩ | ⟨w, q, q', hp, isOpen, -, -⟩
  · have closed : (s.board.desk l).isOpen = false := by
      rw [← takes, Process.takes]
      rcases shut with h | h <;> simp [h]
    rw [hp, closed, if_neg Bool.false_ne_true]
    show s.Act _ _ ((tell t r.drop (s.process.answer r .eventLoopClosed)).2.board
      (before ++ after' ++ []))
    rw [List.append_nil, tell_quiet, Process.answer_board]
    exact .refuse n l r before after' hw' closed
  · have isOpen : (s.board.desk l).isOpen = true := isOpen
    rw [hp, isOpen, if_pos rfl] at hb
    rw [hp, isOpen, if_pos rfl]
    have left : s.Act (.proceed n) [.push l r] (q'.board (before ++ after' ++ [])) := by
      rw [List.append_nil, hb]
      exact .push n l r before after' hw' isOpen
    cases w <;> exact left

/-- A chore that pushes nothing, and leaves nothing to be pushed but requests to stop. -/
theorem Act.of_errand {n : Nat} {t : ThreadId} {c : Chore} (hn : s.chores[n]? = some (t, c))
    (hc : pushes [(t, c)] = []) (hb : ∀ w, (c.run t s.process).2.board w = s.process.board w)
    (hx : ∀ y ∈ pushes (c.run t s.process).1, y.2 = .stop) (hd : s.deeds (.proceed n) = []) :
    s.Act (.proceed n) (s.deeds (.proceed n)) (s.step (.proceed n)).board := by
  have hs : s.step (.proceed n) = after (s.chores.eraseIdx n) (c.run t) s.process := by
    simp only [System.step, hn]
  obtain ⟨before, after', hw, he⟩ := pushes_eraseIdx hn
  rw [hs, hd]
  refine .of_calm (a := .proceed n) (by rintro _ ⟨⟩) ?_ hb hx
  rw [hw, he, hc, List.append_nil]

/-- Whatever chore a thread takes up, it is one of the acts. -/
theorem proceed_act (sound : s.Sound) (n : Nat) :
    s.Act (.proceed n) (s.deeds (.proceed n)) (s.step (.proceed n)).board := by
  cases hn : s.chores[n]? with
  | none =>
    have hs : s.step (.proceed n) = s := by simp only [System.step, hn]
    have hd : s.deeds (.proceed n) = [] := by simp only [deeds, hn]
    rw [hs, hd]
    exact .nothing s (by rintro _ ⟨⟩)
  | some tc =>
    obtain ⟨t, c⟩ := tc
    have calmly (hc : pushes [(t, c)] = []) (hx : Calm (c.run t)) (hd : s.deeds (.proceed n) = []) :
        s.Act (.proceed n) (s.deeds (.proceed n)) (s.step (.proceed n)).board :=
      .of_errand hn hc (hx.1 s.process) (hx.2 s.process) hd
    cases c with
    | enqueue l r => exact .of_enqueue sound hn
    | wake m => exact calmly rfl (.bind (wake_quiet t m) fun _ => .nil) (by simp only [deeds, hn])
    | endDispose l dropped =>
      refine .of_errand hn rfl (fun w => ?_) (fun y hy => ?_) (by simp only [deeds, hn])
      · rw [Chore.run, run_bind]
        refine Eq.trans ?_ (endDispose_board t l (sound.books.ledger l) w)
        cases dropped with
        | true => exact Quiet.bind (noteDisposal_quiet _) (fun _ => releaseLoop_quiet t l) _ w
        | false => rfl
      · cases dropped <;> exact absurd hy List.not_mem_nil
    | resolve e =>
      refine calmly rfl (.bind (resolve_quiet t e) fun result => ?_) (by simp only [deeds, hn])
      cases result with
      | ok _ => exact .nil
      | error _ => exact closing_calm t e
    | settleClose e loop waited =>
      refine .of_errand hn rfl (fun w => ?_) (fun y hy => absurd hy List.not_mem_nil)
        (by simp only [deeds, hn])
      exact settleClose_board t e loop waited sound.books.ledger w
    | finishClose finalizes =>
      exact calmly rfl (.bind (finishClose_quiet t finalizes) fun _ => .nil)
        (by simp only [deeds, hn])

theorem cancel_act (t : ThreadId) (i : Nat) :
    s.Act (.cancel t i) (s.deeds (.cancel t i)) (s.step (.cancel t i)).board := by
  have hw : pushes (Action.run (.cancel t i) s.process).1 =
      (s.board.signal i).raise.1.map fun w => (w.callback.loop, .cancel w.callback.task) := by
    show pushes (((s.board.signal i).raise.1.map (·.callback)).map _) = _
    induction (s.board.signal i).raise.1 with
    | nil => rfl
    | cons w ws ih => exact congrArg _ ih
  show s.Act _ [] (after s.chores (Action.run (.cancel t i)) s.process).board
  rw [board_after, hw]
  exact .raise t i

/-- Whatever happens by an action, it is one of the acts. -/
theorem act (sound : s.Sound) (a : Action) : s.Act a (s.deeds a) (s.step a).board := by
  have calm {x : Activity Chores} {a : Action} (hx : Calm x) (other : ∀ l, a ≠ .drive l) :
      s.Act a [] (after s.chores x s.process).board :=
    .of_calm other rfl (hx.1 s.process) (hx.2 s.process)
  cases a with
  | operate t op => exact calm (.bind (tell_quiet t op) fun _ => .nil) nofun
  | newSource =>
    show s.Act _ [] ({ s.process with
      signals := s.process.signals.push Cancellation.Signal.fresh }.board (pushes (s.chores ++ [])))
    rw [List.append_nil]
    exact .source
  | cancel t i => exact cancel_act t i
  | submit t l awaitable token => exact .of_submit s t l awaitable token
  | abandon t i => exact calm (.bind (abandon_quiet t i) fun _ => .nil) nofun
  | openLoop t e => exact .of_openLoop nofun trivial (fun w => openLoop_board t e s.process w) rfl
  | openDefault t e =>
    exact .of_openLoop nofun trivial (fun w => defaultLoop_board t e s.process w) rfl
  | share l => exact calm (.bind (modifyLoop_quiet l fun _ => rfl) fun _ => .nil) nofun
  | limit l duration => exact calm (.bind (modifyLoop_quiet l fun _ => rfl) fun _ => .nil) nofun
  | dispose t l => exact calm (disposal_calm t l false) nofun
  | dropLoop t l =>
    refine calm (.bind (disown_quiet l) fun last => ?_) nofun
    cases last with
    | true => exact disposal_calm t l true
    | false => exact .nil
  | start t o =>
    refine calm (.bind (beginStart_quiet o) fun started => ?_) nofun
    cases started with
    | ok e => exact .pure fun y hy => absurd hy List.not_mem_nil
    | error _ => exact .nil
  | close t e =>
    refine calm (.get_bind fun p => ?_) nofun
    split
    · exact closing_calm t e
    · exact .nil
  | drive l => exact drive_act sound l
  | proceed n => exact proceed_act sound n

end

end System

end EmbeddedPython
