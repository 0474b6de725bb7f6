import EmbeddedPython.Proofs.Asyncio.StopOnDone
import EmbeddedPython.Proofs.Environment.SearchPath
import EmbeddedPython.Proofs.Environment.Waking
import EmbeddedPython.Proofs.Host.Breaking
import EmbeddedPython.Proofs.Interpreter.Importing

/-
  What a start resolves

  An environment appends its places to look for modules, imports asyncio, reads
  two of its functions and evaluates the callback of every task. Programs may
  have taken the functions out of asyncio, and this is the only thing that can be
  missing. The places have been appended by then, and stay appended.
-/

namespace EmbeddedPython

open Op

/-- The functions of asyncio that an environment needs, in the order in which it reads them. -/
def neededFunctions : List String := ["new_event_loop", "ensure_future"]

namespace Memory

/-- Whether asyncio is the module that the interpreter makes, if it has been imported. -/
def GenuineAsyncio (m : Memory) : Prop :=
  ∀ r, m.modules.lookup "asyncio" = some r → m.Holds r .module (.module "asyncio")

/-- The first function that an environment needs and a module does not have. -/
def lacking (m : Memory) (asyncio : Ref) : Option String :=
  neededFunctions.find? fun name => (m.moduleAttribute asyncio name).isNone

/-- The first function that an environment needs and programs have taken out of asyncio. -/
def missing? (m : Memory) : Option String := (m.modules.lookup "asyncio").bind m.lacking

end Memory

namespace Eval

theorem moduleAttributes_asyncio : ∃ attributes, moduleAttributes "asyncio" = pure attributes ∧
    ∀ name ∈ neededFunctions, (attributes.lookup name).isSome = true := by
  refine ⟨_, rfl, ?_⟩
  decide

theorem moduleAttributes_builtins :
    ∃ attributes, moduleAttributes "builtins" = pure attributes := ⟨_, rfl⟩

end Eval

namespace Host

variable {m : Memory}

/-- Asyncio is imported, and has what it had. -/
theorem importAsyncio_returns (genuine : m.GenuineAsyncio) : ∃ r n,
    Returns (importModule "asyncio") m (Handle.adopt r) n ∧ m.Grows n ∧
      n.Holds r .module (.module "asyncio") ∧ n.lacking r = m.missing? := by
  obtain ⟨attributes, made, all⟩ := Eval.moduleAttributes_asyncio
  have known : Eval.isModule "asyncio" = true := by decide
  obtain ⟨r, n, run, grows, found⟩ := Eval.import_grows known made (by decide) m
  refine ⟨r, n, ?_, grows, ?_⟩
  · rw [importModule_asyncio]
    exact .guarded (.request [] run)
  · rcases found with ⟨registered, rfl⟩ | ⟨unregistered, t, object⟩
    · exact ⟨genuine r registered, by rw [Memory.missing?, registered]; rfl⟩
    · refine ⟨⟨congrArg Object.cls object, congrArg Object.value object⟩, ?_⟩
      rw [Memory.missing?, unregistered]
      refine List.find?_eq_none.mpr fun name needed => ?_
      have other : name ≠ "__name__" := by
        rintro rfl
        exact absurd needed (by decide)
      rw [Memory.moduleAttribute, object, Option.getD_some, List.lookup_cons, beq_false_of_ne other]
      have has := all name needed
      simpa using has

theorem importBuiltins_returns (m : Memory) : ∃ r n,
    Returns (importModule "builtins") m (Handle.adopt r) n ∧ m.Grows n := by
  obtain ⟨attributes, made⟩ := Eval.moduleAttributes_builtins
  have known : Eval.isModule "builtins" = true := by decide
  obtain ⟨r, n, run, grows, -⟩ := Eval.import_grows known made (by decide) m
  refine ⟨r, n, ?_, grows⟩
  rw [importModule_builtins]
  exact .guarded (.request [] run)

/-- A dictionary that has just been made is given its first name. -/
theorem setKey_first {id : Nat} {key : Ref} {t : Text} (dict : m.Holds (.cell id) .dict (.dict []))
    (hk : m.Holds key .str (.text t)) (value : Ref) :
    (Eval.setKey Machine.top (.cell id) key value).run m =
      (.ok (), m.setValue (.cell id) (.dict [⟨Hash.ofText t, key, value⟩])) := by
  have put : (Eval.withEntry Machine.top [] key value).run m =
      (.ok [⟨Hash.ofText t, key, value⟩], m) := by
    have hash : (Machine.top.hash key).run m = (.ok (Hash.ofText t), m) := Eval.hash_text 999 hk
    rw [Eval.withEntry, Eval.run_bind_ok hash]
    rfl
  rw [Eval.setKey]
  simp only [Eval.entriesOf, bind_assoc, Eval.run_valueOf_bind, dict.value, pure_bind]
  rw [Eval.run_bind_ok put, Eval.setValue, Eval.run_update, Memory.assign, dict.value]
  rfl

/-- Names for a program are made, which does nothing to other objects. -/
theorem newGlobals_returns (m : Memory) :
    ∃ r n, Returns newGlobals m (Handle.adopt r) n ∧ m.Grows n := by
  let o : Object := ⟨Ref.ofBuiltin .dict, .dict [],
    if Builtin.dict.hasAttributes then some [] else none⟩
  let d : Ref := .cell m.cells.size
  have made : (Eval.newDict Machine.top []).run m = (.ok d, (m.alloc o).2) := by
    rw [Eval.newDict, Eval.entriesFrom, List.foldlM_nil, pure_bind]
    rfl
  have dict : (m.alloc o).2.Holds d .dict (.dict []) :=
    ⟨congrArg Object.cls (m.object_alloc_new o), congrArg Object.value (m.object_alloc_new o)⟩
  obtain ⟨b, i, imported, grows⟩ := importBuiltins_returns (m.alloc o).2
  obtain ⟨key, j, text, grows', -, spelled⟩ := Eval.newText_grows (.ofString "__builtins__") i
  have dict' := (dict.adds nofun grows.toAdds).adds nofun grows'.toAdds
  have filled := setKey_first dict' spelled b
  let n := j.setValue d (.dict [⟨Hash.ofText (.ofString "__builtins__"), key, b⟩])
  have before : m.Grows j := (Memory.Grows.alloc m o).trans (grows.trans grows')
  -- the dictionary that is filled has been made since
  have adds : m.Adds n :=
    (Memory.Refills.setValue j m.cells.size _).adds before.toAdds (Nat.lt_irrefl m.cells.size)
  refine ⟨d, n, ?_, adds, before.modules, before.searchPath⟩
  have entry : Returns (HostValue.text "__builtins__").toHandle i (Handle.adopt key) j := by
    rw [HostValue.toHandle]
    exact .guarded (.request [] text)
  have fill : Returns (do
      Handle.spend (← importModule "builtins") fun builtins => do
        Handle.spend (← (HostValue.text "__builtins__").toHandle) fun key =>
          askDone [(Handle.adopt d).ref, key.ref, builtins.ref]
            (Eval.setKey Machine.top (Handle.adopt d).ref key.ref builtins.ref))
      (m.alloc o).2 () n :=
    imported.bind (Handle.spend_returns (entry.bind (Handle.spend_returns (.askDone _ filled))))
  exact .guarded ((Returns.request [] made).bind ((fill.onFailure _).bind (.pure _ n)))

/-- The callback of every task can always be evaluated. -/
theorem evaluateStopOnDone_returns (m : Memory) : ∃ r n,
    Returns (evaluateAlone stopOnDoneSource) m (Handle.adopt r) n ∧ m.Grows n := by
  obtain ⟨d, i, globals, grows⟩ := newGlobals_returns m
  obtain ⟨o, evaluated, -⟩ := Eval.evaluateSource_stopOnDone Machine.top d i
  have plain : terminated stopOnDoneSource = .ok stopOnDoneSource := by decide
  have live : (Handle.adopt d).live = pure d := Handle.live_run rfl
  have read : Returns (evaluate stopOnDoneSource (Handle.adopt d)) i (Handle.adopt (i.alloc o).1)
      (i.alloc o).2 := by
    rw [evaluate, plain, Op.ofExcept, pure_bind, live, pure_bind]
    exact .guarded (.request [d] evaluated)
  exact ⟨_, _, globals.bind (Handle.spend_returns read), grows.trans (.alloc i o)⟩

end Host

/-! ## Resolving -/

/-- What an environment resolves after it has appended its places. -/
def resolveNeeds : Op Bindings := do
  Handle.spend (← Host.importModule "asyncio") fun asyncio => do
    let newEventLoop ← asyncio.getAttr "new_event_loop"
    Op.onFailure
      (do
        let ensureFuture ← asyncio.getAttr "ensure_future"
        Op.onFailure
          (do
            let stopOnDone ← Host.evaluateAlone stopOnDoneSource
            pure ⟨newEventLoop, ensureFuture, stopOnDone⟩)
          ensureFuture.drop)
      newEventLoop.drop

/-- Whether an operation returns as long as no function is missing, and otherwise fails and says
which one is. -/
def Op.Resolves (op : Op Bindings) (missing : Option String) (m n : Memory) : Prop :=
  match missing with
  | none => ∃ b, Returns op m b n
  | some name => Breaks op m (.python ⟨"AttributeError", Eval.missingAttribute "asyncio" name⟩) n

namespace Op.Resolves

variable {missing : Option String} {m n k : Memory}

theorem guarded {op : Op Bindings} (h : op.Resolves missing m n) :
    op.guarded.Resolves missing m n := by
  cases missing with
  | none =>
    obtain ⟨b, returns⟩ := h
    exact ⟨b, returns.guarded⟩
  | some name => exact Breaks.guarded h

theorem after {α : Type} {op : Op α} {a : α} {next : α → Op Bindings} (ho : Returns op m a n)
    (hn : (next a).Resolves missing n k) : (op >>= next).Resolves missing m k := by
  cases missing with
  | none =>
    obtain ⟨b, returns⟩ := hn
    exact ⟨b, ho.bind returns⟩
  | some name => exact Breaks.after ho hn

end Op.Resolves

theorem resolveBindings_eq (o : Options) : resolveBindings o = Op.guarded (
    if o.searchPaths = [] then resolveNeeds
    else do
      Handle.spend (← searchPathList) fun list => appendPath list o.searchPaths
      resolveNeeds) := by
  rw [resolveBindings]
  cases paths : o.searchPaths with
  | nil => rfl
  | cons path rest => rfl

section

variable {m n : Memory} {r : Ref} {name : String}

/-- The names that are needed are plain, and no class of the interpreter stands for them. -/
theorem plain_of_needed (needed : name ∈ neededFunctions) :
    terminated name = .ok name ∧ Builtin.module.definer? name = none := by
  revert name
  decide

theorem getAttr_asyncio_returns (holds : m.Holds r .module (.module "asyncio"))
    (needed : name ∈ neededFunctions) {x : Ref} (has : m.moduleAttribute r name = some x) :
    Returns ((Handle.adopt r).getAttr name) m (Handle.adopt x) m := by
  have plain := plain_of_needed needed
  exact Handle.getAttr_returns rfl plain.1 (Eval.getAttr_module Machine.top holds plain.2 has)

theorem getAttr_asyncio_breaks (holds : m.Holds r .module (.module "asyncio"))
    (needed : name ∈ neededFunctions) (lacks : m.moduleAttribute r name = none) :
    ∃ n, Breaks ((Handle.adopt r).getAttr name) m
      (.python ⟨"AttributeError", Eval.missingAttribute "asyncio" name⟩) n ∧ m.Grows n := by
  have plain := plain_of_needed needed
  have native : (Builtin.exception .attributeError).definer? "__str__" =
      some (.exception .attributeError) := by decide
  obtain ⟨e, i, raised, grows, tells⟩ := Eval.raise_tells (α := Ref)
    (Eval.missingAttribute "asyncio" name) m native nofun
  rw [← Eval.getAttr_module_missing Machine.top holds plain.2 lacks] at raised
  obtain ⟨n, breaks, grows'⟩ := request_breaks [r] raised tells
  refine ⟨n, ?_, grows.trans grows'⟩
  rw [Handle.getAttr, Handle.getAttrBy, Handle.live_run rfl, pure_bind, plain.1]
  exact .guarded breaks

/-- An environment finds what it needs, unless programs have taken it out of asyncio. -/
theorem resolveNeeds_outcome (genuine : m.GenuineAsyncio) :
    ∃ n, m.Grows n ∧ resolveNeeds.Resolves m.missing? m n := by
  obtain ⟨r, i, imported, grows, holds, lacking⟩ := Host.importAsyncio_returns genuine
  rw [← lacking]
  cases first : i.moduleAttribute r "new_event_loop" with
  | none =>
    obtain ⟨n, breaks, grows'⟩ := getAttr_asyncio_breaks holds (by decide) first
    have missing : i.lacking r = some "new_event_loop" := by
      simp [Memory.lacking, neededFunctions, first]
    rw [missing]
    refine ⟨n, grows.trans grows', .after imported (.spend ?_)⟩
    exact breaks.first _
  | some x =>
    have reads := getAttr_asyncio_returns holds (by decide) first
    cases second : i.moduleAttribute r "ensure_future" with
    | none =>
      obtain ⟨n, breaks, grows'⟩ := getAttr_asyncio_breaks holds (by decide) second
      have missing : i.lacking r = some "ensure_future" := by
        simp [Memory.lacking, neededFunctions, first, second]
      rw [missing]
      refine ⟨n, grows.trans grows', .after imported (.spend (.after reads ?_))⟩
      -- the function that has been read is given back
      exact (breaks.first _).onFailure (Handle.drop_returns _ n)
    | some y =>
      have reads' := getAttr_asyncio_returns holds (by decide) second
      obtain ⟨f, n, evaluated, grows'⟩ := Host.evaluateStopOnDone_returns i
      have missing : i.lacking r = none := by
        simp [Memory.lacking, neededFunctions, first, second]
      rw [missing]
      refine ⟨n, grows.trans grows', ⟨Handle.adopt x, Handle.adopt y, Handle.adopt f⟩,
        imported.bind (Handle.spend_returns (reads.bind (.onFailure (reads'.bind ?_) _)))⟩
      refine .onFailure (evaluated.bind ?_) _
      exact .pure _ n

variable {id : Nat} {items added : List Ref}

/-- Appending places does nothing to asyncio. -/
theorem genuineAsyncio_refills (list : m.Holds (.cell id) .list (.list items))
    (refills : Memory.Refills id m n) (modules : n.modules = m.modules)
    (genuine : m.GenuineAsyncio) : n.GenuineAsyncio ∧ n.missing? = m.missing? := by
  refine ⟨fun r registered => ?_, ?_⟩
  · rw [modules] at registered
    exact (genuine r registered).refills nofun list (by decide) refills
  · rw [Memory.missing?, Memory.missing?, modules]
    cases registered : m.modules.lookup "asyncio" with
    | none => rfl
    | some r =>
      have holds := genuine r registered
      have apart : r ≠ .cell id := by
        rintro rfl
        cases holds.value.symm.trans list.value
      have same := refills.object (holds.has nofun) apart
      simp only [Option.bind_some, Memory.lacking, Memory.moduleAttribute, same]

/-- An environment appends all its places to those that there are, whether it then finds what it
needs or not. -/
theorem resolveBindings_outcome (o : Options) (searches : m.Searches id items)
    (genuine : m.GenuineAsyncio) : ∃ n added, n.Searches id (items ++ added) ∧
      n.Spell added o.searchPaths ∧ Memory.Refills id m n ∧
      (resolveBindings o).Resolves m.missing? m n := by
  rw [resolveBindings_eq]
  by_cases none : o.searchPaths = []
  · obtain ⟨n, grows, resolves⟩ := resolveNeeds_outcome genuine
    refine ⟨n, [], ?_, none ▸ .nil, .of_adds grows.toAdds, ?_⟩
    · rw [List.append_nil]
      exact searches.grows grows
    · rw [if_pos none]
      exact resolves.guarded
  · obtain ⟨i, added, appended, searches', spell, refills, modules⟩ :=
      appendPath_returns o.searchPaths searches
    obtain ⟨genuine', same⟩ := genuineAsyncio_refills searches.holds refills modules genuine
    obtain ⟨n, grows, resolves⟩ := resolveNeeds_outcome genuine'
    refine ⟨n, added, searches'.grows grows, spell.adds grows.toAdds,
      refills.trans (.of_adds grows.toAdds), ?_⟩
    rw [if_neg none, ← same]
    refine .guarded (.after (searchPathList_returns searches) ?_)
    refine .after (Handle.spend_returns appended) ?_
    exact resolves

end

end EmbeddedPython
