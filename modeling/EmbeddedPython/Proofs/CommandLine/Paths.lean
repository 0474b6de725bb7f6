import EmbeddedPython.CommandLine.Reading

/-
  The paths of a command line

  What the words of a command line give is said here without a reader: a path is
  behind a sign of equality or the next word, the value of another setting is
  passed over, two hyphens alone make operands of all that follows, and the name
  of a command leaves the rest to the level of that command. A reader stores a
  path only when the next word has come that can be used, and whatever it reads
  to the end it has read like this. The paths at the command then take the place
  of those before it.
-/

namespace EmbeddedPython.CommandLine

/-- What a word says about paths. -/
inductive Meaning where
  /-- all that follows are operands -/
  | operands
  /-- a command takes over -/
  | command
  | path (value : String)
  /-- the next word is the value of a setting, whatever it looks like -/
  | next (s : Setting)
  | nothing
  deriving DecidableEq, Repr

def meaning (l : Level) (word : String) : Meaning :=
  if word = "--" then .operands
  else if l = none ∧ (Verb.ofName? word).isSome then .command
  else
    match l.settings.find? fun s => s.value?.isSome && "--" ++ s.long == word with
    | some s => .next s
    | none =>
      match word.toList with
      | '-' :: '-' :: 'p' :: 'a' :: 't' :: 'h' :: '=' :: value => .path (String.ofList value)
      | _ => .nothing

/-- The paths that words give at a level, in order, and the words that are left to a command. -/
def pathsGiven (l : Level) : List String → List String × List String
  | [] => ([], [])
  | word :: rest =>
    match meaning l word with
    | .operands => ([], [])
    | .command => ([], word :: rest)
    | .path value => (pathsGiven l rest).map (value :: ·) id
    | .next s =>
      match rest with
      | [] => ([], [])
      | value :: rest => (pathsGiven l rest).map (if s = .path then (value :: ·) else id) id
    | .nothing => pathsGiven l rest

/-- The paths before the command. -/
def pathsBefore (words : List String) : List String := (pathsGiven none words).1

/-- The paths at the command. -/
def pathsAt (words : List String) : List String :=
  match (pathsGiven none words).2 with
  | [] => []
  | name :: rest => (pathsGiven (Verb.ofName? name) rest).1

/-! ## Meanings -/

theorem Verb.ofName?_name (v : Verb) : Verb.ofName? v.name = some v := by cases v <;> rfl

theorem Verb.name_of_ofName? {word : String} {v : Verb} (h : Verb.ofName? word = some v) :
    word = v.name := by
  have found := List.find?_some h
  exact (beq_iff_eq.mp found).symm

/-- A word that is no long form announces no value. -/
theorem no_setting_of {l : Level} {word : String}
    (other : ∀ s : Setting, s.value?.isSome = true → "--" ++ s.long ≠ word) :
    (l.settings.find? fun s => s.value?.isSome && "--" ++ s.long == word) = none := by
  refine List.find?_eq_none.mpr fun s _ found => ?_
  obtain ⟨valued, same⟩ := Bool.and_eq_true_iff.mp found
  exact other s valued (beq_iff_eq.mp same)

theorem meaning_next {l : Level} {s : Setting} (known : s ∈ l.settings)
    (valued : s.value?.isSome = true) : meaning l ("--" ++ s.long) = .next s := by
  revert known valued
  rcases l with _ | _ | _ | _ <;> cases s <;> decide

theorem meaning_command (v : Verb) : meaning none v.name = .command := by cases v <;> decide

theorem meaning_verbose (l : Level) : meaning l "--verbose" = .nothing := by
  rcases l with _ | _ | _ | _ <;> decide

/-- Only words of a long form and the names of commands mean something. -/
theorem meaning_of_short {l : Level} {word : String}
    (short : ∀ rest, word.toList ≠ '-' :: '-' :: rest)
    (unnamed : l = none → Verb.ofName? word = none) : meaning l word = .nothing := by
  have open' : word ≠ "--" := by
    rintro rfl
    exact short [] rfl
  have other (s : Setting) (_ : s.value?.isSome = true) : "--" ++ s.long ≠ word := by
    intro same
    refine short s.long.toList ?_
    rw [← same, String.toList_append]
    rfl
  rw [meaning, if_neg open', if_neg fun h => ?_, no_setting_of other]
  · dsimp only
    split
    · next value same => exact absurd same (short _)
    · rfl
  · rw [unnamed h.1] at h
    exact Bool.false_ne_true h.2

/-- A value behind a sign of equality belongs to the setting in front of it. -/
theorem meaning_assigned (l : Level) {s : Setting} (valued : s.value?.isSome = true)
    (value : String) : meaning l ("--" ++ s.long ++ "=" ++ value) =
      if s = .path then .path value else .nothing := by
  have letters : ("--" ++ s.long ++ "=" ++ value).toList =
      '-' :: '-' :: (s.long.toList ++ '=' :: value.toList) := by
    rw [String.toList_append, String.toList_append, String.toList_append, List.append_assoc]
    rfl
  generalize "--" ++ s.long ++ "=" ++ value = word at letters ⊢
  have open' : word ≠ "--" := by
    rintro rfl
    cases s <;> cases letters
  have unnamed : Verb.ofName? word = none := by
    refine Option.eq_none_iff_forall_not_mem.mpr fun v named => ?_
    rw [Verb.name_of_ofName? named] at letters
    cases v <;> cases letters
  -- no long form has a sign of equality in it
  have other (s' : Setting) (_ : s'.value?.isSome = true) : "--" ++ s'.long ≠ word := by
    intro same
    rw [← same] at letters
    cases s <;> cases valued <;> cases s' <;> cases letters
  rw [meaning, if_neg open', if_neg (by simp [unnamed]), no_setting_of other, letters]
  cases s with
  | path => exact congrArg Meaning.path String.ofList_toList
  | _ => cases valued <;> rfl

/-! ## Readers -/

theorem Given.store_paths {g g' : Given} {s : Setting} {value : String}
    (h : g.store s (some value) = .ok g') :
    g'.paths = g.paths ++ if s = .path then [value] else [] := by
  cases s with
  | path =>
    simp only [store] at h
    split at h <;> cases h
    rfl
  | config | timeout =>
    simp only [store] at h
    split at h
    · cases h
    · split at h <;> cases h
      exact (List.append_nil _).symm
  | _ =>
    cases h
    exact (List.append_nil _).symm

namespace Reader

variable {l : Level} {r r' : Reader} {word : String}

/-- The paths that a reader has, with the one that waits to be stored. -/
def stored (r : Reader) : List String :=
  match r.pending with
  | some (.path, some value) => r.given.paths ++ [value]
  | _ => r.given.paths

/-- What it means that nothing waits any more. -/
structure Settles (r r' : Reader) : Prop where
  paths : r'.given.paths = r.stored
  pending : r'.pending = none
  trailing : r'.trailing = r.trailing
  /-- a setting that waits for its value cannot be stored -/
  provided : ∀ s, r.pending ≠ some (s, none)

theorem resolve_settles (h : r.resolve = .ok r') : r.Settles r' := by
  obtain ⟨g, pending, trailing⟩ := r
  match pending with
  | none =>
    cases h
    exact ⟨rfl, rfl, rfl, nofun⟩
  | some (s, none) => cases h
  | some (s, some value) =>
    simp only [resolve] at h
    cases stored : g.store s (some value) with
    | error d =>
      rw [stored] at h
      cases h
    | ok g' =>
      rw [stored] at h
      cases h
      refine ⟨?_, rfl, rfl, nofun⟩
      rw [g.store_paths stored]
      cases s <;> simp [Reader.stored]

theorem Settles.stored (h : r.Settles r') : r'.stored = r.stored := by
  rw [← h.paths, Reader.stored, h.pending]

/-- A reader whose setting can be stored waits for no value. -/
theorem Settles.busy (h : r.Settles r') : r.isAwaiting = false := by
  cases waits : r.pending with
  | none => simp [isAwaiting, waits]
  | some p =>
    obtain ⟨s, value⟩ := p
    cases value with
    | none => exact absurd waits (h.provided s)
    | some value => simp [isAwaiting, waits]

theorem Settles.trans {r₁ r₂ : Reader} (h : r.Settles r₁) (h' : r₁.Settles r₂) : r.Settles r₂ :=
  ⟨h'.paths.trans h.stored, h'.pending, h'.trailing.trans h.trailing, h.provided⟩

/-- What follows a first step that has succeeded. -/
theorem bind_ok {α β : Type} {x : Except Detour α} {next : α → Except Detour β} {b : β}
    (h : (x >>= next) = .ok b) : ∃ a, x = .ok a ∧ next a = .ok b := by
  cases x with
  | error d => cases h
  | ok a => exact ⟨a, rfl, h⟩

theorem switch_paths {g g' : Given} {s : Setting} (h : g.switch l s = .ok g') :
    g'.paths = g.paths := by
  cases s with
  | verbose =>
    simp only [Given.switch] at h
    split at h <;> cases h
    rfl
  | _ => cases h <;> rfl

/-- A setting without a value does nothing but let what waits be stored. -/
theorem switch_settles {s : Setting} (h : r.switch l s = .ok r') : r.Settles r' := by
  obtain ⟨r₁, resolved, h⟩ := bind_ok h
  obtain ⟨g, switched, h⟩ := bind_ok h
  cases h
  have settles := resolve_settles resolved
  exact ⟨(switch_paths switched).trans settles.paths, settles.pending, settles.trailing,
    settles.provided⟩

/-- So do short forms. -/
theorem shorts_settles {letters : List Char} (h : r.shorts l letters = .ok r')
    (some' : letters ≠ []) : r.Settles r' := by
  induction letters generalizing r with
  | nil => exact absurd rfl some'
  | cons c rest ih =>
    simp only [shorts] at h
    split at h
    · obtain ⟨r₁, switched, h⟩ := bind_ok h
      have settles := switch_settles switched
      cases rest with
      | nil =>
        cases h
        exact settles
      | cons c' rest => exact settles.trans (ih h nofun)
    · cases h

/-- So do operands. -/
theorem operand_settles (h : r.operand l word = .ok r') : r.Settles r' := by
  cases l with
  | none => cases h
  | some v =>
    simp only [operand] at h
    split at h
    · obtain ⟨r₁, resolved, h⟩ := bind_ok h
      cases h
      have settles := resolve_settles resolved
      exact ⟨settles.paths, settles.pending, settles.trailing, settles.provided⟩
    · cases h

/-! ## Words of a long form -/

/-- A word is split at its first sign of equality. -/
theorem splitValue_eq (letters : List Char) : splitValue letters =
    match letters.dropWhile (· != '=') with
    | [] => (String.ofList letters, none)
    | _ :: value => (String.ofList (letters.takeWhile (· != '=')), some (String.ofList value)) := by
  have whole := List.takeWhile_append_dropWhile (p := (· != '=')) (l := letters)
  have behind : letters.drop (letters.takeWhile (· != '=')).length = letters.dropWhile (· != '=') :=
    (congrArg (List.drop _) whole.symm).trans List.drop_left
  rw [splitValue, behind]
  cases last : letters.dropWhile (· != '=') with
  | nil =>
    rw [last, List.append_nil] at whole
    rw [whole]
  | cons c value => rfl

theorem splitValue_none {letters : List Char} {name : String}
    (h : splitValue letters = (name, none)) : String.ofList letters = name := by
  rw [splitValue_eq] at h
  split at h <;> cases h
  rfl

theorem splitValue_some {letters : List Char} {name value : String}
    (h : splitValue letters = (name, some value)) :
    String.ofList letters = name ++ "=" ++ value := by
  have whole := List.takeWhile_append_dropWhile (p := (· != '=')) (l := letters)
  rw [splitValue_eq] at h
  split at h
  · cases h
  · next c rest last =>
    obtain rfl : c = '=' := by
      have first := List.head_dropWhile_not (· != '=') (l := letters) (by rw [last]; nofun)
      simpa [last] using first
    cases h
    rw [last] at whole
    refine String.toList_inj.mp ?_
    rw [String.toList_append, String.toList_append, String.toList_ofList, String.toList_ofList,
      String.toList_ofList, String.toList_ofList]
    exact whole.symm.trans (List.append_assoc _ ['='] _).symm

/-- What a word of a long form comes to: what waits is stored, and the word begins a setting, gives
one its value, or says nothing about paths. -/
inductive ReadsLong (l : Level) (r : Reader) (word : String) : Reader → Prop where
  | next {s : Setting} {r' : Reader} (known : s ∈ l.settings) (valued : s.value?.isSome = true)
    (written : word = "--" ++ s.long) (settles : r.Settles r') :
    ReadsLong l r word { r' with pending := some (s, none) }
  | assigned {s : Setting} {value : String} {r' : Reader} {g : Given}
    (valued : s.value?.isSome = true) (written : word = "--" ++ s.long ++ "=" ++ value)
    (settles : r.Settles r') (stored : r'.given.store s (some value) = .ok g) :
    ReadsLong l r word { r' with given := g }
  | verbose {r' : Reader} (written : word = "--verbose") (settles : r.Settles r') :
    ReadsLong l r word r'

theorem long_reads {letters : List Char} (hw : word.toList = '-' :: '-' :: letters)
    (h : r.long l letters = .ok r') : r.ReadsLong l word r' := by
  have front {tail : String} (same : String.ofList letters = tail) : word = "--" ++ tail := by
    refine String.toList_inj.mp ?_
    rw [hw, String.toList_append, ← same, String.toList_ofList, String.toList_ofList]
    rfl
  simp only [long] at h
  generalize parts : splitValue letters = p at h
  obtain ⟨name, value⟩ := p
  dsimp only at h
  split at h
  · cases h
  · next s found =>
    have known := List.mem_of_find?_eq_some found
    have named := List.find?_some found
    obtain rfl : s.long = name := beq_iff_eq.mp named
    cases valued : s.value?.isSome with
    | true =>
      cases value with
      | some value =>
        rw [valued] at h
        obtain ⟨r₁, resolved, h⟩ := bind_ok h
        obtain ⟨g, stored, h⟩ := bind_ok h
        cases h
        refine .assigned valued ?_ (resolve_settles resolved) stored
        rw [front (splitValue_some parts)]
        simp only [String.append_assoc]
      | none =>
        rw [valued] at h
        obtain ⟨r₁, resolved, h⟩ := bind_ok h
        cases h
        exact .next known valued (front (splitValue_none parts)) (resolve_settles resolved)
    | false =>
      cases value with
      | some value =>
        rw [valued] at h
        cases h
      | none =>
        rw [valued] at h
        have settles := switch_settles h
        have written := front (splitValue_none parts)
        obtain ⟨r₁, -, h⟩ := bind_ok h
        cases s with
        | verbose => exact .verbose written settles
        | help => cases h
        | version => cases h
        | _ => cases valued

/-! ## What is read from a place on -/

/-- Whether a reader that reads words to the end comes to these paths and leaves these words: to the
paths that it has come those that the words give, the first of them for what waits for a value. -/
def Continues (l : Level) (r : Reader) (words paths left : List String) : Prop :=
  match r.pending with
  | some (s, none) => ∃ value rest, words = value :: rest ∧
      paths = r.given.paths ++ (if s = .path then [value] else []) ++ (pathsGiven l rest).1 ∧
      left = (pathsGiven l rest).2
  | _ => paths = r.stored ++ (pathsGiven l words).1 ∧ left = (pathsGiven l words).2

variable {words rest paths left : List String}

theorem continues_iff (provided : ∀ s, r.pending ≠ some (s, none)) :
    r.Continues l words paths left ↔
      paths = r.stored ++ (pathsGiven l words).1 ∧ left = (pathsGiven l words).2 := by
  rw [Continues]
  split
  · next s waits => exact absurd waits (provided s)
  · rfl

/-- Where no more paths are given, those that it has come to are all. -/
theorem Settles.ends (settles : r.Settles r') (given : pathsGiven l words = ([], left)) :
    r.Continues l words r'.given.paths left := by
  rw [continues_iff settles.provided, given, settles.paths]
  exact ⟨(List.append_nil _).symm, rfl⟩

/-- A word that says nothing about paths. -/
theorem Settles.continues (settles : r.Settles r') (nothing : meaning l word = .nothing)
    (h : r'.Continues l rest paths left) : r.Continues l (word :: rest) paths left := by
  rw [continues_iff (by rw [settles.pending]; nofun), settles.stored] at h
  rw [continues_iff settles.provided, pathsGiven, nothing]
  exact h

theorem ReadsLong.continues (reads : r.ReadsLong l word r') (h : r'.Continues l rest paths left) :
    r.Continues l (word :: rest) paths left := by
  cases reads with
  | next known valued written settles =>
    obtain ⟨value, more, rfl, rfl, rfl⟩ := h
    rw [continues_iff settles.provided, pathsGiven, written, meaning_next known valued]
    refine ⟨?_, rfl⟩
    rw [settles.paths, List.append_assoc]
    dsimp only [Prod.map]
    split <;> rfl
  | @assigned s value r₁ g valued written settles stored =>
    have paths' := Given.store_paths stored
    have none' : ∀ s, ({ r₁ with given := g } : Reader).pending ≠ some (s, none) := by
      intro s
      show r₁.pending ≠ _
      rw [settles.pending]
      nofun
    have stored' : ({ r₁ with given := g } : Reader).stored =
        r.stored ++ if s = .path then [value] else [] := by
      rw [Reader.stored, settles.pending, ← settles.paths]
      exact paths'
    rw [continues_iff none', stored'] at h
    rw [continues_iff settles.provided, pathsGiven, written, meaning_assigned l valued]
    obtain ⟨rfl, rfl⟩ := h
    split <;> simp
  | verbose written settles => exact settles.continues (written ▸ meaning_verbose l) h

theorem ReadsLong.trailing (reads : r.ReadsLong l word r') : r'.trailing = r.trailing := by
  cases reads with
  | next _ _ _ settles => exact settles.trailing
  | assigned _ _ settles _ => exact settles.trailing
  | verbose _ settles => exact settles.trailing

/-- What a word comes to that is no name of a command: it makes operands of all that follows, or the
reader goes on with what the word says. -/
theorem word_continues (open' : r.trailing = false)
    (unnamed : r.isAwaiting = false → l = none → Verb.ofName? word = none)
    (h : r.word l word = .ok r') :
    word = "--" ∧ r' = { r with trailing := true } ∨
      r'.trailing = false ∧ ∀ rest paths left,
        r'.Continues l rest paths left → r.Continues l (word :: rest) paths left := by
  simp only [Reader.word, open', Bool.false_eq_true, if_false] at h
  split at h
  · next letters =>
    cases h
    exact .inl ⟨String.toList_inj.mp letters, rfl⟩
  · next name short letters =>
    have reads := long_reads letters h
    exact .inr ⟨reads.trailing.trans open', fun _ _ _ => reads.continues⟩
  · next c rest _ short letters =>
    have settles := shorts_settles h nofun
    have short' (rest' : List Char) : word.toList ≠ '-' :: '-' :: rest' := by
      intro same
      rw [letters] at same
      cases same
      exact short rfl
    have nothing := meaning_of_short short' (unnamed settles.busy)
    exact .inr ⟨settles.trailing.trans open', fun _ _ _ => settles.continues nothing⟩
  · next short _ =>
    split at h
    · next s value waits awaiting =>
      -- the value that is waited for, even if it is the name of a command
      cases h
      refine .inr ⟨rfl, fun rest paths left h => ?_⟩
      obtain rfl : value = none := by
        rw [isAwaiting, waits] at awaiting
        simpa [open'] using awaiting
      obtain ⟨rfl, rfl⟩ := (continues_iff (fun s => by simp)).mp h
      rw [Continues, waits]
      refine ⟨word, rest, rfl, ?_, rfl⟩
      cases s <;> simp [Reader.stored]
    · have settles := operand_settles h
      have nothing := meaning_of_short (fun rest => short rest) (unnamed settles.busy)
      exact .inr ⟨settles.trailing.trans open', fun _ _ _ => settles.continues nothing⟩

/-- Where all words are operands nothing else is read. -/
theorem operands_settle {v : Verb} {r₂ : Reader} (trailing : r.trailing = true)
    (run : words.foldlM (fun (r : Reader) w => r.word (some v) w) r = .ok r')
    (resolved : r'.resolve = .ok r₂) : r.Settles r₂ := by
  induction words generalizing r with
  | nil =>
    cases run
    exact resolve_settles resolved
  | cons w rest ih =>
    rw [List.foldlM_cons] at run
    obtain ⟨r₁, first, others⟩ := bind_ok run
    rw [Reader.word, if_pos trailing] at first
    have settles := operand_settles first
    exact settles.trans (ih (settles.trailing.trans trailing) others)

/-- The level of a command is read as its words say. -/
theorem command_continues {v : Verb} {r₂ : Reader} (open' : r.trailing = false)
    (run : words.foldlM (fun (r : Reader) w => r.word (some v) w) r = .ok r')
    (resolved : r'.resolve = .ok r₂) : r.Continues (some v) words r₂.given.paths [] := by
  induction words generalizing r with
  | nil =>
    cases run
    exact (resolve_settles resolved).ends rfl
  | cons w rest ih =>
    rw [List.foldlM_cons] at run
    obtain ⟨r₁, first, others⟩ := bind_ok run
    have atCommand (_ : r.isAwaiting = false) (h : some v = none) : Verb.ofName? w = none :=
      nomatch h
    rcases word_continues open' atCommand first with ⟨rfl, rfl⟩ | ⟨open₁, continues⟩
    · have settles := operands_settle rfl others resolved
      exact settles.ends rfl
    · exact continues rest _ _ (ih open₁ others)

/-- There is no command among operands. -/
theorem readProgram_operands {v : Verb} (trailing : r.trailing = true) :
    readProgram r words ≠ .ok (r', some (v, rest)) := by
  cases words with
  | nil => nofun
  | cons w more =>
    intro h
    simp only [readProgram, trailing, Bool.not_true, Bool.false_and, Bool.true_or, if_true,
      Reader.word, Reader.operand] at h
    cases h

/-- The level of the program is read as its words say. -/
theorem program_continues {v : Verb} {r₂ : Reader} (open' : r.trailing = false)
    (run : readProgram r words = .ok (r', some (v, rest))) (resolved : r'.resolve = .ok r₂) :
    r.Continues none words r₂.given.paths (v.name :: rest) := by
  -- a value that is waited for is carried along by what is to continue
  induction words generalizing r with
  | nil => cases run
  | cons w more ih =>
    simp only [readProgram, open', Bool.not_false, Bool.true_and, Bool.false_or] at run
    split at run
    · cases run
    · split at run
      · next v' named =>
        cases run
        have settles := resolve_settles resolved
        -- what waits can be stored, so the word is not its value
        rw [settles.busy] at named
        refine settles.ends ?_
        rw [Verb.name_of_ofName? named, pathsGiven, meaning_command]
      · next unnamed =>
        split at run
        · next r₁ first =>
          have unnamed' (idle : r.isAwaiting = false) (_ : (none : Level) = none) :
              Verb.ofName? w = none := by
            rw [idle] at unnamed
            exact unnamed
          rcases word_continues open' unnamed' first with ⟨rfl, rfl⟩ | ⟨open₁, continues⟩
          · exact absurd run (readProgram_operands rfl)
          · exact continues more _ _ (ih open₁ run)
        · cases run

end Reader

/-- A command line that is read has the paths at its command, if there are any, and otherwise those
before it. -/
theorem read_paths {words : List String} {i : Invocation} (h : read words = .ok i) :
    i.paths = if (pathsAt words).isEmpty then pathsBefore words else pathsAt words := by
  obtain ⟨⟨r, command⟩, program, h⟩ := Reader.bind_ok h
  cases command with
  | none =>
    obtain ⟨_, -, h⟩ := Reader.bind_ok h
    cases h
  | some c =>
    obtain ⟨v, rest⟩ := c
    obtain ⟨at', command, h⟩ := Reader.bind_ok h
    obtain ⟨job, -, h⟩ := Reader.bind_ok h
    obtain ⟨before, resolved, h⟩ := Reader.bind_ok h
    cases h
    obtain ⟨r₁, run, command⟩ := Reader.bind_ok command
    obtain ⟨r₂, resolved', command⟩ := Reader.bind_ok command
    cases command
    obtain ⟨pathsOf, left⟩ := Reader.program_continues rfl program resolved
    obtain ⟨pathsOf', -⟩ := Reader.command_continues rfl run resolved'
    have at_eq : pathsAt words = r₂.given.paths := by
      rw [pathsAt, ← left]
      dsimp only
      rw [Verb.ofName?_name]
      exact pathsOf'.symm
    rw [at_eq, pathsBefore]
    show (if r₂.given.paths.isEmpty then before.given.paths else r₂.given.paths) = _
    rw [pathsOf]
    rfl

end EmbeddedPython.CommandLine
