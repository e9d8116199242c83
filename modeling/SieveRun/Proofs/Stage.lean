import SieveRun.Session

/-!
# How a stage runs

A stage is a function from a session to an outcome and a session. This file says so for
every primitive: what `runOn` makes of it, as one equation, so that no later proof opens
the monad. Two forms are in use. A run is computed forwards by rewriting with the
equations; a run that is known to have succeeded is taken apart by `Stage.bind_ok`.

The journal is the one thing that every primitive adds to. Most facts do not care what is
in it, and they are stated through two ideas. `Session.noting` separates what was noted
from what was changed. A `StepRelation` compares two sessions without looking at their
journals, and a `WriteRelation` looks only at what they tell about writes; `Stage.Moves` says
that a stage only makes steps that the relation allows, and is proved once for each primitive
and carried through `bind`. Where a run is known to succeed,
`Stage.Answers` and `Stage.Takes` say what it answers and where it takes the parameters, whatever
it notes on the way, and they compose in the same manner.
-/

namespace SieveRun

variable {α β : Type}

/-! ## Sessions with parts replaced -/

namespace Session

/-- The session with other parameters. -/
def withParams (s : Session) (h : Hierarchy) : Session := { s with params := h }

@[simp] theorem noting_params (s : Session) (events : List Event) :
    (s.noting events).params = s.params := rfl

@[simp] theorem noting_files (s : Session) (events : List Event) :
    (s.noting events).files = s.files := rfl

@[simp] theorem noting_scratch (s : Session) (events : List Event) :
    (s.noting events).scratch = s.scratch := rfl

@[simp] theorem noting_nil (s : Session) : s.noting [] = s := by simp [noting]

@[simp] theorem noting_noting (s : Session) (events more : List Event) :
    (s.noting events).noting more = s.noting (events ++ more) := by
  have hwants : (s.noting events).wants = s.wants := rfl
  rw [noting, hwants, noting, noting, List.filter_append, ← List.append_assoc]

@[simp] theorem withParams_params (s : Session) (h : Hierarchy) :
    (s.withParams h).params = h := rfl

@[simp] theorem withParams_files (s : Session) (h : Hierarchy) :
    (s.withParams h).files = s.files := rfl

@[simp] theorem withParams_scratch (s : Session) (h : Hierarchy) :
    (s.withParams h).scratch = s.scratch := rfl

@[simp] theorem withParams_self (s : Session) : s.withParams s.params = s := rfl

@[simp] theorem withParams_withParams (s : Session) (h h' : Hierarchy) :
    (s.withParams h).withParams h' = s.withParams h' := rfl

@[simp] theorem noting_withParams (s : Session) (events : List Event) (h : Hierarchy) :
    (s.noting events).withParams h = (s.withParams h).noting events := rfl

end Session

/-! ## The primitives -/

namespace Stage

@[simp] theorem runOn_pure (a : α) (s : Session) : (pure a : Stage α).runOn s = (.ok a, s) := rfl

@[simp] theorem runOn_throw (e : RunError) (s : Session) :
    (throw e : Stage α).runOn s = (.error e, s) := rfl

@[simp] theorem runOn_get (s : Session) : (get : Stage Session).runOn s = (.ok s, s) := rfl

@[simp] theorem runOn_modify (f : Session → Session) (s : Session) :
    (modify f : Stage Unit).runOn s = (.ok (), f s) := rfl

theorem runOn_bind (x : Stage α) (f : α → Stage β) (s : Session) :
    (x >>= f).runOn s =
      match x.runOn s with
      | (.ok a, s') => (f a).runOn s'
      | (.error e, s') => (.error e, s') := by
  rw [runOn, ExceptT.run_bind, StateT.run_bind]
  rcases h : x.runOn s with ⟨_ | _, s'⟩ <;> (rw [runOn] at h; rw [h]; rfl)

/-- A bind after a run that succeeded goes on from where it ended. -/
theorem runOn_bind_of_ok {x : Stage α} {f : α → Stage β} {s s' : Session} {a : α}
    (h : x.runOn s = (.ok a, s')) : (x >>= f).runOn s = (f a).runOn s' := by
  rw [runOn_bind, h]

/-- A bind after a run that failed ends where it did. -/
theorem runOn_bind_of_error {x : Stage α} {f : α → Stage β} {s s' : Session} {e : RunError}
    (h : x.runOn s = (.error e, s')) : (x >>= f).runOn s = (.error e, s') := by
  rw [runOn_bind, h]

/-- A bind ends where the first run failed, or goes on from where it ended. -/
theorem bind_cases {x : Stage α} {f : α → Stage β} {s s' : Session} {r : Except RunError β}
    (h : (x >>= f).runOn s = (r, s')) :
    (∃ e, x.runOn s = (.error e, s') ∧ r = .error e)
      ∨ ∃ a s₁, x.runOn s = (.ok a, s₁) ∧ (f a).runOn s₁ = (r, s') := by
  rw [runOn_bind] at h
  split at h
  · rename_i a s₁ hx
    exact .inr ⟨a, s₁, hx, h⟩
  · rename_i e s₁ hx
    obtain ⟨rfl, rfl⟩ := Prod.mk.inj h
    exact .inl ⟨e, hx, rfl⟩

/-- A bind that succeeded is two runs that did. -/
theorem bind_ok {x : Stage α} {f : α → Stage β} {s s' : Session} {b : β}
    (h : (x >>= f).runOn s = (.ok b, s')) :
    ∃ a s₁, x.runOn s = (.ok a, s₁) ∧ (f a).runOn s₁ = (.ok b, s') := by
  obtain ⟨e, -, he⟩ | hok := bind_cases h
  · exact absurd he (by simp)
  · exact hok

theorem pure_ok {a b : α} {s s' : Session} (h : (pure a : Stage α).runOn s = (.ok b, s')) :
    a = b ∧ s = s' := by
  simpa using h

/-- A run succeeded, and its value passes a test. -/
def passes (r : Except RunError α × Session) (test : α → Bool) : Bool :=
  match r.1 with
  | .ok a => test a
  | .error _ => false

theorem exists_ok_of_passes {r : Except RunError α × Session} {test : α → Bool}
    (h : passes r test = true) : ∃ a s', r = (.ok a, s') ∧ test a = true := by
  obtain ⟨outcome, s'⟩ := r
  cases outcome with
  | ok a => exact ⟨a, s', rfl, h⟩
  | error e => exact absurd h (by simp [passes])

/-- A run that failed ended somewhere. -/
theorem exists_session_of_error {r : Except RunError α × Session} {e : RunError}
    (h : r.1 = .error e) : ∃ s', r = (.error e, s') := by
  obtain ⟨outcome, s'⟩ := r
  obtain rfl : outcome = .error e := h
  exact ⟨s', rfl⟩

/-- What is caught goes on from where the run failed. -/
theorem runOn_tryCatch (x : Stage α) (f : RunError → Stage α) (s : Session) :
    (tryCatch x f).runOn s =
      match x.runOn s with
      | (.ok a, s') => (.ok a, s')
      | (.error e, s') => (f e).runOn s' := by
  rw [runOn]
  show StateT.run (ExceptT.run (ExceptT.tryCatch x f)) s = _
  rw [ExceptT.tryCatch, ExceptT.run_mk, StateT.run_bind]
  rcases h : x.runOn s with ⟨_ | _, s'⟩ <;> (rw [runOn, ExceptT.run] at h; rw [h]; rfl)

theorem runOn_map (f : α → β) (x : Stage α) (s : Session) :
    (f <$> x).runOn s =
      match x.runOn s with
      | (.ok a, s') => (.ok (f a), s')
      | (.error e, s') => (.error e, s') := by
  rw [← bind_pure_comp, runOn_bind]
  rfl

theorem runOn_discard (x : Stage α) (s : Session) :
    (discard x : Stage Unit).runOn s =
      match x.runOn s with
      | (.ok _, s') => (.ok (), s')
      | (.error e, s') => (.error e, s') := by
  exact runOn_bind x (fun _ => pure ()) s

@[simp] theorem runOn_noteAll (events : List Event) (s : Session) :
    (noteAll events).runOn s = (.ok (), s.noting events) := rfl

@[simp] theorem runOn_note (event : Event) (s : Session) :
    (note event).runOn s = (.ok (), s.noting [event]) := rfl

@[simp] theorem runOn_store (k : Key) (v : String) (s : Session) :
    (store k v).runOn s =
      (.ok (), (s.withParams (s.params.set k v)).noting [.stored k.text v]) := rfl

end Stage

/-! ## Reads -/

/-- What a read of `k` notes: the key that answered, if it is another one. -/
def readNotes (h : Hierarchy) (k : Key) : List Event :=
  match h.origin? k with
  | none => []
  | some source => if source ≠ k then [.inherited k.text source.text] else []

/-- What becomes of a value that was read and has to be interpreted. -/
def interpreted (interpret : String → Option α) (k : Key) :
    Option String → Except RunError (Option α)
  | none => .ok none
  | some v =>
    match interpret v with
    | some x => .ok (some x)
    | none => .error (.params (.invalid k.text v))

namespace Stage

@[simp] theorem runOn_read? (k : Key) (s : Session) :
    (read? k).runOn s = (.ok (s.params.get? k), s.noting (readNotes s.params k)) := by
  rw [read?, runOn_bind, runOn_get]
  dsimp only
  unfold readNotes Hierarchy.get?
  cases s.params.origin? k with
  | none => simp
  | some source =>
    -- only a value that was inherited is worth a note
    by_cases h : source = k
    · simp [h]
    · simp [h, runOn_map]

@[simp] theorem runOn_readAs? (interpret : String → Option α) (k : Key) (s : Session) :
    (readAs? interpret k).runOn s =
      (interpreted interpret k (s.params.get? k), s.noting (readNotes s.params k)) := by
  rw [readAs?, runOn_bind, runOn_read?]
  dsimp only
  cases s.params.get? k with
  | none => rfl
  | some v => cases h : interpret v <;> simp [interpreted, h]

end Stage

/-- An interpreted read that succeeds saw nothing, or a value that can be interpreted. -/
theorem interpreted_ok {interpret : String → Option α} {k : Key} {read : Option String}
    {x : Option α} (h : interpreted interpret k read = .ok x) :
    x = read.bind interpret ∧ ∀ v, read = some v → (interpret v).isSome := by
  cases read with
  | none => simpa [interpreted] using h.symm
  | some v =>
    unfold interpreted at h
    dsimp only at h
    cases hv : interpret v with
    | none => rw [hv] at h; exact absurd h (by simp)
    | some y =>
      rw [hv] at h
      simp only [Except.ok.injEq] at h
      simp [← h, hv]

theorem Stage.readAs?_ok {interpret : String → Option α} {k : Key} {x : Option α} {s s' : Session}
    (h : (readAs? interpret k).runOn s = (.ok x, s')) :
    x = (s.params.get? k).bind interpret ∧ (∀ v, s.params.get? k = some v → (interpret v).isSome)
      ∧ s' = s.noting (readNotes s.params k) := by
  rw [runOn_readAs?] at h
  obtain ⟨hread, hs⟩ := Prod.mk.inj h
  obtain ⟨hx, hall⟩ := interpreted_ok hread
  exact ⟨hx, hall, hs.symm⟩

/-- A value that cannot be interpreted is refused, with the key that was read. -/
theorem Stage.runOn_readAs?_of_none {interpret : String → Option α} {k : Key} {v : String}
    {s : Session} (hread : s.params.get? k = some v) (hv : interpret v = none) :
    (readAs? interpret k).runOn s =
      (.error (.params (.invalid k.text v)), s.noting (readNotes s.params k)) := by
  rw [runOn_readAs?, hread, interpreted, hv]

/-! ## Merging -/

/-- What storing assignments notes. -/
def storeNotes (as : List (Key × String)) : List Event := as.map fun a => .stored a.1.text a.2

namespace Stage

@[simp] theorem runOn_storeAll (as : List (Key × String)) (s : Session) :
    (storeAll as).runOn s =
      (.ok (), (s.withParams (s.params.setAll as)).noting (storeNotes as)) := by
  induction as generalizing s with
  | nil => simp [storeAll, storeNotes, Hierarchy.setAll]
  | cons a as ih =>
    rw [storeAll, runOn_bind_of_ok (runOn_store a.1 a.2 s), ih]
    simp [storeNotes, Hierarchy.setAll]

theorem runOn_mergeFile (file : Path) (s : Session) :
    (mergeFile file).runOn s =
      match assignmentsIn s.files file with
      | .error cause => (.error (.params cause), s.noting [.readingFile file])
      | .ok as =>
        (.ok (), (s.withParams (s.params.setAll as)).noting (.readingFile file :: storeNotes as)) := by
  rw [mergeFile, runOn_bind_of_ok (runOn_note _ s), runOn_bind_of_ok (runOn_get _)]
  simp only [Session.noting_files]
  cases assignmentsIn s.files file with
  | error cause => rfl
  | ok as => simp

/-- A file that can be read is merged. -/
theorem runOn_mergeFile_of_ok {file : Path} {as : List (Key × String)} {s : Session}
    (h : assignmentsIn s.files file = .ok as) :
    (mergeFile file).runOn s =
      (.ok (), (s.withParams (s.params.setAll as)).noting (.readingFile file :: storeNotes as)) := by
  rw [runOn_mergeFile, h]

theorem runOn_mergeOptions (options : List String) (s : Session) :
    (mergeOptions options).runOn s =
      match Assignment.ofOptions options with
      | .error fault => (.error (.params (.malformed "command line" fault)), s)
      | .ok as => (.ok (), (s.withParams (s.params.setAll as)).noting (storeNotes as)) := by
  unfold mergeOptions
  cases Assignment.ofOptions options with
  | error fault => rfl
  | ok as => simp

end Stage

/-! ## Stages that change nothing -/

namespace Stage

/-- On every session with these parameters and files, the stage answers `a` and changes
nothing; it may note events. -/
def Answers (x : Stage α) (h : Hierarchy) (files : FileSystem) (a : α) : Prop :=
  ∀ s : Session, s.params = h → s.files = files → ∃ events, x.runOn s = (.ok a, s.noting events)

variable {h : Hierarchy} {files : FileSystem}

theorem answers_pure (a : α) : Answers (pure a : Stage α) h files a := by
  intro s _ _
  exact ⟨[], by rw [runOn_pure, Session.noting_nil]⟩

theorem answers_note (event : Event) : Answers (note event) h files () := by
  intro s _ _
  exact ⟨[event], runOn_note event s⟩

theorem answers_read? (k : Key) : Answers (read? k) h files (h.get? k) := by
  intro s hs _
  subst hs
  exact ⟨readNotes s.params k, runOn_read? k s⟩

/-- An interpreted read answers where it sees nothing, or something that can be interpreted. -/
theorem answers_readAs? {interpret : String → Option α} {k : Key}
    (hall : ∀ v, h.get? k = some v → (interpret v).isSome) :
    Answers (readAs? interpret k) h files ((h.get? k).bind interpret) := by
  intro s hs _
  subst hs
  refine ⟨readNotes s.params k, ?_⟩
  rw [runOn_readAs?]
  cases hv : s.params.get? k with
  | none => rfl
  | some v =>
    obtain ⟨x, hx⟩ := Option.isSome_iff_exists.1 (hall v hv)
    rw [Option.bind_some, interpreted, hx]

theorem Answers.bind {x : Stage α} {f : α → Stage β} {a : α} {b : β} (hx : Answers x h files a)
    (hf : Answers (f a) h files b) : Answers (x >>= f) h files b := by
  intro s hs hfiles
  obtain ⟨events, hrun⟩ := hx s hs hfiles
  -- what was noted does not keep the rest from answering
  obtain ⟨more, hrest⟩ := hf (s.noting events) hs hfiles
  refine ⟨events ++ more, ?_⟩
  rw [runOn_bind_of_ok hrun, hrest, Session.noting_noting]

theorem answers_get_bind {f : Session → Stage β} {b : β}
    (hf : ∀ s, s.params = h → s.files = files → Answers (f s) h files b) :
    Answers (get >>= f) h files b := by
  intro s hs hfiles
  obtain ⟨events, hrun⟩ := hf s hs hfiles s hs hfiles
  exact ⟨events, by rw [runOn_bind_of_ok (runOn_get s), hrun]⟩

end Stage

/-! ## Stages that change parameters -/

namespace Stage

/-- On every session with these parameters and files, the stage answers `a` and takes the
parameters to `h'`; it may note events. -/
def Takes (x : Stage α) (h : Hierarchy) (files : FileSystem) (a : α) (h' : Hierarchy) : Prop :=
  ∀ s : Session, s.params = h → s.files = files →
    ∃ events, x.runOn s = (.ok a, (s.withParams h').noting events)

variable {h h' : Hierarchy} {files : FileSystem}

/-- A stage that changes nothing takes the parameters to themselves. -/
theorem Answers.takes {x : Stage α} {a : α} (hx : Answers x h files a) : Takes x h files a h := by
  intro s hs hfiles
  subst hs
  exact hx s rfl hfiles

/-- And one that takes the parameters to themselves changes nothing. -/
theorem Takes.answers {x : Stage α} {a : α} (hx : Takes x h files a h) : Answers x h files a := by
  intro s hs hfiles
  subst hs
  exact hx s rfl hfiles

theorem takes_store (k : Key) (v : String) : Takes (store k v) h files () (h.set k v) := by
  intro s hs _
  subst hs
  exact ⟨_, runOn_store k v s⟩

theorem takes_mergeFile {file : Path} {as : List (Key × String)}
    (hread : assignmentsIn files file = .ok as) :
    Takes (mergeFile file) h files () (h.setAll as) := by
  intro s hs hfiles
  subst hs hfiles
  exact ⟨_, runOn_mergeFile_of_ok hread⟩

theorem Takes.bind {x : Stage α} {f : α → Stage β} {a : α} {b : β} {h'' : Hierarchy}
    (hx : Takes x h files a h') (hf : Takes (f a) h' files b h'') :
    Takes (x >>= f) h files b h'' := by
  intro s hs hfiles
  obtain ⟨events, hrun⟩ := hx s hs hfiles
  obtain ⟨more, hrest⟩ := hf ((s.withParams h').noting events) rfl hfiles
  refine ⟨events ++ more, ?_⟩
  rw [runOn_bind_of_ok hrun, hrest, Session.noting_withParams, Session.noting_noting,
    Session.withParams_withParams]

end Stage

/-! ## Steps that a relation allows -/

/-- The event tells of a parameter that was written or removed. -/
def Event.tellsWrite : Event → Bool
  | .stored .. | .ignoredForServer .. => true
  | _ => false

theorem readNotes_tellNoWrite (h : Hierarchy) (k : Key) :
    ∀ event ∈ readNotes h k, event.tellsWrite = false := by
  unfold readNotes
  split
  · exact List.forall_mem_nil _
  · split
    · exact List.forall_mem_singleton.2 rfl
    · exact List.forall_mem_nil _

/-- A way to compare sessions that composes and looks in the journal for writes alone. -/
class WriteRelation (R : Session → Session → Prop) : Prop where
  trans : ∀ {s₁ s₂ s₃ : Session}, R s₁ s₂ → R s₂ s₃ → R s₁ s₃
  noting : ∀ (s : Session) {events : List Event}, (∀ event ∈ events, event.tellsWrite = false) →
    R s (s.noting events)

theorem WriteRelation.refl {R : Session → Session → Prop} [WriteRelation R] (s : Session) :
    R s s := by
  simpa using WriteRelation.noting (R := R) s (List.forall_mem_nil _)

/-- A way to compare sessions that composes and does not look at the journal. -/
class StepRelation (R : Session → Session → Prop) : Prop where
  trans : ∀ {s₁ s₂ s₃ : Session}, R s₁ s₂ → R s₂ s₃ → R s₁ s₃
  noting : ∀ (s : Session) (events : List Event), R s (s.noting events)

instance {R : Session → Session → Prop} [StepRelation R] : WriteRelation R where
  trans := StepRelation.trans
  noting s events _ := StepRelation.noting s events

theorem StepRelation.refl {R : Session → Session → Prop} [StepRelation R] (s : Session) :
    R s s := WriteRelation.refl s

namespace Stage

/-- Whatever its outcome, the stage only makes steps that the relation allows. -/
def Moves (R : Session → Session → Prop) (x : Stage α) : Prop := ∀ s, R s (x.runOn s).2

section
variable {R : Session → Session → Prop} [WriteRelation R]

theorem moves_pure (a : α) : Moves R (pure a : Stage α) := fun s => WriteRelation.refl s

theorem moves_throw (e : RunError) : Moves R (throw e : Stage α) := fun s => WriteRelation.refl s

theorem moves_get : Moves R (get : Stage Session) := fun s => WriteRelation.refl s

theorem moves_noteAll {events : List Event} (h : ∀ event ∈ events, event.tellsWrite = false) :
    Moves R (noteAll events) :=
  fun s => WriteRelation.noting s h

theorem moves_note {event : Event} (h : event.tellsWrite = false) : Moves R (note event) :=
  moves_noteAll (List.forall_mem_singleton.2 h)

theorem moves_read? (k : Key) : Moves R (read? k) := by
  intro s
  rw [runOn_read?]
  exact WriteRelation.noting s (readNotes_tellNoWrite _ _)

theorem moves_readAs? (interpret : String → Option α) (k : Key) :
    Moves R (readAs? interpret k) := by
  intro s
  rw [runOn_readAs?]
  exact WriteRelation.noting s (readNotes_tellNoWrite _ _)

theorem Moves.bind {x : Stage α} {f : α → Stage β} (hx : Moves R x) (hf : ∀ a, Moves R (f a)) :
    Moves R (x >>= f) := by
  intro s
  rw [runOn_bind]
  have h := hx s
  rcases hr : x.runOn s with ⟨_ | a, s'⟩
  · -- a run that failed made its steps all the same
    rw [hr] at h
    exact h
  · rw [hr] at h
    exact WriteRelation.trans h (hf a s')

omit [WriteRelation R] in
theorem Moves.discard {x : Stage α} (hx : Moves R x) : Moves R (discard x : Stage Unit) := by
  intro s
  have h := hx s
  rw [runOn_discard]
  rcases hr : x.runOn s with ⟨_ | a, s'⟩ <;> rw [hr] at h <;> exact h

theorem moves_storeIfMissing {k : Key} {v : String} (h : Moves R (store k v)) :
    Moves R (storeIfMissing k v) := by
  refine (moves_read? k).bind fun o => ?_
  cases o with
  | none => exact h.bind fun _ => moves_pure _
  | some _ => exact moves_pure _

theorem moves_storeAll {as : List (Key × String)} (h : ∀ a ∈ as, Moves R (store a.1 a.2)) :
    Moves R (storeAll as) := by
  induction as with
  | nil => exact moves_pure _
  | cons a as ih =>
    exact (h a List.mem_cons_self).bind fun _ => ih fun b hb => h b (List.mem_cons_of_mem _ hb)

end

/-- The step of a run that is known. -/
theorem Moves.step {R : Session → Session → Prop} {x : Stage α} (hx : Moves R x) {s s' : Session}
    {r : Except RunError α} (h : x.runOn s = (r, s')) : R s s' := by
  have := hx s
  rwa [h] at this

end Stage

end SieveRun
