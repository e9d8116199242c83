import SieveRun.Proofs.Changes
import SieveRun.Proofs.Reading
import SieveRun.Proofs.Stage

/-!
# Merging call after call

A merge takes its assignments from a file or from a list of options (`Merge`). It reads all of them
before it stores the first, so a call either fails and leaves what is stored alone or stores all
that it read (`Merge.runOn_cases`).

Storing is by the last assignment of each key (`Merged`), and this composes: storing one list after
another is storing them as one (`Hierarchy.setAll_append`). So what any sequence of calls makes of a
hierarchy is one merge of all that the calls which succeeded have read (`MergeRun.eq_setAll`).
-/

namespace SieveRun

open Stage Assignment Hierarchy

/-! ## One call -/

/-- What is merged. -/
inductive Merge where
  | file (file : Path)
  | options (options : List String)
  deriving DecidableEq, Repr

namespace Merge

variable {m : Merge} {files : FileSystem} {as : List (Key × String)} {s : Session}

/-- The call that merges it. -/
def stage : Merge → Stage Unit
  | file path => mergeFile path
  | options texts => mergeOptions texts

/-- The assignments in it, or why there are none. -/
def read (files : FileSystem) : Merge → Except ParameterError (List (Key × String))
  | file path => assignmentsIn files path
  | options texts => (ofOptions texts).mapError (.malformed "command line")

theorem read_wellFormed (h : m.read files = .ok as) : ∀ a ∈ as, a.1.isWellFormed = true := by
  cases m with
  | file path => exact assignmentsIn_wellFormed h
  | options texts =>
    rw [read] at h
    cases htexts : ofOptions texts with
    | error fault => rw [htexts] at h; exact absurd h (by simp [Except.mapError])
    | ok bs =>
      rw [htexts] at h
      obtain rfl := Except.ok.inj h
      exact ofLines_wellFormed htexts

/-- **A call fails and stores nothing, or it stores all that it read.** -/
theorem runOn_cases (m : Merge) (s : Session) :
    ∃ events,
      (∃ cause, m.read s.files = .error cause
        ∧ m.stage.runOn s = (.error (.params cause), s.noting events))
      ∨ ∃ as, m.read s.files = .ok as
        ∧ m.stage.runOn s = (.ok (), (s.withParams (s.params.setAll as)).noting events) := by
  cases m with
  | file path =>
    rw [stage, read, runOn_mergeFile]
    cases assignmentsIn s.files path with
    | error cause => exact ⟨_, .inl ⟨cause, rfl, rfl⟩⟩
    | ok as => exact ⟨_, .inr ⟨as, rfl, rfl⟩⟩
  | options texts =>
    rw [stage, read, runOn_mergeOptions]
    cases ofOptions texts with
    | error fault => exact ⟨[], .inl ⟨_, rfl, by rw [Session.noting_nil]⟩⟩
    | ok as => exact ⟨_, .inr ⟨as, rfl, rfl⟩⟩

/-- What a call has to store: all that it read, if it could. -/
def accepted (files : FileSystem) (m : Merge) : List (Key × String) :=
  (m.read files).toOption.getD []

theorem params_runOn (m : Merge) (s : Session) :
    (m.stage.runOn s).2.params = s.params.setAll (m.accepted s.files) := by
  obtain ⟨events, ⟨cause, hread, hrun⟩ | ⟨as, hread, hrun⟩⟩ := m.runOn_cases s <;>
    (rw [hrun, accepted, hread]; rfl)

theorem accepted_wellFormed : ∀ a ∈ m.accepted files, a.1.isWellFormed = true := by
  rw [accepted]
  cases hread : m.read files with
  | error cause => exact fun a ha => absurd ha (by simp [Except.toOption])
  | ok as => exact read_wellFormed hread

end Merge

/-! ## What is stored -/

/-- The hierarchy after the assignments were stored: each key has the value of its last
assignment, and keys without one are as before. -/
structure Merged (h : Hierarchy) (as : List (Key × String)) (h' : Hierarchy) : Prop where
  lastWins : ∀ before k v after, as = before ++ (k, v) :: after → (∀ w, (k, w) ∉ after) →
    h'.value? k = some v
  othersKept : ∀ k, (∀ v, (k, v) ∉ as) → h'.value? k = h.value? k

theorem merged_setAll (h : Hierarchy) (as : List (Key × String)) : Merged h as (h.setAll as) where
  lastWins before k v after hsplit hafter := by
    rw [value?_setAll, hsplit, last?_of_split before hafter, Option.some_or]
  othersKept k hk := by rw [value?_setAll, last?_eq_none_iff.2 hk, Option.none_or]

/-! ## Options in one list or two -/

theorem ofOptions_append_eq_ok_iff {xs ys : List String} {as : List (Key × String)} :
    ofOptions (xs ++ ys) = .ok as ↔
      ∃ bs cs, ofOptions xs = .ok bs ∧ ofOptions ys = .ok cs ∧ as = bs ++ cs := by
  rw [ofOptions, List.map_append, ofLines_append_eq_ok_iff]
  rfl

/-- Options are merged in one list exactly when they are in two, and to the same effect. -/
theorem runOn_mergeOptions_append {xs ys : List String} {s s' : Session} :
    (mergeOptions (xs ++ ys)).runOn s = (.ok (), s') ↔
      ∃ s₁, (mergeOptions xs).runOn s = (.ok (), s₁)
        ∧ (mergeOptions ys).runOn s₁ = (.ok (), s') := by
  simp only [runOn_mergeOptions_ok_iff, ofOptions_append_eq_ok_iff]
  constructor
  · rintro ⟨as, ⟨bs, cs, hbs, hcs, rfl⟩, rfl⟩
    refine ⟨_, ⟨bs, hbs, rfl⟩, cs, hcs, ?_⟩
    simp [setAll_append, storeNotes]
  · rintro ⟨s₁, ⟨bs, hbs, rfl⟩, cs, hcs, rfl⟩
    refine ⟨bs ++ cs, ⟨bs, cs, hbs, hcs, rfl⟩, ?_⟩
    simp [setAll_append, storeNotes]

/-! ## Calls in sequence -/

/-- What calls in sequence make of a hierarchy. Between two calls the files may change, and so may
all of a session besides the parameters. -/
inductive MergeRun (h : Hierarchy) : List (FileSystem × Merge) → Hierarchy → Prop
  | start : MergeRun h [] h
  | call {calls : List (FileSystem × Merge)} {s : Session} : MergeRun h calls s.params →
      ∀ m : Merge, MergeRun h (calls ++ [(s.files, m)]) (m.stage.runOn s).2.params

/-- All that the calls have to store, in order. -/
def acceptedIn (calls : List (FileSystem × Merge)) : List (Key × String) :=
  calls.flatMap fun call => call.2.accepted call.1

/-- A sequence of calls is one merge. The induction is on the calls, and the last of them stores on
top of what is stored by then. -/
theorem MergeRun.eq_setAll {h h' : Hierarchy} {calls : List (FileSystem × Merge)}
    (hrun : MergeRun h calls h') : h' = h.setAll (acceptedIn calls) := by
  induction hrun with
  | start => rfl
  | @call calls s _ m ih =>
    rw [m.params_runOn, ih, acceptedIn, acceptedIn, List.flatMap_append, setAll_append]
    simp

theorem acceptedIn_wellFormed (calls : List (FileSystem × Merge)) :
    ∀ a ∈ acceptedIn calls, a.1.isWellFormed = true := by
  intro a ha
  obtain ⟨call, -, ha⟩ := List.mem_flatMap.1 ha
  exact Merge.accepted_wellFormed a ha

/-- **Merging is atomic, and the last assignment wins.** Whatever calls led to a hierarchy, the next
one fails for what it cannot read and leaves what is stored as it is, or it stores each assigned key
under the value of its last assignment and leaves the other keys alone. Options are merged in one
call as in two, where both are accepted. The calls together are a merge of all that was accepted of
them, and from well-formed keys they lead to well-formed keys. -/
theorem merged_atomically {h h' : Hierarchy} {calls : List (FileSystem × Merge)}
    (hrun : MergeRun h calls h') :
    (∀ (m : Merge) (s : Session), s.params = h' →
        (∃ cause events, m.read s.files = .error cause
            ∧ m.stage.runOn s = (.error (.params cause), s.noting events))
          ∨ ∃ as h'' events, m.read s.files = .ok as
            ∧ m.stage.runOn s = (.ok (), (s.withParams h'').noting events) ∧ Merged h' as h'')
      ∧ (∀ (m : Merge) (s s' : Session) (e : RunError), s.params = h' →
          m.stage.runOn s = (.error e, s') → s'.params = h')
      ∧ (∀ (xs ys : List String) (s s' : Session), s.params = h' →
          ((mergeOptions (xs ++ ys)).runOn s = (.ok (), s') ↔
            ∃ s₁, (mergeOptions xs).runOn s = (.ok (), s₁)
              ∧ (mergeOptions ys).runOn s₁ = (.ok (), s')))
      ∧ Merged h (acceptedIn calls) h'
      ∧ (h.WellFormed → h'.WellFormed) := by
  refine ⟨fun m s hs => ?_, fun m s s' e hs he => ?_,
    fun xs ys s s' _ => runOn_mergeOptions_append, ?_, fun hw => ?_⟩
  · subst hs
    obtain ⟨events, ⟨cause, hread, hstage⟩ | ⟨as, hread, hstage⟩⟩ := m.runOn_cases s
    · exact .inl ⟨cause, events, hread, hstage⟩
    · exact .inr ⟨as, _, events, hread, hstage, merged_setAll s.params as⟩
  · obtain ⟨events, ⟨cause, -, hstage⟩ | ⟨as, -, hstage⟩⟩ := m.runOn_cases s
    · obtain ⟨-, rfl⟩ := Prod.mk.inj (he.symm.trans hstage)
      exact hs
    · exact absurd (he.symm.trans hstage) (by simp)
  · rw [hrun.eq_setAll]
    exact merged_setAll h _
  · rw [hrun.eq_setAll]
    exact hw.setAll (acceptedIn_wellFormed calls)

/-- A parameter file with a remark. -/
def smallFile : FileSystem :=
  ⟨[([Text.utf8 "c60"], .file (Text.utf8 "tasks.threads = 4\nname = c60  # short\n"))], []⟩

/-- The file, options over it that assign a name twice, and options with a mistake at the end. -/
def smallMerges : List Merge :=
  [.file (Path.ofText "/c60"), .options ["tasks.threads=8", "name=mine", "name=final"],
    .options ["name=late", "tasks.threads"]]

theorem smallMerges_merged :
    ∃ h', MergeRun .empty (smallMerges.map fun m => (smallFile, m)) h'
      ∧ h'.value? ⟨["tasks"], "threads"⟩ = some "8" ∧ h'.value? ⟨[], "name"⟩ = some "final"
      ∧ h'.WellFormed := by
  have hcall : ∀ {calls h}, MergeRun .empty calls h → ∀ m : Merge,
      ∃ h', MergeRun .empty (calls ++ [(smallFile, m)]) h' := fun {_ h} hrun m =>
    ⟨_, .call (s := (Session.ofFiles smallFile).withParams h) hrun m⟩
  obtain ⟨_, hrun₁⟩ := hcall .start (.file (Path.ofText "/c60"))
  obtain ⟨_, hrun₂⟩ := hcall hrun₁ (.options ["tasks.threads=8", "name=mine", "name=final"])
  obtain ⟨h', hrun₃⟩ := hcall hrun₂ (.options ["name=late", "tasks.threads"])
  obtain ⟨-, -, -, hmerged, hwell⟩ := merged_atomically hrun₃
  -- nothing of the last call is among what was accepted
  have haccepted : acceptedIn (smallMerges.map fun m => (smallFile, m)) =
      [(⟨["tasks"], "threads"⟩, "4"), (⟨[], "name"⟩, "c60"), (⟨["tasks"], "threads"⟩, "8"),
        (⟨[], "name"⟩, "mine"), (⟨[], "name"⟩, "final")] := by decide +kernel
  refine ⟨h', hrun₃, ?_, ?_, hwell wellFormed_empty⟩
  · exact hmerged.lastWins [_, _] _ _ [_, _] haccepted (by simp)
  · exact hmerged.lastWins [_, _, _, _] _ _ [] haccepted (by simp)

end SieveRun
