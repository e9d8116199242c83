import SieveRun.Proofs.Reading
import SieveRun.Proofs.Stage
import SieveRun.Proofs.Store

/-!
# What a stage may change

Two relations between the sessions before and after a stage carry most of what one stage
has to know of another. `Writes may` bounds a stage from above: it leaves everything outside
of the parameters alone, and of these only the ones that `may` allows change. `Grows` bounds
it from below: what was stored still has a value, and keys stay well-formed. Both hold of a
sequence of stages when they hold of each one.
-/

namespace SieveRun

open Stage Hierarchy Assignment

/-- A store that changes nothing. -/
theorem answers_store {h : Hierarchy} {files : FileSystem} {k : Key} {v : String}
    (hv : h.value? k = some v) : Answers (store k v) h files () := by
  have htakes : Takes (store k v) h files () (h.set k v) := takes_store k v
  rw [set_of_value? hv] at htakes
  exact htakes.answers

/-! ## An upper bound -/

/-- The files and the scratch directories stay, and only parameters under keys that may be
written change. -/
structure Writes (may : Key → Prop) (s s' : Session) : Prop where
  params : ∀ k, ¬ may k → s'.params.value? k = s.params.value? k
  files : s'.files = s.files
  scratch : s'.scratch = s.scratch

/-- All parameters may be written. -/
def anyKey (_ : Key) : Prop := True

/-- Whatever becomes of the parameters, the rest stays. -/
theorem writes_anyKey {s s' : Session} (hfiles : s'.files = s.files)
    (hscratch : s'.scratch = s.scratch) : Writes anyKey s s' :=
  ⟨fun _ hk => absurd trivial hk, hfiles, hscratch⟩

variable {may : Key → Prop}

instance : StepRelation (Writes may) where
  trans h₁ h₂ :=
    ⟨fun k hk => (h₂.params k hk).trans (h₁.params k hk), h₂.files.trans h₁.files,
      h₂.scratch.trans h₁.scratch⟩
  noting _ _ := ⟨fun _ _ => rfl, rfl, rfl⟩

/-- What may write less may write more. -/
theorem Stage.Moves.anyKey {α : Type} {x : Stage α} (hx : Moves (Writes may) x) :
    Moves (Writes anyKey) x := fun s => writes_anyKey (hx s).files (hx s).scratch

theorem moves_writes_store {k : Key} (hk : may k) (v : String) :
    Moves (Writes may) (store k v) := by
  intro s
  refine ⟨fun k' hk' => ?_, rfl, rfl⟩
  have hne : k' ≠ k := fun he => hk' (he ▸ hk)
  exact value?_set_ne _ _ hne

/-- A read of a key none of whose sources may be written. -/
theorem Writes.get? {s s' : Session} (h : Writes may s s') {k : Key}
    (hk : ∀ source ∈ k.sources, ¬ may source) : s'.params.get? k = s.params.get? k :=
  get?_congr fun source hs => h.params source (hk source hs)

/-! ## A lower bound -/

/-- What is stored keeps a value, and well-formed keys are only joined by well-formed keys. -/
structure Grows (s s' : Session) : Prop where
  wellFormed : s.params.WellFormed → s'.params.WellFormed
  stored : ∀ k, (s.params.value? k).isSome → (s'.params.value? k).isSome

instance : StepRelation Grows where
  trans h₁ h₂ :=
    ⟨fun h => h₂.wellFormed (h₁.wellFormed h), fun k hk => h₂.stored k (h₁.stored k hk)⟩
  noting _ _ := ⟨id, fun _ => id⟩

/-- A step that leaves the parameters alone. -/
theorem Grows.of_params {s s' : Session} (h : s'.params = s.params) : Grows s s' :=
  ⟨fun hw => by rwa [h], fun k hk => by rwa [h]⟩

theorem moves_grows_files (files : FileSystem) :
    Moves Grows (modify fun s => { s with files := files }) := fun _ => Grows.of_params rfl

theorem moves_grows_store {k : Key} (hk : k.isWellFormed = true) (v : String) :
    Moves Grows (store k v) := by
  intro s
  refine ⟨fun hw => hw.set hk v, fun k' hk' => ?_⟩
  show ((s.params.set k v).value? k').isSome
  rw [value?_set]
  split
  · rfl
  · exact hk'

/-- What was read from a file was read from its text. -/
theorem ofText_of_assignmentsIn {files : FileSystem} {file : Path} {as : List (Key × String)}
    (h : assignmentsIn files file = .ok as) : ∃ text, ofText text = .ok as := by
  unfold assignmentsIn at h
  split at h
  · exact absurd h (by simp)
  · rename_i text _
    split at h
    · exact absurd h (by simp)
    · rename_i bs htext
      exact ⟨text, by rw [htext, Except.ok.inj h]⟩

theorem assignmentsIn_wellFormed {files : FileSystem} {file : Path} {as : List (Key × String)}
    (h : assignmentsIn files file = .ok as) : ∀ a ∈ as, a.1.isWellFormed = true := by
  obtain ⟨text, htext⟩ := ofText_of_assignmentsIn h
  exact ofLines_wellFormed htext

/-! ## Merges -/

section
variable {R : Session → Session → Prop} [WriteRelation R]

/-- Merging a file stores at well-formed keys alone. -/
theorem moves_mergeFile (h : ∀ k v, k.isWellFormed = true → Moves R (store k v)) (file : Path) :
    Moves R (mergeFile file) := by
  refine (moves_note rfl).bind fun _ => ?_
  intro s
  rw [runOn_bind_of_ok (runOn_get s)]
  -- the reading is noted even where the file cannot be read
  cases has : assignmentsIn s.files file with
  | error cause => exact moves_throw _ s
  | ok as =>
    exact moves_storeAll (fun a ha => h a.1 a.2 (assignmentsIn_wellFormed has a ha)) s

theorem moves_mergeOptions (h : ∀ k v, k.isWellFormed = true → Moves R (store k v))
    (options : List String) : Moves R (mergeOptions options) := by
  unfold mergeOptions
  cases has : ofOptions options with
  | error fault => exact moves_throw _
  | ok as => exact moves_storeAll fun a ha => h a.1 a.2 (ofLines_wellFormed has a ha)

end

theorem moves_grows_mergeOptions (options : List String) : Moves Grows (mergeOptions options) :=
  moves_mergeOptions (fun _ v hk => moves_grows_store hk v) options

theorem mergeFile_ok {file : Path} {s s' : Session}
    (h : (mergeFile file).runOn s = (.ok (), s')) :
    ∃ as events, assignmentsIn s.files file = .ok as
      ∧ s' = (s.withParams (s.params.setAll as)).noting events := by
  rw [runOn_mergeFile] at h
  cases ha : assignmentsIn s.files file with
  | error cause => rw [ha] at h; exact absurd h (by simp)
  | ok as =>
    rw [ha] at h
    exact ⟨as, _, rfl, (Prod.mk.inj h).2.symm⟩

theorem runOn_mergeOptions_ok_iff {options : List String} {s s' : Session} :
    (mergeOptions options).runOn s = (.ok (), s') ↔
      ∃ as, ofOptions options = .ok as
        ∧ s' = (s.withParams (s.params.setAll as)).noting (storeNotes as) := by
  rw [runOn_mergeOptions]
  cases ofOptions options with
  | error fault => simp
  | ok as => simp [eq_comm]

theorem mergeOptions_ok {options : List String} {s s' : Session}
    (h : (mergeOptions options).runOn s = (.ok (), s')) :
    ∃ as, ofOptions options = .ok as ∧ s'.params = s.params.setAll as ∧ s'.files = s.files := by
  obtain ⟨as, has, rfl⟩ := runOn_mergeOptions_ok_iff.1 h
  exact ⟨as, has, rfl, rfl⟩

end SieveRun
