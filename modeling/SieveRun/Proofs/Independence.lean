import SieveRun.Input.Decided
import SieveRun.Proofs.Changes

/-!
# What a stage does not look at

Two runs are compared that start from sessions which agree in all but the journal and some
parameters (`SameBut`). Two stages are alike if these runs end with the same outcome, and in
sessions that agree as well as the first two did (`Stage.Alike`). A stage that is alike to
itself ignores the journal and these parameters (`Stage.Ignores`). No stage looks at the
journal, so what has to be known of a stage is the keys that it reads. Writes need no condition:
they make the sessions agree where they were told apart.
-/

namespace SieveRun

open Stage Hierarchy

variable {may : Key → Prop} {s t s' : Session} {α β : Type}

/-- The sessions agree in all but the journal and the parameters that `may` names: as far as
that goes, one could come from the other by writing. -/
abbrev SameBut (may : Key → Prop) (s t : Session) : Prop := Writes may s t

/-- No parameter is set apart. -/
def noKey (_ : Key) : Prop := False

theorem SameBut.symm (h : SameBut may s t) : SameBut may t s :=
  ⟨fun k hk => (h.params k hk).symm, h.files.symm, h.scratch.symm⟩

theorem SameBut.noting (h : SameBut may s t) (events more : List Event) :
    SameBut may (s.noting events) (t.noting more) := ⟨h.params, h.files, h.scratch⟩

/-- Sessions that agree in all parameters agree in most. -/
theorem SameBut.of_noKey (h : SameBut noKey s t) : SameBut may s t :=
  ⟨fun k _ => h.params k id, h.files, h.scratch⟩

namespace Stage

/-- The stages differ at most in what they note and in the parameters that `may` names: from
sessions that agree in the rest they come to the same outcome and to such sessions again. -/
def Alike (may : Key → Prop) (x y : Stage α) : Prop :=
  ∀ s t, SameBut may s t →
    (x.runOn s).1 = (y.runOn t).1 ∧ SameBut may (x.runOn s).2 (y.runOn t).2

/-- Neither the outcome nor what happens to the rest of the session depends on the journal or
on the parameters that `may` names. -/
abbrev Ignores (may : Key → Prop) (x : Stage α) : Prop := Alike may x x

/-- A known run is repeated on the other session. -/
theorem Alike.run {x y : Stage α} (hxy : Alike may x y) (hst : SameBut may s t)
    {r : Except RunError α} (h : x.runOn s = (r, s')) :
    ∃ t', y.runOn t = (r, t') ∧ SameBut may s' t' := by
  obtain ⟨hr, hs'⟩ := hxy s t hst
  rw [h] at hr hs'
  exact ⟨(y.runOn t).2, Prod.ext hr.symm rfl, hs'⟩

/-! ## The primitives -/

theorem ignores_pure (a : α) : Ignores may (pure a : Stage α) := fun _ _ h => ⟨rfl, h⟩

theorem ignores_throw (e : RunError) : Ignores may (throw e : Stage α) := fun _ _ h => ⟨rfl, h⟩

theorem ignores_noteAll (events : List Event) : Ignores may (noteAll events) :=
  fun _ _ h => ⟨rfl, h.noting _ _⟩

theorem ignores_note (event : Event) : Ignores may (note event) := ignores_noteAll [event]

theorem ignores_store (k : Key) (v : String) : Ignores may (store k v) := by
  intro s t h
  refine ⟨rfl, fun k' hk' => ?_, h.files, h.scratch⟩
  show (t.params.set k v).value? k' = (s.params.set k v).value? k'
  rw [value?_set, value?_set, h.params k' hk']

theorem ignores_read? {k : Key} (hk : ∀ source ∈ k.sources, ¬ may source) :
    Ignores may (read? k) := by
  intro s t h
  rw [runOn_read?, runOn_read?, Writes.get? h hk]
  exact ⟨rfl, h.noting _ _⟩

theorem ignores_setFiles (files : FileSystem) :
    Ignores may (modify fun s => { s with files := files }) :=
  fun _ _ h => ⟨rfl, h.params, rfl, h.scratch⟩

theorem ignores_track (p : Path) : Ignores may (track p) := by
  intro s t h
  refine ⟨rfl, h.params, h.files, ?_⟩
  show tracked t.scratch p = tracked s.scratch p
  rw [h.scratch]

theorem Alike.bind {x y : Stage α} {f g : α → Stage β} (hxy : Alike may x y)
    (hfg : ∀ a, Alike may (f a) (g a)) : Alike may (x >>= f) (y >>= g) := by
  intro s t hst
  cases hrun : x.runOn s with
  | mk r s₁ =>
    obtain ⟨t₁, hrun', hst₁⟩ := hxy.run hst hrun
    rw [runOn_bind, runOn_bind, hrun, hrun']
    cases r with
    | error e => exact ⟨rfl, hst₁⟩
    | ok a => exact hfg a s₁ t₁ hst₁

/-- What is done with a session is the same where all that is looked at is. -/
theorem alike_get_bind_of_sameBut {f g : Session → Stage β}
    (hcongr : ∀ s t, SameBut may s t → f s = f t) (hfg : ∀ s, Alike may (f s) (g s)) :
    Alike may (get >>= f) (get >>= g) := by
  intro s t hst
  rw [runOn_bind_of_ok (runOn_get s), runOn_bind_of_ok (runOn_get t), hcongr s t hst]
  exact hfg t s t hst

/-- What is done with the files is the same where the files are. -/
theorem alike_get_bind {f g : Session → Stage β}
    (hcongr : ∀ s t : Session, s.files = t.files → f s = f t)
    (hfg : ∀ s, Alike may (f s) (g s)) : Alike may (get >>= f) (get >>= g) :=
  alike_get_bind_of_sameBut (fun s t hst => hcongr s t hst.files.symm) hfg

theorem ignores_readAs? {interpret : String → Option α} {k : Key}
    (hk : ∀ source ∈ k.sources, ¬ may source) : Ignores may (readAs? interpret k) := by
  refine (ignores_read? hk).bind fun value => ?_
  cases value with
  | none => exact ignores_pure _
  | some v =>
    dsimp only
    split
    · exact ignores_pure _
    · exact ignores_throw _

theorem Ignores.discard {x : Stage α} (hx : Ignores may x) :
    Ignores may (discard x : Stage Unit) :=
  hx.bind fun _ => ignores_pure ()

theorem ignores_storeIfMissing {k : Key} (hk : ∀ source ∈ k.sources, ¬ may source) (v : String) :
    Ignores may (storeIfMissing k v) := by
  refine (ignores_read? hk).bind fun value => ?_
  cases value with
  | none => exact (ignores_store k v).bind fun _ => ignores_pure _
  | some _ => exact ignores_pure _

theorem ignores_storeAll (as : List (Key × String)) : Ignores may (storeAll as) := by
  induction as with
  | nil => exact ignores_pure ()
  | cons a as ih => exact (ignores_store a.1 a.2).bind fun _ => ih

theorem ignores_mergeFile (file : Path) : Ignores may (mergeFile file) := by
  refine (ignores_note _).bind fun _ => ?_
  refine alike_get_bind (fun s t h => by rw [h]) fun s => ?_
  split
  · exact ignores_throw _
  · exact ignores_storeAll _

end Stage

/-! ## Number and parameter file -/

theorem ignores_find (defaults : ShippedFiles) (n : Number) :
    Ignores may (defaults.find n) := by
  refine (ignores_note _).bind fun _ => alike_get_bind (fun s t h => by rw [h]) fun s => ?_
  split
  · exact (ignores_note _).bind fun _ => ignores_pure _
  · exact ignores_throw _

theorem ignores_fileFor (named : Option Path) (defaults : ShippedFiles) (n : Number) :
    Ignores may (fileFor named defaults n) := by
  cases named with
  | some file => exact ignores_pure _
  | none => exact (ignores_find defaults n).bind fun _ => ignores_pure _

section
variable (hk : ∀ source ∈ taskNumberKey.sources, ¬ may source)
include hk

theorem ignores_withNumber (n : Number) (named : Option Path) (defaults : ShippedFiles) :
    Ignores may (withNumber n named defaults) := by
  have hagree : ∀ file, Ignores may (agreeWithFile n file) := by
    intro file
    refine (ignores_read? hk).bind fun stored => ?_
    cases stored with
    | none => exact ignores_pure _
    | some v =>
      dsimp only
      split
      · exact ignores_pure _
      · exact ignores_throw _
  refine (ignores_fileFor named defaults n).bind fun found => (ignores_mergeFile _).bind fun _ => ?_
  exact (hagree _).bind fun _ => (ignores_store _ _).bind fun _ => ignores_pure _

/-- The number is read where the read of the number for the tasks ends. -/
theorem ignores_numberFromFile (file : Path) : Ignores may (numberFromFile file) := by
  have hnumber : ∀ source ∈ numberKey.sources, ¬ may source :=
    fun source hs => hk source ((by decide : numberKey.sources ⊆ taskNumberKey.sources) hs)
  refine (ignores_mergeFile file).bind fun _ => (ignores_readAs? hnumber).bind fun n => ?_
  split
  · exact ignores_pure _
  · exact ignores_throw _

theorem ignores_decideNumber (sorted : SortedTokens) (defaults : ShippedFiles) :
    Ignores may (decideNumber sorted defaults) := by
  unfold decideNumber
  split
  · exact ignores_withNumber hk _ _ _
  · exact ignores_numberFromFile hk _
  · exact ignores_throw _

end

/-! ## The working directory -/

theorem ignores_ensureDirectory (w : Path) : Ignores may (ensureDirectory w) := by
  refine alike_get_bind (fun s t h => by rw [h]) fun s => ?_
  split
  · exact ignores_pure _
  · refine alike_get_bind (fun s t h => by rw [h]) fun s => ?_
    cases s.files.makeDirectories w with
    | mk files outcome =>
      refine (ignores_setFiles files).bind fun _ => ?_
      cases outcome with
      | error cause => exact ignores_throw _
      | ok => exact ignores_note _

section
variable (surroundings : Surroundings) (debugging : Bool)

/-- Debugging decides whether one more event is noted, and about nothing else. -/
theorem alike_makeScratchWorkdir :
    Alike may (makeScratchWorkdir surroundings)
      (makeScratchWorkdir { surroundings with debugging }) := by
  refine alike_get_bind (fun s t h => by rw [h]) fun s => ?_
  dsimp only
  cases s.files.makeScratch surroundings.temporary surroundings.scratchNames with
  | error cause => exact ignores_throw _
  | ok made =>
    refine (ignores_setFiles _).bind fun _ => (ignores_note _).bind fun _ => ?_
    refine (ignores_store _ _).bind fun _ => (ignores_track _).bind fun _ => ?_
    have hnote : Alike may (noteIf surroundings.debugging (.scratchStays made.1))
        (noteIf debugging (.scratchStays made.1)) := fun _ _ h => ⟨rfl, h.noting _ _⟩
    exact hnote.bind fun _ => ignores_pure _

/-- The decision on the working directory looks at nothing but the keys of its own. -/
theorem alike_decideWorkdir (given : Option Path)
    (hk : ∀ source ∈ workdirKey.sources, ¬ may source) :
    Alike may (decideWorkdir given surroundings)
      (decideWorkdir given { surroundings with debugging }) := by
  have hensure : ∀ w, Ignores may (ensureDirectory w >>= fun _ => pure w) := fun w =>
    (ignores_ensureDirectory w).bind fun _ => ignores_pure w
  have hrest : Alike may (decideWorkdir none surroundings)
      (decideWorkdir none { surroundings with debugging }) := by
    refine (ignores_read? hk).bind fun named => ?_
    cases named with
    | some t => exact (ignores_pure _).bind hensure
    | none => exact (alike_makeScratchWorkdir surroundings debugging).bind hensure
  cases given with
  | none => exact hrest
  | some directory => exact (ignores_store _ _).bind fun _ => hrest

/-- The decision on the inputs looks at no other parameters. -/
theorem alike_decideInputs (sorted : SortedTokens) (defaults : ShippedFiles)
    (hnumber : ∀ source ∈ taskNumberKey.sources, ¬ may source)
    (hworkdir : ∀ source ∈ workdirKey.sources, ¬ may source) :
    Alike may (decideInputs sorted defaults surroundings)
      (decideInputs sorted defaults { surroundings with debugging }) := by
  refine (ignores_decideNumber hnumber sorted defaults).bind fun decided => ?_
  refine (alike_decideWorkdir surroundings debugging sorted.workdir hworkdir).bind fun _ => ?_
  exact ignores_pure _

end

theorem ignores_decideWorkdir (given : Option Path) (surroundings : Surroundings)
    (hk : ∀ source ∈ workdirKey.sources, ¬ may source) :
    Ignores may (decideWorkdir given surroundings) :=
  alike_decideWorkdir surroundings surroundings.debugging given hk

theorem ignores_decideInputs (sorted : SortedTokens) (defaults : ShippedFiles)
    (surroundings : Surroundings) (hnumber : ∀ source ∈ taskNumberKey.sources, ¬ may source)
    (hworkdir : ∀ source ∈ workdirKey.sources, ¬ may source) :
    Ignores may (decideInputs sorted defaults surroundings) :=
  alike_decideInputs surroundings surroundings.debugging sorted defaults hnumber hworkdir

end SieveRun
