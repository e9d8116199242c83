import SieveRun.Proofs.GivenWorkdir

/-!
# What a failed decision leaves behind

The decision about the inputs stores, makes and tracks things one after the other, and it can fail
between any two of these. The errors fall into three groups, and each group has its own remains.

- No number and no file, no shipped file, a file that cannot be read: nothing was stored yet
  (`PrecedesStores`).
- A file that was read and does not fit: its assignments are stored, and nothing else happened.
- A file system that fails the working directory: these errors come last, and they alone may find
  that something was made, directories on the way to the one that was wanted.

A scratch directory is tracked as soon as it is made, and then the decision cannot fail any more.
So no failed decision tracks anything.
-/

namespace SieveRun

open Stage Hierarchy

variable {s s' : Session} {sorted : SortedTokens} {defaults : ShippedFiles}
  {surroundings : Surroundings} {given : Option Path} {e : RunError} {n : Number} {file w : Path}

/-- The errors that end a decision before it stores anything. -/
inductive PrecedesStores : RunError → Prop
  | noFile : PrecedesStores (.noNumber .noFile)
  | noDefaultFile (tried : List String) : PrecedesStores (.noDefaultFile tried)
  | unreadable (file : Path) (cause : FileError) : PrecedesStores (.params (.unreadable file cause))
  | malformed (origin : String) (fault : Assignment.Fault) :
    PrecedesStores (.params (.malformed origin fault))

/-- What is left of the parameters: what was there or, with a later error, what was there and the
assignments of a file. -/
def LeavesMerged (s : Session) (e : RunError) (s' : Session) : Prop :=
  s'.params = s.params
    ∨ ¬ PrecedesStores e ∧ ∃ file as, assignmentsIn s.files file = .ok as
      ∧ s'.params = s.params.setAll as

/-! ## The number -/

theorem fileFor_error {named : Option Path}
    (h : (fileFor named defaults n).runOn s = (.error e, s')) : s'.params = s.params := by
  cases named with
  | some file => exact absurd h (by simp [fileFor])
  | none =>
    obtain ⟨e', hfind, -⟩ | ⟨file, s₁, -, h⟩ := bind_cases h
    · rw [ShippedFiles.runOn_find] at hfind
      split at hfind
      · exact absurd hfind (by simp)
      · obtain ⟨-, rfl⟩ := Prod.mk.inj hfind
        rfl
    · exact absurd h (by simp)

/-- A file that cannot be merged leaves the parameters as they are. -/
theorem mergeFile_error (h : (mergeFile file).runOn s = (.error e, s')) :
    s'.params = s.params := by
  rw [runOn_mergeFile] at h
  split at h
  · obtain ⟨-, rfl⟩ := Prod.mk.inj h
    rfl
  · exact absurd h (by simp)

theorem agreeWithFile_error (h : (agreeWithFile n file).runOn s = (.error e, s')) :
    ¬ PrecedesStores e ∧ s'.params = s.params := by
  rw [agreeWithFile, runOn_bind_of_ok (runOn_read? _ _)] at h
  split at h
  · exact absurd h (by simp)
  · split at h
    · exact absurd h (by simp)
    · obtain ⟨herror, rfl⟩ := Prod.mk.inj h
      obtain rfl := Except.error.inj herror
      refine ⟨fun hfirst => ?_, rfl⟩
      cases hfirst

/-- Reading a number that cannot be read as one comes after the stores, too. -/
theorem readNumber?_error {key : Key} (h : (readNumber? key).runOn s = (.error e, s')) :
    ¬ PrecedesStores e ∧ s'.params = s.params := by
  rw [readNumber?, runOn_readAs?] at h
  obtain ⟨herror, rfl⟩ := Prod.mk.inj h
  refine ⟨?_, rfl⟩
  unfold interpreted at herror
  split at herror
  · exact absurd herror (by simp)
  · split at herror
    · exact absurd herror (by simp)
    · obtain rfl := Except.error.inj herror
      intro hfirst
      cases hfirst

theorem withNumber_error {named : Option Path}
    (h : (withNumber n named defaults).runOn s = (.error e, s')) : LeavesMerged s e s' := by
  obtain ⟨_, hfile, -⟩ | ⟨⟨file, isDefault⟩, s₁, hfile, h⟩ := bind_cases h
  · exact .inl (fileFor_error hfile)
  obtain ⟨before, rfl⟩ := fileFor_ok hfile
  obtain ⟨_, hmerge, -⟩ | ⟨⟨⟩, s₂, hmerge, h⟩ := bind_cases h
  · have hparams := mergeFile_error hmerge
    exact .inl hparams
  obtain ⟨as, merged, has, rfl⟩ := mergeFile_ok hmerge
  obtain ⟨_, hagree, he⟩ | ⟨⟨⟩, s₃, -, h⟩ := bind_cases h
  · obtain ⟨hlater, hparams⟩ := agreeWithFile_error hagree
    rw [← Except.error.inj he] at hlater
    exact .inr ⟨hlater, file, as, has, hparams⟩
  · -- once the number agrees, it is stored and nothing can fail
    rw [runOn_bind_of_ok (runOn_store _ _ _)] at h
    exact absurd h (by simp)

theorem numberFromFile_error (h : (numberFromFile file).runOn s = (.error e, s')) :
    LeavesMerged s e s' := by
  obtain ⟨_, hmerge, -⟩ | ⟨⟨⟩, s₁, hmerge, h⟩ := bind_cases h
  · exact .inl (mergeFile_error hmerge)
  obtain ⟨as, merged, has, rfl⟩ := mergeFile_ok hmerge
  right
  obtain ⟨_, hread, he⟩ | ⟨read, s₂, hread, h⟩ := bind_cases h
  · obtain ⟨hlater, hparams⟩ := readNumber?_error hread
    rw [← Except.error.inj he] at hlater
    exact ⟨hlater, file, as, has, hparams⟩
  · obtain ⟨-, -, rfl⟩ := readAs?_ok hread
    split at h
    · exact absurd h (by simp)
    · obtain ⟨herror, rfl⟩ := Prod.mk.inj h
      obtain rfl := Except.error.inj herror
      refine ⟨fun hfirst => ?_, file, as, has, rfl⟩
      cases hfirst

theorem decideNumber_error (h : (decideNumber sorted defaults).runOn s = (.error e, s')) :
    LeavesMerged s e s' ∧ s'.files = s.files ∧ s'.scratch = s.scratch := by
  have hwrites := moves_writes_decideNumber.step h
  refine ⟨?_, hwrites.files, hwrites.scratch⟩
  unfold decideNumber at h
  split at h
  · exact withNumber_error h
  · exact numberFromFile_error h
  · obtain ⟨-, rfl⟩ := Prod.mk.inj h
    exact .inl rfl

/-! ## The working directory -/

/-- A directory that cannot be made may leave parents of it behind. -/
theorem ensureDirectory_error (h : (ensureDirectory w).runOn s = (.error e, s')) :
    ∃ cause, e = .file .makeDirectory w cause
      ∧ FileSystem.MakesOnly s.files s'.files (w :: w.parents) := by
  by_cases hdir : s.files.isDirectory w = true
  · rw [runOn_ensureDirectory_of_there hdir] at h
    exact absurd h (by simp)
  · rw [runOn_ensureDirectory_of_missing hdir] at h
    have honly := FileSystem.makesOnly_makeDirectories s.files w
    split at h
    · rename_i files cause hmade
      obtain ⟨herror, rfl⟩ := Prod.mk.inj h
      rw [hmade] at honly
      exact ⟨cause, (Except.error.inj herror).symm, honly⟩
    · exact absurd h (by simp)

/-- Where the working directory cannot be decided, the file system is the reason. -/
theorem decideWorkdir_error (h : (decideWorkdir given surroundings).runOn s = (.error e, s')) :
    s'.scratch = s.scratch ∧ ∃ action path cause, e = .file action path cause
      ∧ FileSystem.MakesOnly s.files s'.files (path :: path.parents) := by
  cases hnamed : namedWorkdir given s.params with
  | some t =>
    obtain ⟨hscratch, -, -⟩ := decideWorkdir_of_named hnamed h
    obtain ⟨s₁, hfiles, -, hrun⟩ := runOn_decideWorkdir given surroundings s
    rw [hrun, hnamed, settleWorkdir, runOn_bind_of_ok (runOn_pure _ _)] at h
    obtain ⟨_, hensure, he⟩ | ⟨⟨⟩, s₂, -, h⟩ := bind_cases h
    · obtain ⟨cause, rfl, honly⟩ := ensureDirectory_error hensure
      rw [hfiles] at honly
      exact ⟨hscratch, _, _, cause, Except.error.inj he, honly⟩
    · exact absurd h (by simp)
  | none =>
    cases hmade : s.files.makeScratch surroundings.temporary surroundings.scratchNames with
    | ok made =>
      -- a directory that was just made is there, so nothing is left that can fail
      obtain ⟨hok, -, -⟩ := decideWorkdir_of_made hnamed hmade h
      exact absurd hok (by simp)
    | error cause =>
      obtain ⟨-, hkept, hscratch⟩ := decideWorkdir_of_unmade hnamed (by simp [hmade]) h
      obtain ⟨s₁, hfiles, -, hrun⟩ := runOn_decideWorkdir given surroundings s
      rw [hrun, hnamed, settleWorkdir, makeScratchWorkdir, runOn_bind,
        runOn_bind_of_ok (runOn_get _), hfiles, hmade, runOn_throw] at h
      have herror := Except.error.inj (Prod.mk.inj h).1
      rw [hkept]
      exact ⟨hscratch, _, _, cause, herror.symm, .refl _ _⟩

/-! ## Both -/

/-- **A decision that fails leaves the world alone.** Nothing is tracked that was not tracked
before. Unless the file system is the reason for the failure, the files are as they were, and then
at most the assignments of a file are stored; errors that come before the stores leave the
parameters as they were. Where the file system is the reason, only directories on the way to the
one that was wanted are new. -/
theorem failed_inputs_leave
    (h : (decideInputs sorted defaults surroundings).runOn s = (.error e, s')) :
    s'.scratch = s.scratch
      ∧ ((∀ action path cause, e ≠ .file action path cause) →
        s'.files = s.files ∧ LeavesMerged s e s')
      ∧ (PrecedesStores e → s'.params = s.params)
      ∧ ∀ action path cause, e = .file action path cause →
        FileSystem.MakesOnly s.files s'.files (path :: path.parents) := by
  obtain ⟨_, hnumber, he⟩ | ⟨⟨n, file, isDefault⟩, s₁, hnumber, h⟩ := bind_cases h
  · obtain rfl := Except.error.inj he
    obtain ⟨hmerged, hfiles, hscratch⟩ := decideNumber_error hnumber
    refine ⟨hscratch, fun _ => ⟨hfiles, hmerged⟩, fun hfirst => ?_, fun _ _ _ _ => ?_⟩
    · rcases hmerged with hkept | ⟨hlater, -⟩
      · exact hkept
      · exact absurd hfirst hlater
    · rw [hfiles]
      exact .refl _ _
  · obtain ⟨_, hworkdir, he⟩ | ⟨w, s₂, -, h⟩ := bind_cases h
    · obtain rfl := Except.error.inj he
      have hwrites := moves_writes_decideNumber.step hnumber
      obtain ⟨hscratch, action, path, cause, rfl, honly⟩ := decideWorkdir_error hworkdir
      rw [hwrites.files] at honly
      refine ⟨hscratch.trans hwrites.scratch, fun hno => absurd rfl (hno action path cause),
        fun hfirst => ?_, fun _ _ _ hsame => ?_⟩
      · cases hfirst
      · obtain ⟨-, rfl, -⟩ := RunError.file.inj hsame
        exact honly
    · exact absurd h (by simp)

/-- A line that is no assignment: nothing is stored. A directory behind a full stop: it cannot be
made, but its parent was. -/
theorem failed_decisions_leave :
    (∃ e s', decisionOn "N = 5\nnonsense\n" = (.error e, s')
      ∧ s'.params = .empty ∧ s'.scratch = [])
    ∧ ∃ e s', decisionOn "N = 5\ntasks.workdir = w/x/.\n" = (.error e, s')
      ∧ s'.scratch = [] ∧ s'.files.isDirectory (.ofText "w") = true := by
  constructor
  · have herror : (decisionOn "N = 5\nnonsense\n").1 =
        .error (.params (.malformed "/f" ⟨2, "nonsense"⟩)) := by decide +kernel
    obtain ⟨s', hrun⟩ := exists_session_of_error herror
    obtain ⟨hscratch, -, hparams, -⟩ := failed_inputs_leave hrun
    exact ⟨_, s', hrun, hparams (.malformed _ _), hscratch⟩
  · have herror : (decisionOn "N = 5\ntasks.workdir = w/x/.\n").1 =
        .error (.file .makeDirectory (.ofText "w/x/.") .notFound) := by decide +kernel
    have hmade : (decisionOn "N = 5\ntasks.workdir = w/x/.\n").2.files.isDirectory
        (.ofText "w") = true := by decide +kernel
    obtain ⟨s', hrun⟩ := exists_session_of_error herror
    obtain ⟨hscratch, -⟩ := failed_inputs_leave hrun
    rw [hrun] at hmade
    exact ⟨_, s', hrun, hscratch, hmade⟩

end SieveRun
