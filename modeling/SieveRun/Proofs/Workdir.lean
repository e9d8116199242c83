import SieveRun.Proofs.Inputs
import SieveRun.Proofs.Removal

/-!
# Where the working directory comes from

What decides is whether a text names the working directory before one is made
(`namedWorkdir`): that of the directory given or, without one, what a read of `tasks.workdir`
sees. A named directory is made if it is missing, and nothing is tracked; without a name there
is one new scratch directory, and it is tracked.

A directory that was decided is there, with one exception: the empty path. It names no
directory, and making it succeeds without making anything, so a run that is told to work in
it goes on (`workdir_usable_iff`).
-/

namespace SieveRun

open Stage Hierarchy

variable {s s' : Session} {sorted : SortedTokens} {defaults : ShippedFiles}
  {surroundings : Surroundings} {given : Option Path} {t : String} {r : Except RunError Path}
  {d w : Path} {files : FileSystem}

/-- The text that names the working directory before one is made: the directory given, or
else what a read sees. -/
def namedWorkdir (given : Option Path) (h : Hierarchy) : Option String :=
  (given.map Path.text).or (h.get? workdirKey)

/-! ## Ensuring a directory -/

/-- Nothing but the files changes, and these only by making the directory. -/
theorem ensureDirectory_outcome {r : Except RunError Unit}
    (h : (ensureDirectory w).runOn s = (r, s')) :
    s'.scratch = s.scratch
      ∧ (s'.files = s.files ∨ s'.files = (s.files.makeDirectories w).1) := by
  by_cases hdir : s.files.isDirectory w = true
  · rw [runOn_ensureDirectory_of_there hdir] at h
    obtain ⟨-, rfl⟩ := Prod.mk.inj h
    exact ⟨rfl, .inl rfl⟩
  · rw [runOn_ensureDirectory_of_missing hdir] at h
    split at h <;>
    · rename_i hmade
      obtain ⟨-, rfl⟩ := Prod.mk.inj h
      rw [hmade]
      exact ⟨rfl, .inr rfl⟩

/-- What comes of ensuring a directory depends on the files alone. -/
theorem ensureDirectory_congr (hfiles : s.files = s'.files) :
    ((ensureDirectory w).runOn s).1 = ((ensureDirectory w).runOn s').1
      ∧ ((ensureDirectory w).runOn s).2.files = ((ensureDirectory w).runOn s').2.files := by
  by_cases hdir : s.files.isDirectory w = true
  · have hdir' : s'.files.isDirectory w = true := hfiles ▸ hdir
    rw [runOn_ensureDirectory_of_there hdir, runOn_ensureDirectory_of_there hdir']
    exact ⟨rfl, hfiles⟩
  · have hdir' : ¬ s'.files.isDirectory w = true := hfiles ▸ hdir
    rw [runOn_ensureDirectory_of_missing hdir, runOn_ensureDirectory_of_missing hdir', hfiles]
    cases s'.files.makeDirectories w with
    | mk files outcome => cases outcome <;> exact ⟨rfl, rfl⟩

/-! ## With a name, and without -/

/-- The directory that a text names, or a new scratch directory; and it is made if missing. -/
def settleWorkdir (surroundings : Surroundings) (named : Option String) : Stage Path := do
  let directory ←
    match named with
    | some text => pure (Path.ofText text)
    | none => makeScratchWorkdir surroundings
  ensureDirectory directory
  pure directory

/-- What was given is stored before the read, which then sees it. -/
theorem runOn_decideWorkdir (given : Option Path) (surroundings : Surroundings) (s : Session) :
    ∃ s₁ : Session, s₁.files = s.files ∧ s₁.scratch = s.scratch
      ∧ (decideWorkdir given surroundings).runOn s =
        (settleWorkdir surroundings (namedWorkdir given s.params)).runOn s₁ := by
  cases given with
  | none =>
    exact ⟨s.noting (readNotes s.params workdirKey), rfl, rfl,
      runOn_bind_of_ok (runOn_read? workdirKey s)⟩
  | some directory =>
    let stored := (s.withParams (s.params.set workdirKey directory.text)).noting
      [.stored workdirKey.text directory.text]
    have hread : (read? workdirKey).runOn stored =
        (.ok (some directory.text), stored.noting (readNotes stored.params workdirKey)) := by
      rw [runOn_read?]
      exact congrArg (fun o => (Except.ok o, _)) (get?_of_value? (value?_set_self _ _ _))
    refine ⟨stored.noting (readNotes stored.params workdirKey), rfl, rfl, ?_⟩
    rw [decideWorkdir_some, runOn_bind_of_ok (runOn_store _ _ _)]
    exact runOn_bind_of_ok hread

/-- A scratch directory that can be made is made, stored and tracked. -/
theorem runOn_makeScratchWorkdir
    (hd : s.files.makeScratch surroundings.temporary surroundings.scratchNames = .ok (d, files)) :
    ∃ s₁ : Session, (makeScratchWorkdir surroundings).runOn s = (.ok d, s₁)
      ∧ s₁.files = files ∧ s₁.scratch = tracked s.scratch d := by
  rw [makeScratchWorkdir, runOn_bind_of_ok (runOn_get _), hd]
  exact ⟨_, rfl, rfl, rfl⟩

/-- A named directory is made if need be, and not tracked. -/
theorem decideWorkdir_of_named (hn : namedWorkdir given s.params = some t)
    (h : (decideWorkdir given surroundings).runOn s = (r, s')) :
    s'.scratch = s.scratch
      ∧ (s'.files = s.files ∨ s'.files = (s.files.makeDirectories (.ofText t)).1)
      ∧ ∀ w, r = .ok w → w = .ofText t := by
  obtain ⟨s₁, hfiles, hscratch, hrun⟩ := runOn_decideWorkdir given surroundings s
  rw [hrun, hn, settleWorkdir, runOn_bind_of_ok (runOn_pure _ _)] at h
  rw [← hfiles, ← hscratch]
  obtain ⟨e, hensure, rfl⟩ | ⟨⟨⟩, s₂, hensure, h⟩ := bind_cases h
  · obtain ⟨hkept, hmade⟩ := ensureDirectory_outcome hensure
    exact ⟨hkept, hmade, fun w hw => absurd hw (by simp)⟩
  · obtain ⟨hkept, hmade⟩ := ensureDirectory_outcome hensure
    obtain ⟨rfl, rfl⟩ := Prod.mk.inj h
    exact ⟨hkept, hmade, fun w hw => (Except.ok.inj hw).symm⟩

/-- A scratch directory that was made is decided on and tracked, and nothing else is made. -/
theorem decideWorkdir_of_made (hn : namedWorkdir given s.params = none)
    (hd : s.files.makeScratch surroundings.temporary surroundings.scratchNames = .ok (d, files))
    (h : (decideWorkdir given surroundings).runOn s = (r, s')) :
    r = .ok d ∧ s'.files = files ∧ s'.scratch = tracked s.scratch d := by
  obtain ⟨s₁, hfiles, hscratch, hrun⟩ := runOn_decideWorkdir given surroundings s
  rw [← hfiles] at hd
  obtain ⟨s₂, hmake, rfl, htracked⟩ := runOn_makeScratchWorkdir hd
  have hthere : s₂.files.isDirectory d = true :=
    FileSystem.isDirectory_makeDirectory (FileSystem.makeScratch_ok hd).1
  rw [hrun, hn, settleWorkdir, runOn_bind_of_ok hmake,
    runOn_bind_of_ok (runOn_ensureDirectory_of_there hthere)] at h
  obtain ⟨rfl, rfl⟩ := Prod.mk.inj h
  exact ⟨rfl, rfl, by rw [htracked, hscratch]⟩

/-- Where no scratch directory can be made, nothing happens to files and tracking. -/
theorem decideWorkdir_of_unmade (hn : namedWorkdir given s.params = none)
    (hd : ∀ d files, s.files.makeScratch surroundings.temporary surroundings.scratchNames ≠
      .ok (d, files))
    (h : (decideWorkdir given surroundings).runOn s = (r, s')) :
    (∀ w, r ≠ .ok w) ∧ s'.files = s.files ∧ s'.scratch = s.scratch := by
  obtain ⟨s₁, hfiles, hscratch, hrun⟩ := runOn_decideWorkdir given surroundings s
  rw [← hfiles] at hd
  rw [← hfiles, ← hscratch]
  rw [hrun, hn, settleWorkdir, makeScratchWorkdir] at h
  cases hmade : s₁.files.makeScratch surroundings.temporary surroundings.scratchNames with
  | ok made => exact absurd hmade (hd made.1 made.2)
  | error cause =>
    rw [runOn_bind, runOn_bind_of_ok (runOn_get _), hmade, runOn_throw] at h
    obtain ⟨rfl, rfl⟩ := Prod.mk.inj h
    exact ⟨fun w => by simp, rfl, rfl⟩

/-! ## Whether it is there -/

theorem isDirectory_of_empty (h : w.bytes = []) : files.isDirectory w = false := by
  rw [Bool.eq_false_iff]
  intro hdir
  obtain ⟨r, hres, -⟩ := FileSystem.isDirectory_iff.1 hdir
  simp [FileSystem.resolve, FileSystem.pathFault?, h] at hres

/-- A scratch directory is there as soon as it is made, and a directory that was named is
made if it is missing; the empty path is never there. -/
theorem decideWorkdir_there_iff (h : (decideWorkdir given surroundings).runOn s = (.ok w, s')) :
    s'.files.isDirectory w = true ↔ namedWorkdir given s.params ≠ some "" := by
  cases hnamed : namedWorkdir given s.params with
  | some t =>
    obtain ⟨-, -, hpath⟩ := decideWorkdir_of_named hnamed h
    obtain rfl := hpath w rfl
    have hempty : (Path.ofText t).bytes = [] ↔ t = "" := by
      rw [← Path.text_eq_empty_iff, Path.text_ofText]
    constructor
    · intro hdir ht
      rw [isDirectory_of_empty (hempty.2 (Option.some.inj ht))] at hdir
      exact absurd hdir (by simp)
    · intro ht
      exact (decideWorkdir_ok h).there.resolve_left fun hb => ht (by rw [hempty.1 hb])
  | none =>
    refine ⟨fun _ => by simp, fun _ => ?_⟩
    cases hmade : s.files.makeScratch surroundings.temporary surroundings.scratchNames with
    | error cause =>
      obtain ⟨hnot, -⟩ := decideWorkdir_of_unmade hnamed (by simp [hmade]) h
      exact absurd rfl (hnot w)
    | ok made =>
      obtain ⟨hpath, hfiles, -⟩ := decideWorkdir_of_made hnamed hmade h
      rw [Except.ok.inj hpath, hfiles]
      exact FileSystem.isDirectory_makeDirectory (FileSystem.makeScratch_ok hmade).1

/-- **When the working directory can be used.** Where the decision succeeds, the directory is
visible in the parameters; and it is there exactly when its name is not the empty text. -/
theorem workdir_usable_iff {inputs : DecidedInputs}
    (h : (decideInputs sorted defaults surroundings).runOn s = (.ok inputs, s')) :
    ∃ as, assignmentsIn s.files inputs.parameterFile = .ok as
      ∧ s'.params.get? workdirKey = some inputs.workdir.text
      ∧ (s'.files.isDirectory inputs.workdir = true ↔
          namedWorkdir sorted.workdir (s.params.setAll as) ≠ some "") := by
  obtain ⟨⟨n, file, isDefault⟩, s₁, hnumber, h⟩ := bind_ok h
  obtain ⟨w, s₂, hdecide, h⟩ := bind_ok h
  obtain ⟨rfl, rfl⟩ := pure_ok h
  obtain ⟨as, hn⟩ := decideNumber_ok hnumber
  refine ⟨as, hn.read, (decideWorkdir_ok hdecide).visible, ?_⟩
  -- storing the number does not touch what the read sees
  have hread : s₁.params.get? workdirKey = (s.params.setAll as).get? workdirKey := by
    refine get?_congr fun source hs => hn.others source ?_
    revert hs source
    decide +kernel
  have hthere := decideWorkdir_there_iff hdecide
  rw [namedWorkdir, hread] at hthere
  exact hthere

/-- A decision on a parameter file, where there is nothing else. -/
def decisionOn (text : String) : Except RunError DecidedInputs × Session :=
  (decideInputs { parameters := some (.ofText "/f") } ⟨.ofText "/data", .factoring, 0⟩ {}).runOn
    (.ofFiles ⟨[([Text.utf8 "f"], .file (Text.utf8 text))], []⟩)

/-- The directory may be inherited, relative, and missing with its parent. -/
theorem inherited_workdir_usable :
    ∃ inputs s', decisionOn "N = 5\nworkdir = a//b\n" = (.ok inputs, s')
      ∧ inputs.workdir = .ofText "a//b"
      ∧ s'.params.get? workdirKey = some "a//b"
      ∧ s'.files.isDirectory (.ofText "a//b") = true := by
  have htest : passes (decisionOn "N = 5\nworkdir = a//b\n") (fun inputs =>
      decide (inputs.workdir = .ofText "a//b" ∧ inputs.parameterFile = .ofText "/f")) = true := by
    decide +kernel
  obtain ⟨inputs, s', hrun, hinputs⟩ := exists_ok_of_passes htest
  obtain ⟨hw, hfile⟩ := of_decide_eq_true hinputs
  obtain ⟨as, has, hvisible, hiff⟩ := workdir_usable_iff hrun
  have hassigned : as = [(numberKey, "5"), (outerWorkdirKey, "a//b")] := by
    rw [hfile] at has
    refine Except.ok.inj (has.symm.trans ?_)
    decide +kernel
  rw [hw] at hvisible hiff
  rw [hassigned] at hiff
  refine ⟨inputs, s', hrun, hw, ?_, hiff.2 (by decide +kernel)⟩
  rwa [Path.text_ofText] at hvisible

/-- The empty text: the decision succeeds, and nothing is made. -/
theorem empty_workdir_missing :
    ∃ inputs s', decisionOn "N = 5\ntasks.workdir =\n" = (.ok inputs, s')
      ∧ inputs.workdir = .ofText ""
      ∧ s'.files.isDirectory inputs.workdir = false := by
  have htest : passes (decisionOn "N = 5\ntasks.workdir =\n") (fun inputs =>
      decide (inputs.workdir = .ofText "")) = true := by decide +kernel
  obtain ⟨inputs, s', hrun, hinputs⟩ := exists_ok_of_passes htest
  have hw := of_decide_eq_true hinputs
  refine ⟨inputs, s', hrun, hw, ?_⟩
  rw [hw]
  exact isDirectory_of_empty (by decide +kernel)

end SieveRun
