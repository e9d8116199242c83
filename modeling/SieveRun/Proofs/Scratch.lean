import SieveRun.Program
import SieveRun.Proofs.Pipeline
import SieveRun.Proofs.Workdir

/-!
# The account of scratch directories

A configuration makes a scratch directory in one place alone, when it decides on the working
directory; the stages before and after it touch neither the files nor what is tracked, however
they end. So `configure` is cut there (`configure_eq`), and the account is settled by the stage
in the middle.

A run that makes a scratch directory tracks it at once, whatever fails afterwards
(`MakesScratch`), and a run that does not leaves what is tracked alone (`MakesNone`). Which of
the two it is can be told from what names the working directory (`Accounted`). A program that
cannot be configured then removes what is tracked, and nothing of it is left.
-/

namespace SieveRun

open Stage Hierarchy

variable {inv : Invocation} {layout : Layout} {surroundings : Surroundings} {s s' : Session}
  {r : Except RunError Configuration} {d : Path}

/-! ## The three parts of a configuration -/

/-- Sort the tokens, and decide number and parameter file. -/
def opening (inv : Invocation) (layout : Layout) : Stage (SortedTokens × Number × Path × Bool) := do
  let sorted ← sortAndNote inv.namedFlags sortingRules inv.tokens
  startParameters layout inv.verbose
  let decided ← decideNumber sorted (inv.shippedFiles layout)
  pure (sorted, decided)

/-- What is left once the inputs are decided: options, threads and clients. -/
def closing (inv : Invocation) (layout : Layout) (surroundings : Surroundings)
    (options : List String) (inputs : DecidedInputs) : Stage Configuration := do
  mergeOptions options
  let threads ← settleThreads inv.serverThreads inv.clientThreads surroundings
  let clients ← settleClients inv.clientRequest inputs threads layout
  pure ⟨inputs.number, inputs.parameterFile, inputs.isDefault, inputs.workdir, threads, clients,
    inv.fileLog, (← get).params⟩

theorem configure_eq (inv : Invocation) (layout : Layout) (surroundings : Surroundings) :
    configure inv layout surroundings =
      (opening inv layout >>= fun opened =>
        decideWorkdir opened.1.workdir surroundings >>= fun workdir =>
          closing inv layout surroundings opened.1.options
            ⟨opened.2.1, opened.2.2.1, opened.2.2.2, workdir⟩) := by
  simp only [configure, opening, closing, decideInputs, bind_assoc, pure_bind]

theorem moves_writes_opening : Moves (Writes anyKey) (opening inv layout) := by
  refine (moves_sortAndNote _ _ _).bind fun sorted => ?_
  have hstart : Moves (Writes anyKey) (startParameters layout inv.verbose) :=
    fun _ => writes_anyKey rfl rfl
  exact hstart.bind fun _ => moves_writes_decideNumber.bind fun _ => moves_pure _

theorem moves_writes_closing (options : List String) (inputs : DecidedInputs) :
    Moves (Writes anyKey) (closing inv layout surroundings options inputs) := by
  refine (moves_mergeOptions (fun _ v _ => moves_writes_store trivial v) _).bind fun _ => ?_
  refine (moves_writes_settleThreads _ _).anyKey.bind fun _ => ?_
  exact (moves_writes_settleClients _).anyKey.bind fun _ => moves_get.bind fun _ => moves_pure _

theorem closing_ok {options : List String} {inputs : DecidedInputs} {c : Configuration}
    (h : (closing inv layout surroundings options inputs).runOn s = (.ok c, s')) :
    c.workdir = inputs.workdir := by
  obtain ⟨_, _, -, h⟩ := bind_ok h
  obtain ⟨_, _, -, h⟩ := bind_ok h
  obtain ⟨_, _, -, h⟩ := bind_ok h
  obtain ⟨_, _, -, h⟩ := bind_ok h
  obtain ⟨rfl, -⟩ := pure_ok h
  rfl

/-! ## What a run makes -/

/-- Number and parameter file are decided, and what names the working directory then. -/
def OpensWith (inv : Invocation) (layout : Layout) (s : Session) (named : Option String) : Prop :=
  ∃ opened s₁, (opening inv layout).runOn s = (.ok opened, s₁)
    ∧ namedWorkdir opened.1.workdir s₁.params = named

/-- A new directory `d` is made and tracked, and nothing else happens to the files or to what
is tracked. -/
structure MakesScratch (surroundings : Surroundings) (s s' : Session) (d : Path) : Prop where
  made : s.files.makeScratch surroundings.temporary surroundings.scratchNames = .ok (d, s'.files)
  fresh : s.files.isThere d = false
  there : s'.files.isDirectory d = true
  tracked : s'.scratch = s.scratch ++ [d]

/-- What is tracked stays, and at most a directory that was named is made. -/
structure MakesNone (inv : Invocation) (layout : Layout) (s s' : Session) : Prop where
  tracked : s'.scratch = s.scratch
  made : s'.files = s.files ∨ ∃ t, OpensWith inv layout s (some t)
    ∧ s'.files = (s.files.makeDirectories (.ofText t)).1

/-- Every scratch directory that the run made is tracked, and nothing else is. -/
structure Accounted (inv : Invocation) (layout : Layout) (surroundings : Surroundings)
    (s : Session) (r : Except RunError Configuration) (s' : Session) : Prop where
  made : MakesNone inv layout s s' ∨ ∃ d, MakesScratch surroundings s s' d
  /-- A scratch directory is made just when nothing names the working directory and there is
  room for one. -/
  needed : (∃ d, MakesScratch surroundings s s' d) ↔ OpensWith inv layout s none
    ∧ ∃ made, s.files.makeScratch surroundings.temporary surroundings.scratchNames = .ok made
  workdir : ∀ d c, MakesScratch surroundings s s' d → r = .ok c → c.workdir = d
  /-- A directory that was named is never tracked. -/
  named : ∀ t, OpensWith inv layout s (some t) → s'.scratch = s.scratch

theorem OpensWith.unique {named named' : Option String} (h : OpensWith inv layout s named)
    (h' : OpensWith inv layout s named') : named = named' := by
  obtain ⟨opened, s₁, hrun, rfl⟩ := h
  obtain ⟨opened', s₁', hrun', rfl⟩ := h'
  obtain ⟨ho, rfl⟩ := Prod.mk.inj (hrun.symm.trans hrun')
  rw [Except.ok.inj ho]

/-- Tracking tells the two outcomes apart. -/
theorem MakesNone.not_makesScratch (h : MakesNone inv layout s s') :
    ¬ MakesScratch surroundings s s' d := by
  intro hd
  have hlength := congrArg List.length (h.tracked.symm.trans hd.tracked)
  simp at hlength

/-- An account without a scratch directory. -/
theorem MakesNone.accounted (h : MakesNone inv layout s s')
    (hneed : OpensWith inv layout s none →
      ∀ made, s.files.makeScratch surroundings.temporary surroundings.scratchNames ≠ .ok made) :
    Accounted inv layout surroundings s r s' := by
  refine ⟨.inl h, ⟨?_, ?_⟩, fun d c hd => absurd hd h.not_makesScratch, fun _ _ => h.tracked⟩
  · rintro ⟨d, hd⟩
    exact absurd hd h.not_makesScratch
  · rintro ⟨hopens, made, hmade⟩
    exact absurd hmade (hneed hopens made)

/-- An account with one. -/
theorem MakesScratch.accounted (h : MakesScratch surroundings s s' d)
    (hopens : OpensWith inv layout s none) (hw : ∀ c, r = .ok c → c.workdir = d) :
    Accounted inv layout surroundings s r s' := by
  refine ⟨.inr ⟨d, h⟩, ⟨fun _ => ⟨hopens, _, h.made⟩, fun _ => ⟨d, h⟩⟩, ?_, ?_⟩
  · intro d' c hd' hc
    rw [hw c hc]
    exact (Prod.mk.inj (Except.ok.inj (h.made.symm.trans hd'.made))).1
  · intro t ht
    exact absurd (ht.unique hopens) (by simp)

theorem tracked_of_new {paths : List Path} (h : ∀ p ∈ paths, d.same p = false) :
    tracked paths d = paths ++ [d] := by
  rw [tracked, if_neg]
  simpa using h

/-- A configuration ends in its opening, or after a decision on the working directory that
settles the files, what is tracked and, if it succeeds, the directory. -/
theorem configure_cases (h : (configure inv layout surroundings).runOn s = (r, s')) :
    (∃ e, (opening inv layout).runOn s = (.error e, s') ∧ r = .error e)
      ∨ ∃ opened s₁ r₂ s₂, (opening inv layout).runOn s = (.ok opened, s₁)
        ∧ (decideWorkdir opened.1.workdir surroundings).runOn s₁ = (r₂, s₂)
        ∧ s'.files = s₂.files ∧ s'.scratch = s₂.scratch
        ∧ ∀ c, r = .ok c → r₂ = .ok c.workdir := by
  rw [configure_eq] at h
  refine (bind_cases h).imp_right fun ⟨opened, s₁, hopening, h⟩ => ?_
  obtain ⟨e, hdecide, rfl⟩ | ⟨w, s₂, hdecide, hclosing⟩ := bind_cases h
  · exact ⟨opened, s₁, _, _, hopening, hdecide, rfl, rfl, fun c hc => absurd hc (by simp)⟩
  · have hw := (moves_writes_closing _ _).step hclosing
    refine ⟨opened, s₁, _, _, hopening, hdecide, hw.files, hw.scratch, ?_⟩
    rintro c rfl
    rw [closing_ok hclosing]

section
variable {opened : SortedTokens × Number × Path × Bool} {s₁ s₂ : Session}
  {r₂ : Except RunError Path} {t : String}

/-- A directory that is named is made if need be; nothing is tracked. -/
theorem accounted_of_named (hopening : (opening inv layout).runOn s = (.ok opened, s₁))
    (hnamed : namedWorkdir opened.1.workdir s₁.params = some t)
    (hdecide : (decideWorkdir opened.1.workdir surroundings).runOn s₁ = (r₂, s₂))
    (hfiles : s'.files = s₂.files) (hscratch : s'.scratch = s₂.scratch) :
    Accounted inv layout surroundings s r s' := by
  have hopened := moves_writes_opening.step hopening
  have hopens : OpensWith inv layout s (some t) := ⟨opened, s₁, hopening, hnamed⟩
  obtain ⟨hkept, hmade, -⟩ := decideWorkdir_of_named hnamed hdecide
  rw [← hfiles, hopened.files] at hmade
  refine MakesNone.accounted ⟨?_, ?_⟩ fun hnone => ?_
  · rw [hscratch, hkept, hopened.scratch]
  · exact hmade.imp_right fun hmade => ⟨t, hopens, hmade⟩
  · exact absurd (hopens.unique hnone) (by simp)

/-- Without a name there is a scratch directory, if there is room for one. -/
theorem accounted_of_unnamed (hopening : (opening inv layout).runOn s = (.ok opened, s₁))
    (hnamed : namedWorkdir opened.1.workdir s₁.params = none)
    (hdecide : (decideWorkdir opened.1.workdir surroundings).runOn s₁ = (r₂, s₂))
    (hfiles : s'.files = s₂.files) (hscratch : s'.scratch = s₂.scratch)
    (hworkdir : ∀ c, r = .ok c → r₂ = .ok c.workdir)
    (hnew : ∀ d files,
      s.files.makeScratch surroundings.temporary surroundings.scratchNames = .ok (d, files) →
        ∀ p ∈ s.scratch, d.same p = false) :
    Accounted inv layout surroundings s r s' := by
  have hopened := moves_writes_opening.step hopening
  have hopens : OpensWith inv layout s none := ⟨opened, s₁, hopening, hnamed⟩
  have hroom := congrArg (fun files : FileSystem =>
    files.makeScratch surroundings.temporary surroundings.scratchNames) hopened.files
  cases hd : s.files.makeScratch surroundings.temporary surroundings.scratchNames with
  | error cause =>
    obtain ⟨-, hleft, hkept⟩ := decideWorkdir_of_unmade hnamed (by simp [hroom, hd]) hdecide
    refine MakesNone.accounted ⟨?_, .inl ?_⟩ fun _ made => by simp [hd]
    · rw [hscratch, hkept, hopened.scratch]
    · rw [hfiles, hleft, hopened.files]
  | ok made =>
    obtain ⟨d, files⟩ := made
    obtain ⟨rfl, hmade, htracked⟩ := decideWorkdir_of_made hnamed (hroom.trans hd) hdecide
    rw [hopened.scratch, tracked_of_new (hnew d files hd)] at htracked
    obtain rfl : files = s'.files := by rw [hfiles, hmade]
    have hmakes := (FileSystem.makeScratch_ok hd).1
    have hscratched : MakesScratch surroundings s s' d :=
      ⟨hd, FileSystem.isThere_before_makeDirectory hmakes,
        FileSystem.isDirectory_makeDirectory hmakes, hscratch.trans htracked⟩
    exact hscratched.accounted hopens fun c hc => (Except.ok.inj (hworkdir c hc)).symm

end

/-! ## What is left of it -/

theorem runOn_purgeAll_singleton (h : (s.files.removeAll d).2 = .ok ()) :
    ∃ s₁, (purgeAll [d]).runOn s = (.ok (), s₁) ∧ s₁.files = (s.files.removeAll d).1 := by
  rw [purgeAll, runOn_bind_of_ok (runOn_note _ _), runOn_bind_of_ok (runOn_get _)]
  rw [Session.noting_files]
  cases hremoved : s.files.removeAll d with
  | mk files outcome =>
    rw [hremoved] at h
    obtain rfl : outcome = .ok () := h
    exact ⟨_, rfl, rfl⟩

/-- The one tracked directory is removed when nothing is kept for debugging. -/
theorem files_cleanUp (hd : s.scratch = [d]) (h : (s.files.removeAll d).2 = .ok ()) :
    ((cleanUp false).runOn s).2.files = (s.files.removeAll d).1 := by
  obtain ⟨s₁, hpurge, hfiles⟩ := runOn_purgeAll_singleton h
  have hdispose : (dispose false .purge).runOn s = (.ok (), s₁) := by
    rw [dispose, runOn_bind_of_ok (runOn_get _), hd]
    exact hpurge
  rw [cleanUp, runOn_tryCatch, hdispose]
  exact hfiles

/-- A run that cannot be configured ends with what cleaning up leaves. -/
theorem files_run_of_error {call : Call} {files : FileSystem} {e : RunError}
    (hcall : Invocation.ofArguments call.arguments = .ok inv)
    (hlayout : call.layout inv files = .ok layout)
    (hrun : (configure inv layout call.surroundings).runOn (.ofFiles files) = (.error e, s')) :
    (run call files).2 = ((cleanUp call.surroundings.debugging).runOn s').2.files := by
  rw [run, hcall]
  dsimp only
  rw [hlayout]
  dsimp only
  rw [runIn, hrun]

/-- **No scratch directory is lost, and none is claimed that was not made.** However a
configuration ends, the scratch directories it made are the ones it tracks besides those that
were tracked before; and a program that cannot be configured leaves none behind, unless the
removal fails or debugging is on. What was tracked before must not be the new directory. -/
theorem scratch_accounted_for (inv : Invocation) (layout : Layout) :
    (∀ (surroundings : Surroundings) (s s' : Session) (r : Except RunError Configuration),
      (∀ d files,
        s.files.makeScratch surroundings.temporary surroundings.scratchNames = .ok (d, files) →
          ∀ p ∈ s.scratch, d.same p = false) →
      (configure inv layout surroundings).runOn s = (r, s') →
      Accounted inv layout surroundings s r s')
    ∧ ∀ (call : Call) (files : FileSystem) (e : RunError) (s' : Session),
      Invocation.ofArguments call.arguments = .ok inv → call.layout inv files = .ok layout →
      (configure inv layout call.surroundings).runOn (.ofFiles files) = (.error e, s') →
      call.surroundings.debugging = false →
      ∀ d, MakesScratch call.surroundings (.ofFiles files) s' d →
        (s'.files.removeAll d).2 = .ok () → (run call files).2.isThere d = false := by
  constructor
  · intro surroundings s s' r hnew hrun
    obtain ⟨e, hopening, rfl⟩ |
      ⟨opened, s₁, r₂, s₂, hopening, hdecide, hfiles, hscratch, hworkdir⟩ := configure_cases hrun
    · -- nothing was decided, so nothing was made
      have hw := moves_writes_opening.step hopening
      refine MakesNone.accounted ⟨hw.scratch, .inl hw.files⟩ fun hopens => ?_
      obtain ⟨opened, s₁, hopened, -⟩ := hopens
      exact absurd (hopened.symm.trans hopening) (by simp)
    · cases hnamed : namedWorkdir opened.1.workdir s₁.params with
      | some t => exact accounted_of_named hopening hnamed hdecide hfiles hscratch
      | none => exact accounted_of_unnamed hopening hnamed hdecide hfiles hscratch hworkdir hnew
  · intro call files e s' hcall hlayout hrun hdebugging d hd hremoved
    have htracked : s'.scratch = [d] := hd.tracked
    rw [files_run_of_error hcall hlayout hrun, hdebugging, files_cleanUp htracked hremoved]
    exact FileSystem.isThere_removeAll (FileSystem.makeScratch_ok hd.made).2
      (Prod.ext rfl hremoved)

/-- A call on a number in an installation that ships a parameter file and no launcher. -/
def launcherlessCall : Call :=
  { arguments := [Text.utf8 "12345"], environment := [("NCPUS_FAKE", Text.utf8 "4")],
    home := .ofText "/x", scratchNames := ["taken", "free"] }

/-- The installation; one name for a scratch directory is taken. -/
def launcherlessFiles : FileSystem :=
  let name := Text.utf8
  ⟨[([name "tmp"], .directory), ([name "tmp", name "cado.taken"], .directory),
      ([name "x"], .directory), ([name "x", name "parameters"], .directory),
      ([name "x", name "parameters", name "factor"], .directory),
      ([name "x", name "parameters", name "factor", name "params.c5"],
        .file (name "name = c5\n"))], []⟩

/-- The configuration of the call. -/
def launcherlessRun : Except RunError Configuration × Session :=
  (configure { tokens := ["12345"] } (Layout.besideExecutable (.ofText "/x"))
    launcherlessCall.surroundings).runOn (.ofFiles launcherlessFiles)

/-- The launcher is missed long after the scratch directory was made. -/
theorem launcherless_scratch_removed :
    ∃ e s', launcherlessRun = (.error e, s')
      ∧ s'.scratch = [.ofText "/tmp/cado.free"]
      ∧ s'.files.isDirectory (.ofText "/tmp/cado.free") = true
      ∧ (run launcherlessCall launcherlessFiles).2.isThere (.ofText "/tmp/cado.free") = false := by
  have hfails : launcherlessRun.1.toBool = false := by decide +kernel
  have htracked : launcherlessRun.2.scratch = [.ofText "/tmp/cado.free"] := by decide +kernel
  have hremoved : (launcherlessRun.2.files.removeAll (.ofText "/tmp/cado.free")).2 = .ok () := by
    decide +kernel
  cases hrun : launcherlessRun with
  | mk r s' =>
    rw [hrun] at hfails htracked hremoved
    cases r with
    | ok c => exact absurd hfails (by simp [Except.toBool])
    | error e =>
      obtain ⟨haccount, hgone⟩ := scratch_accounted_for { tokens := ["12345"] }
        (Layout.besideExecutable (.ofText "/x"))
      have haccounted := haccount _ _ _ _
        (fun d files _ p hp => absurd hp (by simp [Session.ofFiles])) hrun
      obtain hnone | ⟨d, hd⟩ := haccounted.made
      · exact absurd (htracked.symm.trans hnone.tracked) (by simp [Session.ofFiles])
      · obtain rfl : d = .ofText "/tmp/cado.free" := by
          simpa [Session.ofFiles] using hd.tracked.symm.trans htracked
        exact ⟨e, s', rfl, htracked, hd.there, hgone launcherlessCall launcherlessFiles e s'
          (by decide +kernel) (by decide +kernel) hrun (by decide +kernel) _ hd hremoved⟩

end SieveRun
