import SieveRun.Proofs.Pipeline

/-!
# Do the parameters name the inputs that were decided?

Number and working directory are decided before the options are merged, and the options win
over everything. So the parameters agree with the decision exactly as far as the assignments
do that are read after it, or past it (`AssignmentsAgree`). Three of the keys can be reached
by options. The fourth condition is about inheritance: a directory that was only
seen from outside the tasks is hidden by an option for the outer key, unless something is
stored at the inner one.

The table of rules takes the tight spellings of a number and of a working directory for
itself, so most options cannot reach these keys. A blank next to the equals sign is enough
to get past it.
-/

namespace SieveRun

open Stage Hierarchy Assignment

/-! ## Agreement -/

/-- The parameters name the number and the working directory that were decided. -/
structure Configuration.Agrees (c : Configuration) : Prop where
  number : (c.parameters.get? numberKey).bind Number.ofText? = some c.number
  taskNumber : (c.parameters.get? taskNumberKey).bind Number.ofText? = some c.number
  workdir : c.parameters.get? workdirKey = some c.workdir.text

/-- Nothing that the file assigns (`fs`) or the options assign (`os`) stands against the
number and the working directory that were decided; `given` is the working directory of the
command line. -/
structure AssignmentsAgree (given : Option Path) (c : Configuration)
    (fs os : List (Key × String)) : Prop where
  number : ∀ v, last? numberKey os = some v → Number.ofText? v = some c.number
  taskNumber : ∀ v, last? taskNumberKey (fs ++ os) = some v → Number.ofText? v = some c.number
  workdir : ∀ v, last? workdirKey os = some v → v = c.workdir.text
  outerWorkdir : given = none → last? workdirKey (fs ++ os) = none →
    (last? outerWorkdirKey fs).isSome → ∀ v, last? outerWorkdirKey os = some v → v = c.workdir.text

/-! ## A value over another one -/

/-- Over a value that is right, only a value that is right may be put. -/
theorem or_bind_eq_some_iff {α β : Type} {x y : Option α} {f : α → Option β} {b : β}
    (hy : y.bind f = some b) :
    (x.or y).bind f = some b ↔ ∀ a, x = some a → f a = some b := by
  cases x with
  | none => simpa using hy
  | some a => simp

variable {inv : Invocation} {layout : Layout} {surroundings : Surroundings} {s s' : Session}
  {c : Configuration}

namespace ConfigureRun

variable (run : ConfigureRun inv layout surroundings s c s') {fs os : List (Key × String)}
  {filed : Session}

include run in
/-- After the number is decided, every other key holds what the file says. -/
theorem value?_filed (hn : NumberDecided run.started filed run.inputs.number run.inputs.parameterFile fs)
    {k : Key} (hnumber : k ≠ numberKey) (hprograms : k ≠ programsKey) :
    filed.params.value? k = last? k fs := by
  rw [hn.others k hnumber, value?_setAll, run.starts, value?_startingParameters hprograms,
    Option.or_none]

/-- The options are over what was there. -/
theorem value?_over (hos : run.merged.params = run.decided.params.setAll os) {k : Key}
    (ht : ¬ ThreadKey k) (hc : ¬ ClientKey k) :
    c.parameters.value? k = (last? k os).or (run.decided.params.value? k) := by
  rw [run.value?_eq ht hc, hos, value?_setAll]

/-- Both reads of the number give the one that was decided exactly when no option and no line
of the file says otherwise. -/
theorem numbers_agree_iff
    (hn : NumberDecided run.started filed run.inputs.number run.inputs.parameterFile fs)
    {given : Option Path} (hw : WorkdirDecided given filed run.decided run.inputs.workdir)
    (hos : run.merged.params = run.decided.params.setAll os) :
    ((c.parameters.get? numberKey).bind Number.ofText? = some c.number
      ∧ (c.parameters.get? taskNumberKey).bind Number.ofText? = some c.number) ↔
    ((∀ v, last? numberKey os = some v → Number.ofText? v = some c.number)
      ∧ ∀ v, last? taskNumberKey (fs ++ os) = some v → Number.ofText? v = some c.number) := by
  have hdecided : (run.decided.params.value? numberKey).bind Number.ofText? = some c.number := by
    rw [run.number, hw.others _ (by decide)]
    exact hn.stored
  have hnumber : c.parameters.get? numberKey =
      (last? numberKey os).or (run.decided.params.value? numberKey) := by
    rw [get?_numberKey, run.value?_over hos (by decide) (by decide)]
  have htask : c.parameters.get? taskNumberKey =
      (last? taskNumberKey (fs ++ os)).or (c.parameters.get? numberKey) := by
    rw [get?_taskNumberKey, run.value?_over hos (by decide) (by decide), hw.others _ (by decide),
      run.value?_filed hn (by decide) (by decide), last?_append, get?_numberKey]
  -- the task's number falls back on the number, so the number is settled first
  have hfirst : (c.parameters.get? numberKey).bind Number.ofText? = some c.number ↔
      ∀ v, last? numberKey os = some v → Number.ofText? v = some c.number := by
    rw [hnumber]
    exact or_bind_eq_some_iff hdecided
  rw [← hfirst]
  refine and_congr_right fun hread => ?_
  rw [htask]
  exact or_bind_eq_some_iff hread

/-- The read of the working directory gives the one that was decided exactly when no option
stands against it, at its own key or, where it was inherited, outside of the tasks. -/
theorem workdir_agrees_iff
    (hn : NumberDecided run.started filed run.inputs.number run.inputs.parameterFile fs)
    {given : Option Path} (hw : WorkdirDecided given filed run.decided run.inputs.workdir)
    (hos : run.merged.params = run.decided.params.setAll os) :
    c.parameters.get? workdirKey = some c.workdir.text ↔
      (∀ v, last? workdirKey os = some v → v = c.workdir.text)
        ∧ (given = none → last? workdirKey (fs ++ os) = none → (last? outerWorkdirKey fs).isSome →
            ∀ v, last? outerWorkdirKey os = some v → v = c.workdir.text) := by
  have hvisible := hw.visible
  have hinherited := hw.inherited
  rw [run.value?_filed hn (by decide) (by decide),
    run.value?_filed hn (by decide) (by decide)] at hinherited
  rw [get?_workdirKey, ← run.workdir] at hvisible
  rw [get?_workdirKey, run.value?_over hos (by decide) (by decide),
    run.value?_over hos (by decide) (by decide), last?_append]
  cases hopt : last? workdirKey os with
  | some v => simp
  | none =>
    rw [Option.none_or, Option.none_or]
    cases hown : run.decided.params.value? workdirKey with
    | some u =>
      -- stored at its own key, where no option for the outer one can hide it
      rw [hown] at hvisible hinherited
      have hu : some u = some c.workdir.text := by simpa using hvisible
      constructor
      · intro _
        refine ⟨by simp, fun hgiven hfile houter => ?_⟩
        exact absurd (hinherited.2 ⟨hgiven, hfile, houter⟩) (by simp)
      · intro _
        simpa using hu
    | none =>
      -- inherited, so an option for the outer key is seen instead
      obtain ⟨hgiven, hfile, houter⟩ := hinherited.1 hown
      rw [hown, Option.none_or] at hvisible
      rw [Option.none_or, hvisible]
      cases hov : last? outerWorkdirKey os with
      | none => simp
      | some v => simp [hgiven, hfile, houter]

end ConfigureRun

/-- **When the parameters name the inputs that were decided.** A run that succeeded sorted its
tokens, read its parameter file and read its options; the parameters agree with the number
and the working directory exactly when these assignments do. -/
theorem agrees_iff (h : (configure inv layout surroundings).runOn s = (.ok c, s')) :
    ∃ sorted fs os, sortTokens s.files inv.namedFlags sortingRules inv.tokens = .ok sorted
      ∧ assignmentsIn s.files c.parameterFile = .ok fs
      ∧ ofOptions sorted.options = .ok os
      ∧ (c.Agrees ↔ AssignmentsAgree sorted.workdir c fs os) := by
  obtain ⟨run⟩ := configure_ok h
  obtain ⟨fs, filed, hn, hw⟩ := decideInputs_ok run.decides
  obtain ⟨os, hos, hmerged, -⟩ := mergeOptions_ok run.merges
  refine ⟨run.sorted, fs, os, run.sorts, ?_, hos, ?_⟩
  · rw [run.parameterFile, ← run.keepsFiles]
    exact hn.read
  · have hnumbers := run.numbers_agree_iff hn hw hmerged
    have hworkdir := run.workdir_agrees_iff hn hw hmerged
    constructor
    · intro hagrees
      obtain ⟨h₁, h₂, h₃⟩ := hagrees
      obtain ⟨h₁, h₂⟩ := hnumbers.1 ⟨h₁, h₂⟩
      obtain ⟨h₃, h₄⟩ := hworkdir.1 h₃
      exact ⟨h₁, h₂, h₃, h₄⟩
    · intro hassigned
      obtain ⟨h₁, h₂, h₃, h₄⟩ := hassigned
      obtain ⟨h₁, h₂⟩ := hnumbers.2 ⟨h₁, h₂⟩
      exact ⟨h₁, h₂, hworkdir.2 ⟨h₃, h₄⟩⟩

/-! ## Two runs -/

/-- A run on a number, with a parameter file, a working directory and a thread count, which
looks nothing else up. -/
def plainRun (tokens : List String) (text : String) : Except RunError Configuration × Session :=
  (configure
    { parameters := some (.ofText "/f"), tokens, workdir := some (.ofText "/w"),
      serverThreads := some (.count 4) }
    ⟨.ofText "/data", .ofText "/lib", .ofText "/bin", none⟩ {}).runOn
      (.ofFiles ⟨[([Text.utf8 "f"], .file (Text.utf8 text)), ([Text.utf8 "w"], .directory)], []⟩)

/-- The file may spell the number in another way, and options may assign other keys. -/
theorem plainRun_agrees :
    ∃ c s', plainRun ["12345", "name=c5"] "tasks.N = 012345\n" = (.ok c, s') ∧ c.Agrees := by
  have htest : passes (plainRun ["12345", "name=c5"] "tasks.N = 012345\n") (fun c =>
      decide (c.number = ⟨12345⟩ ∧ c.parameterFile = .ofText "/f")) = true := by decide +kernel
  obtain ⟨c, s', hrun, hc⟩ := exists_ok_of_passes htest
  obtain ⟨hnumber, hfile⟩ := of_decide_eq_true hc
  obtain ⟨sorted, fs, os, hs, hf, ho, hiff⟩ := agrees_iff hrun
  have hsorted : sorted =
      ⟨some ⟨12345⟩, some (.ofText "/f"), some (.ofText "/w"), ["name=c5"]⟩ := by
    refine Except.ok.inj (hs.symm.trans ?_)
    decide +kernel
  subst hsorted
  have hos : os = [(⟨[], "name"⟩, "c5")] := by
    refine Except.ok.inj (ho.symm.trans ?_)
    decide +kernel
  have hfs : fs = [(taskNumberKey, "012345")] := by
    rw [hfile] at hf
    refine Except.ok.inj (hf.symm.trans ?_)
    decide +kernel
  have hnumberless : last? numberKey [(⟨[], "name"⟩, "c5")] = none := by decide +kernel
  have hworkdirless : last? workdirKey [(⟨[], "name"⟩, "c5")] = none := by decide +kernel
  refine ⟨c, s', hrun, hiff.2 ?_⟩
  rw [hos, hfs]
  refine ⟨by simp [hnumberless], fun v hv => ?_, by simp [hworkdirless], fun h => ?_⟩
  · rw [hnumber, ← Option.some.inj hv]
    decide +kernel
  · exact absurd h (by simp)

/-- A blank before the equals sign, and an option overrides what was decided. -/
theorem overridden_number :
    ∃ c s', plainRun ["12345", "N = 7", "tasks.workdir = /other"] "name = c5\n" = (.ok c, s')
      ∧ c.number = ⟨12345⟩ ∧ c.parameters.get? numberKey = some "7"
      ∧ c.workdir = .ofText "/w" ∧ c.parameters.get? workdirKey = some "/other" := by
  have htest : passes (plainRun ["12345", "N = 7", "tasks.workdir = /other"] "name = c5\n") (fun c =>
      decide (c.number = ⟨12345⟩ ∧ c.parameters.get? numberKey = some "7"
        ∧ c.workdir = .ofText "/w" ∧ c.parameters.get? workdirKey = some "/other")) = true := by
    decide +kernel
  obtain ⟨c, s', hrun, hc⟩ := exists_ok_of_passes htest
  exact ⟨c, s', hrun, of_decide_eq_true hc⟩

end SieveRun
