import SieveRun.Proofs.Pipeline
import SieveRun.Proofs.Tokens

/-!
# Which source a parameter comes from

Parameters come from three sources: the options, the parameter file and the directory of the
programs, which is stored before anything is read. Between and after them the run stores what
it decides about the number, the working directory, the threads and the clients. At every
other key the three sources are all there is, and the one that is read last wins
(`value?_of_sources`).
-/

namespace SieveRun

open Stage Hierarchy Assignment

variable {inv : Invocation} {layout : Layout} {surroundings : Surroundings} {s s' : Session}
  {c : Configuration}

/-- The options of a command line: the tokens that are taken as options, and then `--ell`. -/
def Invocation.options (inv : Invocation) (files : FileSystem) : List String :=
  optionTokens files inv.namedFlags sortingRules (.ofFlags inv.namedFlags) inv.tokens
    ++ (inv.namedFlags.ell.map fun ell => "ell=" ++ ell).toList

/-- The decisions leave what the file says over what the run started with, except at the keys
of the number and of the working directory. -/
theorem ConfigureRun.value?_decided (run : ConfigureRun inv layout surroundings s c s')
    {filed : Session} {fs : List (Key × String)} {given : Option Path}
    (hn : NumberDecided run.started filed run.inputs.number run.inputs.parameterFile fs)
    (hw : WorkdirDecided given filed run.decided run.inputs.workdir) {k : Key}
    (hnumber : k ≠ numberKey) (hworkdir : k ≠ workdirKey) :
    run.decided.params.value? k =
      (last? k fs).or (if k = programsKey then some layout.lib.text else none) := by
  rw [hw.others k hworkdir, hn.others k hnumber, value?_setAll, run.starts,
    value?_startingParameters_eq]

/-- **Options win over the file, and the file wins over the start.** At a key that the run
itself does not store to, a configuration that succeeded holds what the last option for the
key says; without one, what the last line of the parameter file for it says; without one, the
directory of the programs if it is their key, and else nothing. -/
theorem value?_of_sources (h : (configure inv layout surroundings).runOn s = (.ok c, s')) :
    ∃ fs os, assignmentsIn s.files c.parameterFile = .ok fs
      ∧ ofOptions (inv.options s.files) = .ok os
      ∧ ∀ k, k ≠ numberKey → k ≠ workdirKey → ¬ ThreadKey k → ¬ ClientKey k →
          c.parameters.value? k =
            ((last? k os).or (last? k fs)).or
              (if k = programsKey then some layout.lib.text else none) := by
  obtain ⟨run⟩ := configure_ok h
  obtain ⟨fs, filed, hn, hw⟩ := decideInputs_ok run.decides
  obtain ⟨os, hos, hmerged, -⟩ := mergeOptions_ok run.merges
  refine ⟨fs, os, ?_, ?_, ?_⟩
  · rw [run.parameterFile, ← run.keepsFiles]
    exact hn.read
  · rw [Invocation.options, ← sortTokens_options run.sorts]
    exact hos
  · intro k hnumber hworkdir hthread hclient
    rw [run.value?_eq hthread hclient, hmerged, value?_setAll,
      run.value?_decided hn hw hnumber hworkdir, Option.or_assoc]

/-- A run whose file, options and `--ell` speak of the same keys. -/
def layeredRun : Except RunError Configuration × Session :=
  (configure
    { parameters := some (.ofText "/f"),
      tokens := ["lim.x=2", "1234", "ell =5", " lim.x= 3 # last"],
      workdir := some (.ofText "/w"), serverThreads := some (.count 4), ell := some "7" }
    ⟨.ofText "/data", .ofText "/lib", .ofText "/bin", none⟩ {}).runOn
      (.ofFiles ⟨[([Text.utf8 "f"], .file (Text.utf8 "lim.x = 1\nname = a\nname = b\n")),
        ([Text.utf8 "w"], .directory)], []⟩)

/-- The last option, the option of the flag, the last line, the start, and nothing. -/
theorem layeredRun_values :
    ∃ c s', layeredRun = (.ok c, s')
      ∧ c.parameters.value? ⟨["lim"], "x"⟩ = some "3"
      ∧ c.parameters.value? ⟨[], "ell"⟩ = some "7"
      ∧ c.parameters.value? ⟨[], "name"⟩ = some "b"
      ∧ c.parameters.value? programsKey = some "/lib"
      ∧ c.parameters.value? ⟨[], "lim"⟩ = none := by
  have htest : passes layeredRun (fun c => decide (c.parameterFile = .ofText "/f")) = true := by
    decide +kernel
  obtain ⟨c, s', hrun, hc⟩ := exists_ok_of_passes htest
  obtain ⟨fs, os, hf, ho, hvalues⟩ := value?_of_sources hrun
  obtain rfl : fs = [(⟨["lim"], "x"⟩, "1"), (⟨[], "name"⟩, "a"), (⟨[], "name"⟩, "b")] := by
    rw [of_decide_eq_true hc] at hf
    refine Except.ok.inj (hf.symm.trans ?_)
    decide +kernel
  obtain rfl : os = [(⟨["lim"], "x"⟩, "2"), (⟨[], "ell"⟩, "5"), (⟨["lim"], "x"⟩, "3"),
      (⟨[], "ell"⟩, "7")] := by
    refine Except.ok.inj (ho.symm.trans ?_)
    decide +kernel
  refine ⟨c, s', hrun, ?_, ?_, ?_, ?_, ?_⟩ <;>
    rw [hvalues _ (by decide) (by decide) (by decide) (by decide)] <;> decide +kernel

end SieveRun
