import SieveRun.Proofs.Roles
import SieveRun.Proofs.Workdir

/-!
# A working directory that is given

A directory that is given is stored as text, read back and turned into a path again. That is the
directory itself exactly if its path is text; otherwise it is another one, spelled with
replacement characters. So it is for what is shown, what is stored, and what is made.

What is made is said by `MakesOnly`: the tree stays as it is, apart from directories where there
was nothing, and to each of these one of the paths to be made leads. The relation composes, each
call that makes one directory is a step of it, and so making a directory with all its missing
parents makes nothing else (`makesOnly_makeDirectories`).
-/

namespace SieveRun

open Text Stage

namespace FileSystem

variable {fs before middle after : FileSystem} {p : Path} {paths more : List Path}
  {target : Route}

/-! ## What making directories makes -/

/-- All that is there afterwards and was not there before are directories, and to each of them
one of the paths leads. -/
structure MakesOnly (before after : FileSystem) (paths : List Path) : Prop where
  current : after.current = before.current
  entry : ∀ r, after.entry? r = before.entry? r
    ∨ before.entry? r = none ∧ after.entry? r = some .directory
      ∧ ∃ p ∈ paths, after.resolve p = .ok r

namespace MakesOnly

theorem refl (fs : FileSystem) (paths : List Path) : MakesOnly fs fs paths :=
  ⟨rfl, fun _ => .inl rfl⟩

theorem mono (h : MakesOnly before after paths) (hsub : paths ⊆ more) :
    MakesOnly before after more := by
  refine ⟨h.current, fun r => ?_⟩
  rcases h.entry r with hsame | ⟨hnone, hdir, p, hp, hres⟩
  · exact .inl hsame
  · exact .inr ⟨hnone, hdir, p, hsub hp, hres⟩

theorem keepsDirectories (h : MakesOnly before after paths) : KeepsDirectories before after := by
  refine ⟨h.current, fun r hdir => ?_⟩
  rcases h.entry r with hsame | ⟨-, hmade, -⟩
  · rw [hsame, hdir]
  · exact hmade

theorem trans (h : MakesOnly before middle paths) (h' : MakesOnly middle after paths) :
    MakesOnly before after paths := by
  refine ⟨h'.current.trans h.current, fun r => ?_⟩
  rcases h'.entry r with hsame' | ⟨hnone', hdir', hled'⟩
  · rcases h.entry r with hsame | ⟨hnone, hdir, p, hp, hres⟩
    · exact .inl (hsame'.trans hsame)
    · -- what was made first is still where its path leads
      have hres' := resolve_of_keeps h'.keepsDirectories hres hdir
      exact .inr ⟨hnone, hsame'.trans hdir, p, hp, hres'⟩
  · rcases h.entry r with hsame | ⟨-, hdir, -⟩
    · exact .inr ⟨hsame.symm.trans hnone', hdir', hled'⟩
    · rw [hdir] at hnone'
      exact absurd hnone' (by simp)

end MakesOnly

theorem PutAt.makesOnly (h : PutAt fs p .directory target) :
    MakesOnly fs (fs.add target .directory) [p] := by
  refine ⟨rfl, fun r => ?_⟩
  rw [entry?_add h.free]
  by_cases hr : r = target
  · subst hr
    rw [if_pos rfl]
    exact .inr ⟨h.free, rfl, p, List.mem_singleton_self p, h.resolve_directory⟩
  · rw [if_neg hr]
    exact .inl rfl

theorem makesOnly_makeDirectory (h : fs.makeDirectory p = .ok after) : MakesOnly fs after [p] := by
  obtain ⟨target, hput, rfl⟩ := makeDirectory_ok h
  exact hput.makesOnly

theorem makesOnly_settle (fs : FileSystem) (p : Path) : MakesOnly fs (fs.settle p).1 [p] := by
  unfold settle
  split
  · rename_i made hmade
    exact makesOnly_makeDirectory hmade
  · split
    · exact .refl fs _
    · exact .refl fs _

/-- Whatever the outcome, only directories on the way are made. -/
theorem makesOnly_makeAll (fs : FileSystem) (paths : List Path) :
    MakesOnly fs (fs.makeAll paths).1 paths := by
  induction paths with
  | nil => exact .refl fs _
  | cons p parents ih =>
    have hfirst : [p] ⊆ p :: parents := by simp
    unfold makeAll
    split
    · exact .refl fs _
    · split
      · rename_i made hmade
        exact (makesOnly_makeDirectory hmade).mono hfirst
      · -- the parents come first, whether or not that succeeds
        have hparents := ih.mono (List.subset_cons_self p parents)
        split
        · rename_i made hmade
          rw [hmade] at hparents
          exact hparents.trans ((makesOnly_settle made p).mono hfirst)
        · rename_i made e hmade
          rw [hmade] at hparents
          exact hparents
      · split
        · exact .refl fs _
        · exact .refl fs _

theorem makesOnly_makeDirectories (fs : FileSystem) (p : Path) :
    MakesOnly fs (fs.makeDirectories p).1 (p :: p.parents) :=
  makesOnly_makeAll fs (p :: p.parents)

end FileSystem

/-! ## Which directories can be given -/

variable {s s' : Session} {sorted : SortedTokens} {defaults : ShippedFiles}
  {surroundings : Surroundings} {files : FileSystem} {flags : NamedFlags} {tokens : List String}
  {roles : List TokenRole} {inputs : DecidedInputs} {d : Path}

theorem isText_of_workdir_mem (h : List.Forall₂ (MayStandFor files flags) tokens roles)
    (hmem : .workdir d ∈ roles) : IsText d.bytes := by
  induction h with
  | nil => exact absurd hmem List.not_mem_nil
  | cons hrole _ ih =>
    rcases List.mem_cons.1 hmem with rfl | hmem
    · obtain ⟨_, _, hrole⟩ := hrole
      rcases hrole.standsFor with ⟨rfl, -⟩ | ⟨text, rfl, -⟩
      · exact Path.isText_ofText _
      · exact Path.isText_ofText _
    · exact ih hmem

/-- A directory comes from the flag, or a text names it. -/
theorem workdir_of_sorted (h : sortTokens files flags sortingRules tokens = .ok sorted)
    (hd : sorted.workdir = some d) : flags.workdir = some d ∨ IsText d.bytes := by
  obtain ⟨found, hfound, hconclude⟩ := sortTokens_ok h
  obtain ⟨roles, hroles, rfl⟩ := takeAll_ok hfound
  have hknown : d ∈ sorted.workdir.toList := by simp [hd]
  rw [← (conclude_addAll_iff.1 hconclude).workdir] at hknown
  rcases List.mem_append.1 hknown with hflag | htoken
  · exact .inl (Option.mem_toList.1 hflag)
  · obtain ⟨role, hmem, hrole⟩ := List.mem_filterMap.1 htoken
    cases role with
    | workdir directory =>
      obtain rfl := Option.some.inj hrole
      exact .inr (isText_of_workdir_mem hroles hmem)
    | number n => exact absurd hrole (by simp [TokenRole.workdir?])
    | parameterFile file => exact absurd hrole (by simp [TokenRole.workdir?])
    | option text => exact absurd hrole (by simp [TokenRole.workdir?])

/-! ## What is made of it -/

/-- **A directory that is given.** Where the decision succeeds, the run works in the directory that
the given path shows as, whatever else is stored, and in the tree only that directory and parents
of it are new. It is the given one exactly if that is text, as it is unless it comes from the flag;
and it is there unless the given path is empty. -/
theorem given_workdir_taken_iff (hd : sorted.workdir = some d)
    (h : (decideInputs sorted defaults surroundings).runOn s = (.ok inputs, s')) :
    (inputs.workdir = d ↔ IsText d.bytes)
      ∧ inputs.workdir = .ofText d.text
      ∧ s'.params.get? workdirKey = some d.text
      ∧ (s'.files.isDirectory inputs.workdir = true ↔ d.bytes ≠ [])
      ∧ FileSystem.MakesOnly s.files s'.files (inputs.workdir :: inputs.workdir.parents)
      ∧ ∀ files flags tokens, sortTokens files flags sortingRules tokens = .ok sorted →
        flags.workdir = some d ∨ IsText d.bytes := by
  obtain ⟨⟨n, file, isDefault⟩, s₁, hnumber, h⟩ := bind_ok h
  obtain ⟨w, s₂, hdecide, h⟩ := bind_ok h
  obtain ⟨rfl, rfl⟩ := pure_ok h
  obtain ⟨as, hn⟩ := decideNumber_ok hnumber
  rw [hd] at hdecide
  have hnamed : namedWorkdir (some d) s₁.params = some d.text := rfl
  obtain ⟨-, hfiles, hpath⟩ := decideWorkdir_of_named hnamed hdecide
  obtain rfl := hpath w rfl
  have hvisible := (decideWorkdir_ok hdecide).visible
  rw [Path.text_ofText] at hvisible
  have hthere := decideWorkdir_there_iff hdecide
  rw [hnamed, ne_eq, Option.some_inj, Path.text_eq_empty_iff] at hthere
  refine ⟨Path.ofText_text_iff, rfl, hvisible, hthere, ?_, fun _ _ _ hsorted =>
    workdir_of_sorted hsorted hd⟩
  rw [← hn.files]
  rcases hfiles with hkept | hmade
  · rw [hkept]
    exact .refl _ _
  · rw [hmade]
    exact FileSystem.makesOnly_makeDirectories _ _

/-- A parameter file that names a working directory, and a directory named with a replacement
character. -/
def namedElsewhere : FileSystem :=
  ⟨[([utf8 "f"], .file (utf8 "N = 5\ntasks.workdir = other\n")),
    ([utf8 "a\uFFFD"], .directory)], []⟩

/-- A decision with that file and the given directory. -/
def decisionIn (d : Path) : Except RunError DecidedInputs × Session :=
  (decideInputs { parameters := some (.ofText "/f"), workdir := some d }
    ⟨.ofText "/data", .factoring, 0⟩ {}).runOn (.ofFiles namedElsewhere)

/-- The directory of the command line is made with its parent, and not the one in the file. -/
theorem given_workdir_made :
    ∃ inputs s', decisionIn (.ofText "w//x") = (.ok inputs, s')
      ∧ inputs.workdir = .ofText "w//x"
      ∧ s'.params.get? workdirKey = some "w//x"
      ∧ s'.files.isDirectory (.ofText "w//x") = true
      ∧ FileSystem.MakesOnly namedElsewhere s'.files
        [.ofText "w//x", .ofText "w", .empty] := by
  have htest : passes (decisionIn (.ofText "w//x")) (fun _ => true) = true := by decide +kernel
  obtain ⟨inputs, s', hrun, -⟩ := exists_ok_of_passes htest
  obtain ⟨hiff, -, hvisible, hthere, honly, -⟩ := given_workdir_taken_iff rfl hrun
  have hd := hiff.2 (Path.isText_ofText _)
  rw [hd] at hthere honly
  rw [Path.text_ofText] at hvisible
  refine ⟨inputs, s', hrun, hd, hvisible, hthere.2 (by decide +kernel), ?_⟩
  have hparents : (Path.ofText "w//x").parents = [.ofText "w", .empty] := by decide +kernel
  rwa [hparents] at honly

/-- Bytes that are no text: the run works in a directory of another name, which happens to be
there, and the given one is not made. -/
theorem undecodable_workdir_replaced :
    ∃ inputs s', decisionIn ⟨[0x61, 0xFF]⟩ = (.ok inputs, s')
      ∧ inputs.workdir = .ofText "a\uFFFD"
      ∧ inputs.workdir ≠ ⟨[0x61, 0xFF]⟩
      ∧ s'.files.isDirectory ⟨[0x61, 0xFF]⟩ = false := by
  have htest : passes (decisionIn ⟨[0x61, 0xFF]⟩) (fun inputs =>
      decide (inputs.workdir = .ofText "a\uFFFD" ∧ inputs.workdir ≠ ⟨[0x61, 0xFF]⟩)) = true := by
    decide +kernel
  obtain ⟨inputs, s', hrun, hinputs⟩ := exists_ok_of_passes htest
  obtain ⟨hw, hne⟩ := of_decide_eq_true hinputs
  have hmissing : (decisionIn ⟨[0x61, 0xFF]⟩).2.files.isDirectory ⟨[0x61, 0xFF]⟩ = false := by
    decide +kernel
  rw [hrun] at hmissing
  exact ⟨inputs, s', hrun, hw, hne, hmissing⟩

end SieveRun
