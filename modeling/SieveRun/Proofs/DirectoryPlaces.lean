import SieveRun.Proofs.AbsolutePaths
import SieveRun.Proofs.Roles

/-!
# Places for a directory

A token is taken for the working directory if it leads to a directory, or to nothing while its
parent is there. Whether the directory can then be made depends on more than that: the parent has
to be a directory, and the last name of the path has to be the last thing it says. The parent of
`./new/.` is the current directory, but making it is refused as long as `./new` is missing.

Both the parent and the place where a directory is made are found by walking to a directory
(`directoryAt`), and such a walk goes by the steps of the path alone (`directoryAt_filter`). So the
walk to the place is the walk to the parent, and one more step at most; the rest is a comparison
of what can go wrong at the end of it (`hasRoom_iff`).
-/

namespace SieveRun

open Text

/-! ## The parent of a path -/

namespace Path

variable {p q : Path}

/-- The last run of the path, slashes at the end apart, is a full stop. -/
def EndsInDot (p : Path) : Prop :=
  (FileSystem.withoutEndSlashes (pieces slash p.bytes)).getLast? = some [dot]

/-- Components are steps behind what the path starts with: the root, a full stop or nothing. -/
theorem exists_components_eq (p : Path) :
    ∃ start : List Component, p.components = start ++ p.stepComponents
      ∧ (start = [.root] ∧ p.isAbsolute = true
        ∨ (start = [.here] ∨ start = []) ∧ p.isAbsolute = false) := by
  unfold components
  by_cases habs : p.isAbsolute = true
  · exact ⟨[.root], by simp only [habs, if_true]; rfl, .inl ⟨rfl, habs⟩⟩
  · have hrelative : p.isAbsolute = false := by simpa using habs
    simp only [hrelative, Bool.false_eq_true, if_false]
    split
    · exact ⟨[.here], rfl, .inr ⟨.inl rfl, trivial⟩⟩
    · exact ⟨[], rfl, .inr ⟨.inr rfl, trivial⟩⟩

/-- The parent starts where the path does and goes by all of its steps but the last. -/
theorem parent?_eq_some (h : p.parent? = some q) :
    q.isAbsolute = p.isAbsolute ∧ q.steps = p.steps.dropLast ∧ (p.steps = [] → q.bytes = []) := by
  obtain ⟨start, hcomponents, hstart⟩ := p.exists_components_eq
  have hsteps := p.map_bytes_stepComponents
  unfold parent? at h
  rw [hcomponents] at h
  rcases List.eq_nil_or_concat' p.stepComponents with hnil | ⟨front, last, hfront⟩
  · -- without steps only a full stop has a parent, the empty path
    rw [hnil, List.map_nil] at hsteps
    rw [hnil, List.append_nil] at h
    rcases hstart with ⟨rfl, -⟩ | ⟨rfl | rfl, hrelative⟩
    · exact absurd h (by simp)
    · obtain rfl := Option.some.inj h
      rw [hrelative, ← hsteps]
      exact ⟨rfl, rfl, fun _ => rfl⟩
    · exact absurd h (by simp)
  · have hspelled : ∀ c ∈ front, slash ∉ c.bytes ∧ isStep c.bytes = true := fun c hc =>
      stepComponents_spelled (by rw [hfront]; exact List.mem_append_left _ hc)
    have hslash : ∀ c ∈ front, slash ∉ c.bytes := fun c hc => (hspelled c hc).1
    have hdrop : p.steps.dropLast = front.map Component.bytes := by
      rw [← hsteps, hfront, List.map_append, List.map_singleton, List.dropLast_concat]
    have hne : p.steps ≠ [] := by
      rw [← hsteps, hfront]
      simp
    -- the last component is a step and not the root, so the parent is made of the others
    have hq : q = ofComponents (start ++ front) := by
      have hlast : last ≠ .root := by
        intro hroot
        have hmem : last ∈ p.stepComponents := by simp [hfront]
        refine (stepComponents_spelled hmem).1 ?_
        rw [hroot]
        exact List.mem_singleton_self _
      rw [hfront, ← List.append_assoc, List.getLast?_concat, List.dropLast_concat] at h
      cases last with
      | root => exact absurd rfl hlast
      | here => exact (Option.some.inj h).symm
      | up => exact (Option.some.inj h).symm
      | name bytes => exact (Option.some.inj h).symm
    rw [hdrop]
    refine ⟨?_, ?_, fun hnil => absurd hnil hne⟩
    · rw [hq, ofComponents, List.foldl_append]
      rw [isAbsolute_foldl_join hslash]
      rcases hstart with ⟨rfl, habs⟩ | ⟨rfl | rfl, hrelative⟩
      · exact habs.symm
      · exact hrelative.symm
      · exact hrelative.symm
    · rw [hq, ofComponents, List.foldl_append, steps_foldl_join hspelled]
      rcases hstart with ⟨rfl, -⟩ | ⟨rfl | rfl, -⟩ <;> rfl

end Path

namespace FileSystem

variable {fs : FileSystem} {p q : Path} {r next : Route} {names runs : List Name} {name : Name}
  {e : FileError}

/-! ## Walking to a directory -/

/-- The directory at the end of a walk. -/
def directoryAt (fs : FileSystem) (r : Route) (names : List Name) : Except FileError Route :=
  (fs.walk r names).bind fun r' =>
    if fs.entry? r' = some .directory then .ok r' else .error .notDirectory

theorem directoryAt_eq_ok_iff {r' : Route} :
    fs.directoryAt r names = .ok r' ↔
      fs.walk r names = .ok r' ∧ fs.entry? r' = some .directory := by
  unfold directoryAt
  cases fs.walk r names with
  | error e => simp [Except.bind]
  | ok mid =>
    simp only [Except.bind, Except.ok.injEq]
    constructor
    · intro h
      split at h
      · rename_i hdir
        obtain rfl := Except.ok.inj h
        exact ⟨rfl, hdir⟩
      · exact absurd h (by simp)
    · intro h
      obtain ⟨rfl, hdir⟩ := h
      rw [if_pos hdir]

theorem directoryAt_nil_of_directory (h : fs.entry? r = some .directory) :
    fs.directoryAt r [] = .ok r :=
  directoryAt_eq_ok_iff.2 ⟨by rw [walk, h]; rfl, h⟩

theorem directoryAt_cons_of_directory (h : fs.entry? r = some .directory) (name : Name) :
    fs.directoryAt r (name :: names) =
      (step r name).bind fun next => fs.directoryAt next names := by
  rw [directoryAt, walk_of_directory h]
  cases step r name with
  | error e => rfl
  | ok next => rfl

/-- What is no directory is no start for a walk either. -/
theorem directoryAt_of_not_directory (h : fs.entry? r ≠ some .directory) :
    ∃ e, (e = .notFound ∨ e = .notDirectory) ∧ ∀ names, fs.directoryAt r names = .error e := by
  cases he : fs.entry? r with
  | none =>
    refine ⟨.notFound, .inl rfl, fun names => ?_⟩
    cases names with
    | nil => rw [directoryAt, walk, he]; rfl
    | cons name names => rw [directoryAt, walk, he]; rfl
  | some entry =>
    refine ⟨.notDirectory, .inr rfl, fun names => ?_⟩
    have hno : entry ≠ .directory := fun hdir => h (hdir ▸ he)
    cases names with
    | nil =>
      rw [directoryAt, walk, he]
      exact if_neg fun hdir => hno (Option.some.inj (he.symm.trans hdir))
    | cons name names =>
      rw [directoryAt, walk, he]
      cases entry with
      | directory => exact absurd rfl hno
      | file content => rfl
      | device => rfl

/-- A walk may stop at any directory on its way. -/
theorem directoryAt_append (r : Route) (names more : List Name) :
    fs.directoryAt r (names ++ more) =
      (fs.directoryAt r names).bind fun mid => fs.directoryAt mid more := by
  induction names generalizing r with
  | nil =>
    rw [List.nil_append]
    by_cases h : fs.entry? r = some .directory
    · rw [directoryAt_nil_of_directory h]
      rfl
    · obtain ⟨e, -, hall⟩ := directoryAt_of_not_directory h
      rw [hall, hall]
      rfl
  | cons name names ih =>
    rw [List.cons_append]
    by_cases h : fs.entry? r = some .directory
    · rw [directoryAt_cons_of_directory h, directoryAt_cons_of_directory h]
      cases step r name with
      | error e => rfl
      | ok next => exact ih next
    · obtain ⟨e, -, hall⟩ := directoryAt_of_not_directory h
      rw [hall, hall]
      rfl

/-- On the way to a directory only steps count. -/
theorem directoryAt_filter (r : Route) (runs : List Name) :
    fs.directoryAt r runs = fs.directoryAt r (runs.filter Path.isStep) := by
  induction runs generalizing r with
  | nil => rfl
  | cons run runs ih =>
    by_cases h : fs.entry? r = some .directory
    · by_cases hstep : Path.isStep run = true
      · rw [List.filter_cons_of_pos hstep, directoryAt_cons_of_directory h,
          directoryAt_cons_of_directory h]
        simp only [ih]
      · have hstay : step r run = .ok r := by
          rw [step, if_pos (Path.isStep_eq_false_iff.1 (by simpa using hstep))]
        rw [List.filter_cons_of_neg hstep, directoryAt_cons_of_directory h, hstay, ← ih]
        rfl
    · obtain ⟨e, -, hall⟩ := directoryAt_of_not_directory h
      rw [hall, hall]

/-- A path leads to a directory by its steps. -/
theorem directoryAt_steps (hres : fs.resolve p = .ok r) :
    fs.directoryAt (fs.start p) p.steps =
      if fs.entry? r = some .directory then .ok r else .error .notDirectory := by
  obtain ⟨-, hwalk⟩ := resolve_ok hres
  rw [Path.steps, ← directoryAt_filter, directoryAt, hwalk]
  rfl

theorem isThere_of_directoryAt (hfault : pathFault? p = none)
    (h : fs.directoryAt (fs.start p) p.steps = .ok r) : fs.isThere p = true := by
  rw [Path.steps, ← directoryAt_filter, directoryAt_eq_ok_iff] at h
  obtain ⟨hwalk, hdir⟩ := h
  have hres : fs.resolve p = .ok r := by
    rw [resolve, hfault]
    exact hwalk
  rw [isThere, find?_eq_some_iff.2 ⟨r, hres, hdir⟩]
  rfl

/-! ## Where a directory is made -/

theorem place_eq (hfault : pathFault? p = none) :
    fs.place p =
      (fs.directoryAt (fs.start p) (withoutEndSlashes (pieces Path.slash p.bytes)).dropLast).map
        fun r => (r, (withoutEndSlashes (pieces Path.slash p.bytes)).getLast?) := by
  rw [place, hfault, directoryAt]
  dsimp only
  cases fs.walk (fs.start p) (withoutEndSlashes (pieces Path.slash p.bytes)).dropLast with
  | error e => rfl
  | ok mid =>
    simp only [Except.bind]
    split <;> rfl

/-- Slashes at the end are no steps. -/
theorem filter_withoutEndSlashes (p : Path) :
    (withoutEndSlashes (pieces Path.slash p.bytes)).filter Path.isStep = p.steps := by
  obtain ⟨rest, hruns, hrest⟩ := withoutEndSlashes_append (pieces Path.slash p.bytes)
  have hempty : rest.filter Path.isStep = [] :=
    List.filter_eq_nil_iff.2 fun piece hpiece => by simp [hrest piece hpiece, Path.isStep]
  have hall := congrArg (List.filter Path.isStep) hruns
  rw [List.filter_append, hempty, List.append_nil] at hall
  exact hall.symm

/-- Behind a full stop nothing is ever made. -/
theorem makeDirectory_of_endsInDot (hfault : pathFault? p = none) (hdot : p.EndsInDot) :
    fs.makeDirectory p =
      (fs.directoryAt (fs.start p) p.steps).bind fun _ => .error .alreadyThere := by
  obtain ⟨front, hfront⟩ := List.getLast?_eq_some_iff.1 hdot
  have hsteps := filter_withoutEndSlashes p
  rw [hfront, List.filter_append] at hsteps
  have hfilter : front.filter Path.isStep = p.steps := by simpa [Path.isStep] using hsteps
  rw [makeDirectory, place_eq hfault, hfront, List.dropLast_concat, List.getLast?_concat,
    directoryAt_filter, hfilter]
  cases fs.directoryAt (fs.start p) p.steps with
  | error e => rfl
  | ok r => rfl

/-- A directory is made in the one that all steps but the last lead to. -/
theorem makeDirectory_of_steps (hfault : pathFault? p = none) (hdot : ¬ p.EndsInDot)
    (hsteps : p.steps = names ++ [name]) :
    fs.makeDirectory p =
      (fs.directoryAt (fs.start p) names).bind fun r =>
        if isDots name then .error .alreadyThere
        else (within r name).bind fun target =>
          if (fs.entry? target).isSome then .error .alreadyThere
          else .ok (fs.add target .directory) := by
  have hfilter := filter_withoutEndSlashes p
  rw [hsteps] at hfilter
  rcases List.eq_nil_or_concat' (withoutEndSlashes (pieces Path.slash p.bytes)) with
    hnil | ⟨front, last, hfront⟩
  · rw [hnil] at hfilter
    exact absurd hfilter (by simp)
  have hlast : (withoutEndSlashes (pieces Path.slash p.bytes)).getLast? = some last := by
    rw [hfront, List.getLast?_concat]
  -- the last run is neither empty nor a full stop, so it is the last step
  have hstep : Path.isStep last = true := by
    by_contra hno
    rcases Path.isStep_eq_false_iff.1 (by simpa using hno) with rfl | rfl
    · exact getLast?_withoutEndSlashes_ne _ hlast
    · exact hdot hlast
  rw [hfront, List.filter_append, List.filter_cons_of_pos hstep, List.filter_nil] at hfilter
  obtain ⟨hfront', hname⟩ := List.append_inj' hfilter rfl
  obtain rfl := (List.cons.inj hname).1
  rw [makeDirectory, place_eq hfault, hfront, List.dropLast_concat, List.getLast?_concat,
    directoryAt_filter, hfront']
  cases fs.directoryAt (fs.start p) names with
  | error e => rfl
  | ok r => rfl

/-- Where a directory is, none is made. -/
theorem makeDirectory_of_isDirectory (h : fs.isDirectory p = true) :
    fs.makeDirectory p = .error .alreadyThere := by
  obtain ⟨r, hres, hdir⟩ := isDirectory_iff.1 h
  obtain ⟨hfault, hwalk⟩ := resolve_ok hres
  obtain ⟨rest, hpieces, -⟩ := withoutEndSlashes_append (pieces Path.slash p.bytes)
  rw [hpieces] at hwalk
  rcases List.eq_nil_or_concat' (withoutEndSlashes (pieces Path.slash p.bytes)) with
    hnil | ⟨front, last, hfront⟩
  · -- only slashes: the place is the root itself
    rw [hnil, List.nil_append] at hpieces hwalk
    obtain ⟨piece, rest', rfl⟩ : ∃ piece rest', rest = piece :: rest' := by
      cases rest with
      | nil => exact absurd hpieces (pieces_ne_nil _ _)
      | cons piece rest' => exact ⟨piece, rest', rfl⟩
    have hroot := (walk_cons_ok hwalk).1
    rw [makeDirectory, place_eq hfault, hnil, List.dropLast_nil,
      directoryAt_nil_of_directory hroot]
    rfl
  · -- the walk passes through the directory that holds the last name
    rw [hfront, List.append_assoc] at hwalk
    obtain ⟨mid, hmid, hlast⟩ := walk_append_ok hwalk
    obtain ⟨hmidDir, next, hstep, hnext⟩ := walk_cons_ok hlast
    have hat : fs.directoryAt (fs.start p) front = .ok mid :=
      directoryAt_eq_ok_iff.2 ⟨hmid, hmidDir⟩
    have hne : last ≠ [] := by
      intro hempty
      refine getLast?_withoutEndSlashes_ne (pieces Path.slash p.bytes) ?_
      rw [hfront, hempty, List.getLast?_concat]
    rw [makeDirectory, place_eq hfault, hfront, List.dropLast_concat, List.getLast?_concat, hat]
    simp only [Except.map]
    by_cases hdots : isDots last = true
    · rw [if_pos hdots]
    · rw [step_eq_within hne (by simpa using hdots)] at hstep
      rw [if_neg hdots, hstep]
      exact if_pos (isSome_of_walk_ok hnext)

/-! ## Whether there is room -/

/-- Making the directory does not fail for want of a directory to make it in: neither is there
none, nor is there something else in its place. -/
def HasRoom (fs : FileSystem) (p : Path) : Prop :=
  fs.makeDirectory p ≠ .error .notFound ∧ fs.makeDirectory p ≠ .error .notDirectory

/-- The parent is a directory that takes a step to the last name of the path, where the path ends;
or the name alone is refused, since it is too long. -/
def TakesName (fs : FileSystem) (parent p : Path) : Prop :=
  ∃ r name, fs.resolve parent = .ok r ∧ fs.entry? r = some .directory
    ∧ p.steps.getLast? = some name
    ∧ (step r name = .error .nameTooLong ∨ (∃ next, step r name = .ok next) ∧ ¬ p.EndsInDot)

theorem hasRoom_of_eq_error (h : fs.makeDirectory p = .error e) :
    fs.HasRoom p ↔ e ≠ .notFound ∧ e ≠ .notDirectory := by
  rw [HasRoom, h]
  simp

theorem step_error (h : step r name = .error e) : e = .notFound ∨ e = .nameTooLong := by
  unfold step at h
  split at h
  · exact absurd h (by simp)
  split at h
  · exact absurd h (by simp)
  unfold within at h
  split at h
  · exact .inl (Except.error.inj h).symm
  · split at h
    · exact .inr (Except.error.inj h).symm
    · exact absurd h (by simp)

/-- What is wrong with the path itself says nothing about directories. -/
theorem hasRoom_of_pathFault (hne : p.bytes ≠ []) (hfault : pathFault? p ≠ none) :
    fs.HasRoom p := by
  obtain ⟨fault, hsome⟩ := Option.ne_none_iff_exists'.1 hfault
  have hmake : fs.makeDirectory p = .error fault := by
    rw [makeDirectory, place, hsome]
  have hcases : fault = .nulByte ∨ fault = .nameTooLong := by
    unfold pathFault? at hsome
    split at hsome
    · exact .inl (Option.some.inj hsome).symm
    · split at hsome
      · exact .inr (Option.some.inj hsome).symm
      · exact absurd hsome (by simp)
  rw [hasRoom_of_eq_error hmake]
  rcases hcases with rfl | rfl <;> simp

section
variable (hfault : pathFault? p = none) (hsteps : p.steps = names ++ [name])
include hfault hsteps

/-- Where the parent is not a directory, no directory can be made. -/
theorem makeDirectory_of_parent_error (h : fs.directoryAt (fs.start p) names = .error e) :
    fs.makeDirectory p = .error e := by
  by_cases hdot : p.EndsInDot
  · rw [makeDirectory_of_endsInDot hfault hdot, hsteps, directoryAt_append, h]
    rfl
  · rw [makeDirectory_of_steps hfault hdot hsteps, h]
    rfl

/-- In a directory there is room for a name, unless the step to it fails. -/
theorem hasRoom_of_not_endsInDot (hdot : ¬ p.EndsInDot)
    (h : fs.directoryAt (fs.start p) names = .ok r) :
    fs.HasRoom p ↔ step r name = .error .nameTooLong ∨ ∃ next, step r name = .ok next := by
  have hmake : fs.makeDirectory p = _ := makeDirectory_of_steps hfault hdot hsteps
  rw [h] at hmake
  simp only [Except.bind] at hmake
  have hmem : name ∈ p.steps := by simp [hsteps]
  have hname : Path.isStep name = true := (List.mem_filter.1 hmem).2
  by_cases hdots : isDots name = true
  · -- the parent of a directory is always there
    rw [if_pos hdots] at hmake
    have hup : name = [Path.dot, Path.dot] := by
      rcases Bool.or_eq_true_iff.1 hdots with hhere | hup
      · rw [beq_iff_eq.1 hhere] at hname
        exact absurd hname (by decide)
      · exact beq_iff_eq.1 hup
    have hstep : step r name = .ok r.dropLast := by
      rw [hup]
      rfl
    rw [hasRoom_of_eq_error hmake, hstep]
    simp
  · have hne : name ≠ [] := by
      rintro rfl
      exact absurd hname (by decide)
    rw [if_neg hdots, ← step_eq_within hne (by simpa using hdots)] at hmake
    cases hstep : step r name with
    | error e =>
      rw [hstep] at hmake
      rw [hasRoom_of_eq_error hmake]
      rcases step_error hstep with rfl | rfl <;> simp
    | ok next =>
      rw [hstep] at hmake
      dsimp only at hmake
      refine ⟨fun _ => .inr ⟨next, rfl⟩, fun _ => ?_⟩
      split at hmake
      · rw [hasRoom_of_eq_error hmake]
        simp
      · rw [HasRoom, hmake]
        simp

/-- Behind a full stop there is room only where the name before it is refused. -/
theorem hasRoom_of_endsInDot (hmissing : fs.isThere p = false) (hdot : p.EndsInDot)
    (h : fs.directoryAt (fs.start p) names = .ok r) :
    fs.HasRoom p ↔ step r name = .error .nameTooLong := by
  have hmake : fs.makeDirectory p = _ := makeDirectory_of_endsInDot hfault hdot
  have hat : fs.directoryAt (fs.start p) p.steps =
      (step r name).bind fun next => fs.directoryAt next [] := by
    rw [hsteps, directoryAt_append, h]
    exact directoryAt_cons_of_directory (directoryAt_eq_ok_iff.1 h).2 name
  cases hstep : step r name with
  | error e =>
    have herror : fs.makeDirectory p = .error e := by
      rw [hmake, hat, hstep]
      rfl
    rw [hasRoom_of_eq_error herror]
    rcases step_error hstep with rfl | rfl <;> simp
  | ok next =>
    -- the path is missing, so the name before the full stop is no directory
    have hno : fs.entry? next ≠ some .directory := by
      intro hdir
      rw [hstep] at hat
      have hok := hat.trans (directoryAt_nil_of_directory hdir)
      exact absurd (isThere_of_directoryAt hfault hok) (by simp [hmissing])
    obtain ⟨e, he, hall⟩ := directoryAt_of_not_directory hno
    have herror : fs.makeDirectory p = .error e := by
      rw [hmake, hat, hstep]
      simp only [Except.bind, hall]
    rw [hasRoom_of_eq_error herror]
    rcases he with rfl | rfl <;> simp

end

/-- A path whose parent is there goes one step further than the parent. -/
theorem exists_last_step (hparent : p.parent? = some q) (hres : fs.resolve q = .ok r) :
    ∃ name, p.steps = q.steps ++ [name] := by
  obtain ⟨-, hsteps, hempty⟩ := Path.parent?_eq_some hparent
  obtain ⟨hfine, -⟩ := resolve_ok hres
  have hne : p.steps ≠ [] := fun hnil => (pathFault?_eq_none_iff.1 hfine).2.1 (hempty hnil)
  exact ⟨p.steps.getLast hne, by rw [hsteps, List.dropLast_append_getLast]⟩

/-- There is room at a missing path whose parent is there exactly if the parent takes its name. -/
theorem hasRoom_iff (hmissing : fs.isThere p = false) (hparent : p.parent? = some q)
    (hthere : fs.isThere q = true) :
    fs.HasRoom p ↔ pathFault? p ≠ none ∨ fs.TakesName q p := by
  obtain ⟨r, hres⟩ := exists_route_of_isThere hthere
  obtain ⟨name, hsteps⟩ := exists_last_step hparent hres
  by_cases hfault : pathFault? p = none
  case neg =>
    have hne : p.bytes ≠ [] := by
      intro hnil
      have hnone : p.steps = [] := by
        rw [Path.steps, hnil]
        rfl
      rw [hnone] at hsteps
      exact absurd hsteps (by simp)
    exact ⟨fun _ => .inl hfault, fun _ => hasRoom_of_pathFault hne hfault⟩
  -- the walk to the place is the walk to the parent
  have hstart : fs.start p = fs.start q := by
    rw [start, start, (Path.parent?_eq_some hparent).1]
  have hat := directoryAt_steps hres
  rw [← hstart] at hat
  have htakes : fs.TakesName q p ↔ fs.entry? r = some .directory
      ∧ (step r name = .error .nameTooLong
        ∨ (∃ next, step r name = .ok next) ∧ ¬ p.EndsInDot) := by
    have hlast : p.steps.getLast? = some name := by rw [hsteps, List.getLast?_concat]
    constructor
    · intro h
      obtain ⟨r', name', hres', hdir, hlast', hstep⟩ := h
      obtain rfl := Except.ok.inj (hres.symm.trans hres')
      obtain rfl := Option.some.inj (hlast.symm.trans hlast')
      exact ⟨hdir, hstep⟩
    · intro h
      exact ⟨r, name, hres, h.1, hlast, h.2⟩
  rw [htakes, or_iff_right (not_not_intro hfault)]
  by_cases hdir : fs.entry? r = some .directory
  · rw [if_pos hdir] at hat
    by_cases hdot : p.EndsInDot
    · rw [hasRoom_of_endsInDot hfault hsteps hmissing hdot hat]
      simp [hdir, hdot]
    · rw [hasRoom_of_not_endsInDot hfault hsteps hdot hat]
      simp [hdir, hdot]
  · rw [if_neg hdir] at hat
    rw [hasRoom_of_eq_error (makeDirectory_of_parent_error hfault hsteps hat)]
    simp [hdir]

end FileSystem

/-! ## The places that a rule takes -/

section
variable {context : TokenContext} {token : String}

theorem isDirectoryPlace_of_applies (h : workdirPathRule.applies context token = true) :
    context.files.isDirectoryPlace (.ofText token) = true :=
  (Bool.and_eq_true_iff.1 h).2

/-- A token that is taken for a working directory leads to a directory, or to nothing while its
parent is there. At a directory there is nothing to be made, and at any other such place there is
room exactly if the parent takes the name, or if the path is none for a reason of its own. -/
theorem room_of_workdirPathRule (h : workdirPathRule.applies context token = true) :
    context.files.isDirectory (.ofText token) = true
        ∧ context.files.HasRoom (.ofText token)
      ∨ context.files.isThere (.ofText token) = false
        ∧ ∃ parent, (Path.ofText token).parent? = some parent
          ∧ context.files.isThere parent = true
          ∧ (context.files.HasRoom (.ofText token) ↔
            FileSystem.pathFault? (.ofText token) ≠ none
              ∨ context.files.TakesName parent (.ofText token)) := by
  have hplace := isDirectoryPlace_of_applies h
  rcases Bool.or_eq_true_iff.1 hplace with hdir | hfree
  · left
    have hmake := FileSystem.makeDirectory_of_isDirectory hdir
    refine ⟨hdir, (FileSystem.hasRoom_of_eq_error hmake).2 ?_⟩
    simp
  · right
    obtain ⟨hmissing, hparent⟩ := Bool.and_eq_true_iff.1 hfree
    have hmissing : context.files.isThere (.ofText token) = false := by simpa using hmissing
    obtain ⟨parent, hsome, hthere⟩ := (Option.any_eq_true _ _).1 hparent
    exact ⟨hmissing, parent, hsome, hthere, FileSystem.hasRoom_iff hmissing hsome hthere⟩

end

/-- A directory `d` and a file `f` below the root, with nothing known before a token. -/
def rootContext : TokenContext :=
  ⟨⟨[([utf8 "d"], .directory), ([utf8 "f"], .file [])], []⟩, {}, 0, 0⟩

theorem room_in_directory :
    workdirPathRule.applies rootContext "d/new" = true
      ∧ rootContext.files.HasRoom (.ofText "d/new") := by
  have happlies : workdirPathRule.applies rootContext "d/new" = true := by decide +kernel
  refine ⟨happlies, ?_⟩
  rcases room_of_workdirPathRule happlies with ⟨-, hroom⟩ | ⟨-, parent, hparent, -, hroom⟩
  · exact hroom
  · have hd : (Path.ofText "d/new").parent? = some (.ofText "d") := by decide +kernel
    obtain rfl := Option.some.inj (hparent.symm.trans hd)
    have hstep : FileSystem.step [utf8 "d"] (utf8 "new") = .ok [utf8 "d", utf8 "new"] := by
      decide +kernel
    have hdot : ¬ (Path.ofText "d/new").EndsInDot := by
      unfold Path.EndsInDot
      decide +kernel
    refine hroom.2 (.inr ⟨[utf8 "d"], utf8 "new", ?_, ?_, ?_, .inr ⟨⟨_, hstep⟩, hdot⟩⟩)
    · decide +kernel
    · decide +kernel
    · decide +kernel

/-- Neither below a file nor behind a full stop can a directory be made, but both are taken for
places where it can. -/
theorem no_room_below_file :
    workdirPathRule.applies rootContext "f/sub" = true
      ∧ rootContext.files.isDirectory (.ofText "f/sub") = false
      ∧ (Path.ofText "f/sub").parent? = some (.ofText "f")
      ∧ rootContext.files.isDirectory (.ofText "f") = false
      ∧ rootContext.files.makeDirectory (.ofText "f/sub") = .error .notDirectory
      ∧ workdirPathRule.applies rootContext "./new/." = true
      ∧ rootContext.files.makeDirectory (.ofText "./new/.") = .error .notFound := by
  refine ⟨?_, ?_, ?_, ?_, ?_, ?_, ?_⟩ <;> decide +kernel

end SieveRun
