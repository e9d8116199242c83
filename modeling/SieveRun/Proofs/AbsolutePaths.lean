import SieveRun.Proofs.Steps

/-!
# Absolute paths

The absolute path of a path goes from the root by the steps of the current directory and then by
those of the path (`AbsoluteOf`). The empty path has one in this sense, although it has no
absolute form; every absolute form that there is, is one (`absoluteOf_absolute`). Where a name
below a path leads depends on the steps of the path alone (`walk_child`), so a path and its
absolute path lead a name to the same entry (`AbsoluteOf.find?_child`).
-/

namespace SieveRun.FileSystem

open Text

variable {fs : FileSystem} {p base full : Path} {r r' : Route} {names : List Name} {name : String}

/-- The absolute path of `p`: it goes from the root by the steps of the current directory, unless
`p` is absolute, and then by the steps of `p`. So the empty path has one, the current
directory's. -/
structure AbsoluteOf (fs : FileSystem) (p full : Path) : Prop where
  isAbsolute : full.isAbsolute = true
  steps : ∃ base, fs.base p = .ok base ∧ full.steps = base.steps ++ p.steps

theorem absolute_eq_of_base (hp : p.bytes ≠ []) (hb : fs.base p = .ok base) :
    fs.absolute p = .ok (p.absolute base) := by
  rw [absolute, if_neg hp, hb]
  rfl

theorem absoluteOf_absolute (h : fs.absolute p = .ok full) : fs.AbsoluteOf p full := by
  unfold absolute at h
  split at h
  · exact absurd h (by simp)
  · cases hb : fs.base p with
    | error e => rw [hb] at h; exact absurd h (by simp [Except.map])
    | ok base =>
      rw [hb] at h
      obtain rfl := Except.ok.inj h
      have hsteps := Path.steps_absolute p base
      rcases base_ok hb with ⟨habs, rfl⟩ | ⟨hrelative, hcurrent⟩
      · rw [if_pos habs] at hsteps
        exact ⟨Path.isAbsolute_absolute (by simp [habs]), _, hb, hsteps⟩
      · rw [if_neg (by simp [hrelative])] at hsteps
        have hbase := isAbsolute_currentPath hcurrent
        exact ⟨Path.isAbsolute_absolute fun _ => hbase, base, hb, hsteps⟩

/-- An absolute path is text exactly when what it is made of is. -/
theorem AbsoluteOf.isText_iff (h : fs.AbsoluteOf p full) (hb : fs.base p = .ok base) :
    IsText full.bytes ↔ IsText base.bytes ∧ IsText p.bytes := by
  obtain ⟨base', hb', hsteps⟩ := h.steps
  obtain rfl := Except.ok.inj (hb.symm.trans hb')
  rw [Path.isText_iff_steps, Path.isText_iff_steps, Path.isText_iff_steps, hsteps,
    List.forall_mem_append]

/-! ## Walks -/

/-- A run that is no step leads nowhere, as long as there is more to come. -/
theorem walk_skip {run next : Name} (h : Path.isStep run = false) :
    fs.walk r (run :: next :: names) = fs.walk r (next :: names) := by
  have hstay : step r run = .ok r := by
    rw [step, if_pos (Path.isStep_eq_false_iff.1 h)]
  cases he : fs.entry? r with
  | none => rw [walk, walk, he]
  | some e =>
    cases e with
    | directory => rw [walk_of_directory he, hstay]; rfl
    | file content => rw [walk, walk, he]
    | device => rw [walk, walk, he]

/-- Where a name leads depends on the steps before it. -/
theorem walk_filter (runs : List Name) (next : Name) :
    fs.walk r (runs ++ [next]) = fs.walk r (runs.filter Path.isStep ++ [next]) := by
  induction runs generalizing r with
  | nil => rfl
  | cons run runs ih =>
    by_cases hstep : Path.isStep run = true
    · rw [List.filter_cons_of_pos hstep, List.cons_append, List.cons_append, walk, walk]
      simp only [ih]
    · rw [List.filter_cons_of_neg hstep, ← ih]
      have hskip : Path.isStep run = false := by simpa using hstep
      cases runs with
      | nil => exact walk_skip hskip
      | cons next runs => exact walk_skip hskip

theorem walk_child (hname : Path.slash ∉ utf8 name) :
    fs.walk r (pieces Path.slash (p.child name).bytes) = fs.walk r (p.steps ++ [utf8 name]) := by
  obtain ⟨runs, hruns, hsteps⟩ := Path.pieces_child (p := p) hname
  rw [hruns, walk_filter, hsteps]

theorem pathFault?_eq_none_iff :
    pathFault? p = none ↔ 0 ∉ p.bytes ∧ p.bytes ≠ [] ∧ p.bytes.length < pathLimit := by
  unfold pathFault?
  split
  · simp [*]
  · split
    · simp [*]
    · split <;> simp_all

theorem resolve_ok (h : fs.resolve p = .ok r) :
    pathFault? p = none ∧ fs.walk (fs.start p) (pieces Path.slash p.bytes) = .ok r := by
  unfold resolve at h
  split at h
  · exact absurd h (by simp)
  · rename_i hfault
    exact ⟨hfault, h⟩

/-- The path of the current directory leads there. -/
def CurrentInPlace (fs : FileSystem) : Prop :=
  ∀ base, fs.currentPath = .ok base → fs.resolve base = .ok fs.current

section
variable (h : fs.AbsoluteOf p full) (hcurrent : p.isAbsolute = false → fs.CurrentInPlace)
include h hcurrent

/-- From the root, the steps of the absolute path lead where those of the path lead from where it
starts. -/
theorem AbsoluteOf.walk_steps (next : Name) :
    fs.walk [] (full.steps ++ [next]) = fs.walk (fs.start p) (p.steps ++ [next]) := by
  obtain ⟨base, hb, hsteps⟩ := h.steps
  rw [hsteps]
  rcases base_ok hb with ⟨habs, rfl⟩ | ⟨hrelative, hpath⟩
  · rw [start_of_isAbsolute habs]
    rfl
  · obtain ⟨-, hbase⟩ := resolve_ok (hcurrent hrelative base hpath)
    rw [start_of_isAbsolute (isAbsolute_currentPath hpath)] at hbase
    have hfrom : fs.walk [] (pieces Path.slash base.bytes ++ (p.steps ++ [next])) = _ :=
      walk_append hbase
    rw [← List.append_assoc, walk_filter, List.filter_append, Path.filter_steps] at hfrom
    rw [start, if_neg (by simp [hrelative])]
    exact hfrom

theorem AbsoluteOf.nul_not_mem (hp : 0 ∉ p.bytes) : 0 ∉ full.bytes := by
  obtain ⟨base, hb, hsteps⟩ := h.steps
  have hbase : 0 ∉ base.bytes := by
    rcases base_ok hb with ⟨-, rfl⟩ | ⟨hrelative, hpath⟩
    · exact List.not_mem_nil
    · obtain ⟨hfine, -⟩ := resolve_ok (hcurrent hrelative base hpath)
      exact (pathFault?_eq_none_iff.1 hfine).1
  rw [Path.nul_mem_iff] at hp hbase ⊢
  rintro ⟨step, hs, hnul⟩
  rw [hsteps] at hs
  rcases List.mem_append.1 hs with hs | hs
  · exact hbase ⟨step, hs, hnul⟩
  · exact hp ⟨step, hs, hnul⟩

/-- A path and its absolute path lead a name to the same entry. -/
theorem AbsoluteOf.find?_child (hname : Path.slash ∉ utf8 name)
    (hstep : Path.isStep (utf8 name) = true)
    (hfits : (full.child name).bytes.length < pathLimit) {e : Entry}
    (he : fs.find? (p.child name) = some e) : fs.find? (full.child name) = some e := by
  obtain ⟨r, hres, hentry⟩ := find?_eq_some_iff.1 he
  obtain ⟨hfault, hwalk⟩ := resolve_ok hres
  have hclean := (pathFault?_eq_none_iff.1 hfault).1
  rw [Path.nul_mem_child_iff hname hstep, not_or] at hclean
  have hok : pathFault? (full.child name) = none := by
    refine pathFault?_eq_none_iff.2 ⟨?_, fun hnil => ?_, hfits⟩
    · rw [Path.nul_mem_child_iff hname hstep, not_or]
      exact ⟨h.nul_not_mem hcurrent hclean.1, hclean.2⟩
    · have habs := h.isAbsolute
      rw [← Path.isAbsolute_child hname, Path.isAbsolute, hnil] at habs
      exact absurd habs (by simp)
  refine find?_eq_some_iff.2 ⟨r, ?_, hentry⟩
  rw [resolve, hok]
  dsimp only
  rw [walk_child hname, start, Path.isAbsolute_child hname, if_pos h.isAbsolute,
    h.walk_steps hcurrent, ← hwalk, walk_child hname, start, start, Path.isAbsolute_child hname]

end

end SieveRun.FileSystem
