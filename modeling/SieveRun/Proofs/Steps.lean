import SieveRun.Proofs.Removal
import SieveRun.Proofs.Spelling

/-!
# The steps of a path

What a path says is by which names it goes, one after the other: its *steps*. Doubled slashes, a
slash at the end and full stops are none of them. Paths that are joined join their steps
(`steps_join`), and so the absolute form of a path goes by the steps of what it starts from and
then by its own (`steps_absolute`). Apart from slashes and full stops the steps hold all bytes of
a path, so they say whether it is text (`isText_iff_steps`).
-/

namespace SieveRun

open Text

namespace Path

variable {p q : Path} {piece : List UInt8}

/-- A run between slashes that is a step: it is neither empty nor a full stop. -/
def isStep (piece : List UInt8) : Bool := piece != [] && piece != [dot]

theorem isStep_eq_false_iff : isStep piece = false ↔ piece = [] ∨ piece = [dot] := by
  by_cases hnil : piece = [] <;> simp [isStep, hnil]

/-- The names that a path goes by, `..` among them. -/
def steps (p : Path) : List (List UInt8) := (pieces slash p.bytes).filter isStep

theorem filter_steps (p : Path) : p.steps.filter isStep = p.steps := by
  rw [steps, List.filter_filter]
  simp

@[simp] theorem steps_nil : steps ⟨[]⟩ = [] := rfl

theorem steps_append_slash (a b : List UInt8) :
    steps ⟨a ++ slash :: b⟩ = steps ⟨a⟩ ++ steps ⟨b⟩ := by
  rw [steps, pieces_append_cons, List.filter_append]
  rfl

/-- A step is a path of its own. -/
theorem steps_of_isStep (hslash : slash ∉ piece) (hstep : isStep piece = true) :
    steps ⟨piece⟩ = [piece] := by
  rw [steps, pieces_of_not_mem hslash, List.filter_cons_of_pos hstep, List.filter_nil]

/-- A path that is joined to another one is all there is, or a slash stands before it. -/
theorem join_cases (hq : q.isAbsolute = false) :
    p.bytes = [] ∧ (p.join q).bytes = q.bytes
      ∨ ∃ front, (p.join q).bytes = front ++ slash :: q.bytes ∧ steps ⟨front⟩ = p.steps := by
  unfold join
  rw [if_neg (by simp [hq])]
  split
  · rename_i hend
    rcases hend with hnil | hslash
    · exact .inl ⟨hnil, by rw [hnil]; rfl⟩
    · -- the slash at the end of the path is the one before the other
      obtain ⟨bytes⟩ := p
      obtain ⟨front, hfront⟩ := List.getLast?_eq_some_iff.1 hslash
      obtain rfl : bytes = front ++ [slash] := hfront
      refine .inr ⟨front, by simp, ?_⟩
      rw [steps_append_slash, steps_nil, List.append_nil]
  · exact .inr ⟨p.bytes, rfl, rfl⟩

/-- Joined paths join their steps. -/
theorem steps_join (hq : q.isAbsolute = false) : (p.join q).steps = p.steps ++ q.steps := by
  rcases join_cases (p := p) hq with ⟨hnil, hbytes⟩ | ⟨front, hbytes, hfront⟩
  · rw [steps, hbytes, steps, hnil]
    rfl
  · rw [steps, hbytes, ← hfront]
    exact steps_append_slash front q.bytes

theorem isAbsolute_of_not_mem (h : slash ∉ piece) : isAbsolute ⟨piece⟩ = false := by
  cases piece with
  | nil => rfl
  | cons b bytes =>
    have hb : b ≠ slash := fun he => h (he ▸ List.mem_cons_self)
    simp [isAbsolute, hb]

/-- What is joined to a path does not change where it starts. -/
theorem isAbsolute_join_relative (hq : q.isAbsolute = false) :
    (p.join q).isAbsolute = p.isAbsolute := by
  unfold join
  rw [if_neg (by simp [hq])]
  obtain ⟨bytes⟩ := p
  cases bytes with
  | nil => exact hq
  | cons b bytes => split <;> rfl

theorem isAbsolute_child {name : String} (hname : slash ∉ utf8 name) :
    (p.child name).isAbsolute = p.isAbsolute :=
  isAbsolute_join_relative (isAbsolute_of_not_mem hname)

/-- The last run of a path to a name below another path is that name, and the runs before it
make the steps of the other path. -/
theorem pieces_child {name : String} (hname : slash ∉ utf8 name) :
    ∃ runs, pieces slash (p.child name).bytes = runs ++ [utf8 name]
      ∧ runs.filter isStep = p.steps := by
  have habs : (ofText name).isAbsolute = false := isAbsolute_of_not_mem hname
  have hlast : pieces slash (ofText name).bytes = [utf8 name] := pieces_of_not_mem hname
  rcases join_cases (p := p) habs with ⟨hnil, hbytes⟩ | ⟨front, hbytes, hfront⟩
  · exact ⟨[], by rw [child, hbytes, hlast]; rfl, by rw [steps, hnil]; rfl⟩
  · exact ⟨pieces slash front, by rw [child, hbytes, pieces_append_cons, hlast], hfront⟩

theorem steps_child {name : String} (hname : slash ∉ utf8 name)
    (hstep : isStep (utf8 name) = true) : (p.child name).steps = p.steps ++ [utf8 name] := by
  have habs : (ofText name).isAbsolute = false := isAbsolute_of_not_mem hname
  rw [child, steps_join habs]
  exact congrArg _ (steps_of_isStep hname hstep)

/-- Apart from slashes and full stops, the bytes of a path are those of its steps. -/
theorem mem_bytes_iff {b : UInt8} (hslash : b ≠ slash) (hdot : b ≠ dot) :
    b ∈ p.bytes ↔ ∃ step ∈ p.steps, b ∈ step := by
  rw [← join_pieces slash p.bytes, mem_join_iff hslash, steps]
  constructor
  · rintro ⟨run, hrun, hb⟩
    refine ⟨run, List.mem_filter.2 ⟨hrun, ?_⟩, hb⟩
    -- a run with such a byte is a step
    by_contra hno
    rcases isStep_eq_false_iff.1 (by simpa using hno) with rfl | rfl
    · exact absurd hb List.not_mem_nil
    · exact hdot (List.mem_singleton.1 hb)
  · rintro ⟨run, hrun, hb⟩
    exact ⟨run, (List.mem_filter.1 hrun).1, hb⟩

theorem nul_mem_iff : 0 ∈ p.bytes ↔ ∃ step ∈ p.steps, 0 ∈ step :=
  mem_bytes_iff (by decide) (by decide)

theorem nul_mem_child_iff {name : String} (hname : slash ∉ utf8 name)
    (hstep : isStep (utf8 name) = true) :
    0 ∈ (p.child name).bytes ↔ 0 ∈ p.bytes ∨ 0 ∈ utf8 name := by
  rw [nul_mem_iff, nul_mem_iff, steps_child hname hstep]
  simp [or_and_right, exists_or]

theorem isText_iff_steps : IsText p.bytes ↔ ∀ step ∈ p.steps, IsText step := by
  rw [isText_iff_pieces]
  constructor
  · exact fun hall step hstep => hall step (List.mem_filter.1 hstep).1
  · intro hall piece hpiece
    by_cases hstep : isStep piece = true
    · exact hall piece (List.mem_filter.2 ⟨hpiece, hstep⟩)
    · rcases isStep_eq_false_iff.1 (by simpa using hstep) with rfl | rfl
      · exact ⟨"", rfl⟩
      · exact ⟨".", by decide +kernel⟩

/-! ## The absolute form -/

theorem Component.isStep_of_ofPiece? {c : Component} (h : Component.ofPiece? piece = some c) :
    c.bytes = piece ∧ isStep piece = true := by
  unfold Component.ofPiece? at h
  split at h
  · exact absurd h (by simp)
  · rename_i hpiece
    have hstep : isStep piece = true := by
      by_contra hno
      exact hpiece (isStep_eq_false_iff.1 (by simpa using hno))
    split at h
    · rename_i hup
      obtain rfl := Option.some.inj h
      exact ⟨hup.symm, hstep⟩
    · obtain rfl := Option.some.inj h
      exact ⟨rfl, hstep⟩

/-- The components that are steps, and what they are spelled as. -/
theorem map_filterMap_ofPiece? (runs : List (List UInt8)) :
    (runs.filterMap Component.ofPiece?).map Component.bytes = runs.filter isStep := by
  induction runs with
  | nil => rfl
  | cons piece runs ih =>
    cases hc : Component.ofPiece? piece with
    | none =>
      have hnot : isStep piece = false := by
        unfold Component.ofPiece? at hc
        split at hc
        · rename_i hpiece
          exact isStep_eq_false_iff.2 hpiece
        · split at hc <;> exact absurd hc (by simp)
      rw [List.filterMap_cons_none hc, List.filter_cons_of_neg (by simp [hnot]), ih]
    | some c =>
      obtain ⟨hbytes, hstep⟩ := Component.isStep_of_ofPiece? hc
      rw [List.filterMap_cons_some hc, List.map_cons, hbytes, List.filter_cons_of_pos hstep, ih]

theorem steps_foldl_join {cs : List Component}
    (hcs : ∀ c ∈ cs, slash ∉ c.bytes ∧ isStep c.bytes = true) (start : Path) :
    (cs.foldl (fun p c => p.join ⟨c.bytes⟩) start).steps =
      start.steps ++ cs.map Component.bytes := by
  induction cs generalizing start with
  | nil => exact (List.append_nil _).symm
  | cons c cs ih =>
    obtain ⟨hslash, hstep⟩ := hcs c List.mem_cons_self
    rw [List.foldl_cons, ih fun d hd => hcs d (List.mem_cons_of_mem _ hd),
      steps_join (isAbsolute_of_not_mem hslash), steps_of_isStep hslash hstep, List.map_cons,
      List.append_assoc, List.singleton_append]

theorem isAbsolute_foldl_join {cs : List Component} (hcs : ∀ c ∈ cs, slash ∉ c.bytes)
    (start : Path) :
    (cs.foldl (fun p c => p.join ⟨c.bytes⟩) start).isAbsolute = start.isAbsolute := by
  induction cs generalizing start with
  | nil => rfl
  | cons c cs ih =>
    have hc : isAbsolute ⟨c.bytes⟩ = false := isAbsolute_of_not_mem (hcs c List.mem_cons_self)
    rw [List.foldl_cons, ih fun d hd => hcs d (List.mem_cons_of_mem _ hd),
      isAbsolute_join_relative hc]

/-- The components that are steps. -/
def stepComponents (p : Path) : List Component :=
  (pieces slash p.bytes).filterMap Component.ofPiece?

theorem map_bytes_stepComponents (p : Path) : p.stepComponents.map Component.bytes = p.steps :=
  map_filterMap_ofPiece? _

theorem stepComponents_spelled {c : Component} (hc : c ∈ p.stepComponents) :
    slash ∉ c.bytes ∧ isStep c.bytes = true := by
  obtain ⟨piece, hpiece, hof⟩ := List.mem_filterMap.1 hc
  obtain ⟨hbytes, hstep⟩ := Component.isStep_of_ofPiece? hof
  rw [hbytes]
  exact ⟨not_mem_of_mem_pieces hpiece, hstep⟩

theorem steps_stepComponents (p start : Path) :
    (p.stepComponents.foldl (fun p c => p.join ⟨c.bytes⟩) start).steps =
      start.steps ++ p.steps := by
  rw [steps_foldl_join fun _ hc => stepComponents_spelled hc, map_bytes_stepComponents]

theorem isAbsolute_stepComponents (p start : Path) :
    (p.stepComponents.foldl (fun p c => p.join ⟨c.bytes⟩) start).isAbsolute = start.isAbsolute :=
  isAbsolute_foldl_join (fun _ hc => (stepComponents_spelled hc).1) start

/-- What the steps of a path are joined to when it is made absolute. -/
def absoluteStart (p current : Path) : Path :=
  if p.hasTwoSlashes then ⟨[slash, slash]⟩ else if p.isAbsolute then ⟨[slash]⟩ else current

theorem isAbsolute_of_hasTwoSlashes (h : p.hasTwoSlashes = true) : p.isAbsolute = true := by
  obtain ⟨bytes⟩ := p
  unfold hasTwoSlashes at h
  rw [Bool.and_eq_true] at h
  obtain ⟨rest, hrest⟩ := List.isPrefixOf_iff_prefix.1 h.1
  obtain rfl : [slash, slash] ++ rest = bytes := hrest
  rfl

/-- No step is a full stop. -/
theorem dropWhile_stepComponents (p : Path) :
    p.stepComponents.dropWhile (· == .here) = p.stepComponents := by
  have hnot : .here ∉ p.stepComponents := by
    intro hmem
    exact absurd (stepComponents_spelled hmem).2 (by decide)
  cases hc : p.stepComponents with
  | nil => rfl
  | cons c cs =>
    refine List.dropWhile_cons_of_neg ?_
    intro hhere
    rw [hc, ← beq_iff_eq.1 hhere] at hnot
    exact hnot List.mem_cons_self

theorem absolute_eq (p current : Path) :
    p.absolute current =
      let whole := p.stepComponents.foldl (fun p c => p.join ⟨c.bytes⟩) (p.absoluteStart current)
      if p.bytes.getLast? = some slash then whole.join empty else whole := by
  have hroot : p.isAbsolute = true → p.components = .root :: p.stepComponents := by
    intro habs
    unfold components
    simp only [habs, if_true]
    rfl
  unfold absolute absoluteStart
  by_cases htwo : p.hasTwoSlashes = true
  · simp only [htwo, if_true, hroot (isAbsolute_of_hasTwoSlashes htwo), List.drop_succ_cons,
      List.drop_zero]
  · by_cases habs : p.isAbsolute = true
    · simp only [htwo, habs, if_true, hroot habs]
      rfl
    · have hrelative : p.components.dropWhile (· == .here) = p.stepComponents := by
        unfold components
        simp only [habs, if_false, Bool.false_eq_true]
        -- of the full stops only one at the start is a component
        have hstays := dropWhile_stepComponents p
        split
        · rw [List.singleton_append, List.dropWhile_cons_of_pos (by rfl)]
          exact hstays
        · exact hstays
      simp only [htwo, habs, if_false, Bool.false_eq_true, hrelative]

/-- **An absolute form goes by the steps of what it starts from, and then by its own.** -/
theorem steps_absolute (p current : Path) :
    (p.absolute current).steps = (if p.isAbsolute then [] else current.steps) ++ p.steps := by
  have hstart : (p.absoluteStart current).steps = if p.isAbsolute then [] else current.steps := by
    unfold absoluteStart
    by_cases htwo : p.hasTwoSlashes = true
    · rw [if_pos htwo, if_pos (isAbsolute_of_hasTwoSlashes htwo)]
      rfl
    · rw [if_neg htwo]
      split <;> rfl
  rw [absolute_eq]
  dsimp only
  split
  · rw [steps_join rfl, steps_stepComponents, hstart]
    exact List.append_nil _
  · rw [steps_stepComponents, hstart]

theorem isAbsolute_absolute {current : Path}
    (h : p.isAbsolute = false → current.isAbsolute = true) :
    (p.absolute current).isAbsolute = true := by
  have hstart : (p.absoluteStart current).isAbsolute = true := by
    unfold absoluteStart
    split
    · rfl
    · split
      · rfl
      · rename_i hrelative
        exact h (by simpa using hrelative)
  rw [absolute_eq]
  dsimp only
  split
  · rw [isAbsolute_join_relative rfl, isAbsolute_stepComponents, hstart]
  · rw [isAbsolute_stepComponents, hstart]

end Path

end SieveRun
