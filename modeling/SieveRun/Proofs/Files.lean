import SieveRun.FileSystem.Change
import SieveRun.Proofs.Cutting

/-!
# Where paths lead

A run looks at the file system through paths, and what it relies on is that directories stay.
A walk only passes through directories, so wherever every directory is kept, a path that led
to a directory still does (`isDirectory_of_keeps`).

Making a directory is described by where its path leads afterwards and not by the entry that
is added: `makeDirectories` succeeds exactly with a directory at its path, or with the empty
path, which it leaves alone (`isDirectory_makeDirectories`).
-/

namespace SieveRun.FileSystem

open Text

variable {fs before after : FileSystem} {p : Path} {r r' : Route} {names more : List Name}

/-! ## Looking up -/

theorem find?_eq_some_iff {e : Entry} :
    fs.find? p = some e ↔ ∃ r, fs.resolve p = .ok r ∧ fs.entry? r = some e := by
  unfold find?
  cases fs.resolve p <;> simp

theorem isDirectory_iff :
    fs.isDirectory p = true ↔ ∃ r, fs.resolve p = .ok r ∧ fs.entry? r = some .directory := by
  rw [← find?_eq_some_iff, isDirectory, beq_iff_eq]

theorem isFile_iff : fs.isFile p = true ↔ ∃ content, fs.find? p = some (.file content) := by
  unfold isFile
  split
  · rename_i content he
    simp [he]
  · rename_i hno
    simp only [Bool.false_eq_true, false_iff, not_exists]
    exact hno

theorem readText_of_find? {content : List UInt8} {t : String}
    (h : fs.find? p = some (.file content)) (ht : utf8? content = some t) :
    fs.readText p = .ok t := by
  obtain ⟨r, hr, he⟩ := find?_eq_some_iff.1 h
  rw [readText, hr]
  simp only [he, ht]

theorem walk_of_directory (h : fs.entry? r = some .directory) (piece : Name) :
    fs.walk r (piece :: names) = (step r piece).bind fun next => fs.walk next names := by
  rw [walk, h]

/-- A walk only goes on from directories. -/
theorem walk_cons_ok {piece : Name} (h : fs.walk r (piece :: names) = .ok r') :
    fs.entry? r = some .directory ∧ ∃ next, step r piece = .ok next ∧ fs.walk next names = .ok r' := by
  unfold walk at h
  cases he : fs.entry? r with
  | none => rw [he] at h; exact absurd h (by simp)
  | some e =>
    rw [he] at h
    cases e with
    | directory =>
      cases hs : step r piece with
      | error fault => rw [hs] at h; exact absurd h (by simp [Except.bind])
      | ok next => rw [hs] at h; exact ⟨rfl, next, rfl, h⟩
    | file content => exact absurd h (by simp)
    | device => exact absurd h (by simp)

theorem walk_append (h : fs.walk r names = .ok r') : fs.walk r (names ++ more) = fs.walk r' more := by
  induction names generalizing r with
  | nil =>
    unfold walk at h
    split at h
    · rw [Except.ok.inj h, List.nil_append]
    · exact absurd h (by simp)
  | cons piece names ih =>
    obtain ⟨hdir, next, hstep, hrest⟩ := walk_cons_ok h
    rw [List.cons_append, walk_of_directory hdir, hstep]
    exact ih hrest

/-- A walk starts from an entry. -/
theorem isSome_of_walk_ok (h : fs.walk r names = .ok r') : (fs.entry? r).isSome := by
  cases names with
  | nil =>
    unfold walk at h
    split at h
    · assumption
    · exact absurd h (by simp)
  | cons piece names =>
    rw [(walk_cons_ok h).1]
    rfl

/-- A walk that arrives has been wherever its first part leads. -/
theorem walk_append_ok (h : fs.walk r (names ++ more) = .ok r') :
    ∃ mid, fs.walk r names = .ok mid ∧ fs.walk mid more = .ok r' := by
  induction names generalizing r with
  | nil =>
    refine ⟨r, ?_, h⟩
    rw [walk, if_pos (isSome_of_walk_ok h)]
  | cons piece names ih =>
    obtain ⟨hdir, next, hstep, hrest⟩ := walk_cons_ok h
    obtain ⟨mid, hmid, hmore⟩ := ih hrest
    refine ⟨mid, ?_, hmore⟩
    rw [walk_of_directory hdir, hstep]
    exact hmid

/-- The names say where a walk arrives; the entries only say whether it does. -/
theorem walk_route_eq (h : before.walk r names = .ok r') {r'' : Route}
    (h' : after.walk r names = .ok r'') : r' = r'' := by
  induction names generalizing r with
  | nil =>
    unfold walk at h h'
    split at h
    · split at h'
      · exact (Except.ok.inj h).symm.trans (Except.ok.inj h')
      · exact absurd h' (by simp)
    · exact absurd h (by simp)
  | cons piece names ih =>
    obtain ⟨-, next, hstep, hrest⟩ := walk_cons_ok h
    obtain ⟨-, next', hstep', hrest'⟩ := walk_cons_ok h'
    obtain rfl := Except.ok.inj (hstep.symm.trans hstep')
    exact ih hrest hrest'

/-- Slashes at the end of a path to a directory lead no further. -/
theorem walk_of_all_empty (h : fs.entry? r = some .directory) (hall : ∀ piece ∈ names, piece = []) :
    fs.walk r names = .ok r := by
  induction names with
  | nil => rw [walk, h]; rfl
  | cons piece names ih =>
    rw [walk_of_directory h, hall piece List.mem_cons_self, step, if_pos (.inl rfl)]
    exact ih fun q hq => hall q (List.mem_cons_of_mem _ hq)

/-! ## Directories that are kept -/

/-- The same current directory, and every directory is still one. -/
structure KeepsDirectories (before after : FileSystem) : Prop where
  current : after.current = before.current
  directory : ∀ r, before.entry? r = some .directory → after.entry? r = some .directory

theorem walk_of_keeps (hk : KeepsDirectories before after) (h : before.walk r names = .ok r')
    (he : before.entry? r' = some .directory) : after.walk r names = .ok r' := by
  induction names generalizing r with
  | nil =>
    rw [walk] at h ⊢
    split at h
    · obtain rfl := Except.ok.inj h
      rw [hk.directory r he]
      rfl
    · exact absurd h (by simp)
  | cons piece names ih =>
    obtain ⟨hdir, next, hstep, hrest⟩ := walk_cons_ok h
    rw [walk_of_directory (hk.directory r hdir), hstep]
    exact ih hrest

/-- A path to a directory still leads to it where every directory is kept. -/
theorem resolve_of_keeps (hk : KeepsDirectories before after) (hr : before.resolve p = .ok r)
    (he : before.entry? r = some .directory) : after.resolve p = .ok r := by
  rw [resolve] at hr ⊢
  cases hf : pathFault? p with
  | some fault => rw [hf] at hr; exact absurd hr (by simp)
  | none =>
    rw [hf] at hr
    have hstart : after.start p = before.start p := by rw [start, start, hk.current]
    show after.walk (after.start p) _ = _
    rw [hstart]
    exact walk_of_keeps hk hr he

theorem isDirectory_of_keeps (hk : KeepsDirectories before after)
    (h : before.isDirectory p = true) : after.isDirectory p = true := by
  obtain ⟨r, hr, he⟩ := isDirectory_iff.1 h
  exact isDirectory_iff.2 ⟨r, resolve_of_keeps hk hr he, hk.directory r he⟩

/-! ## Adding an entry -/

theorem entry?_add (hr : fs.entry? r = none) (e : Entry) (r' : Route) :
    entry? (fs.add r e) r' = if r' = r then some e else fs.entry? r' := by
  -- the root is always there
  have hne : r ≠ [] := by
    intro he
    subst he
    unfold entry? at hr
    simp at hr
  unfold entry? add
  by_cases h : r' = r
  · subst h
    simp [hne]
  · simp [h, List.lookup_cons, beq_false_of_ne h]

theorem keepsDirectories_add (hr : fs.entry? r = none) (e : Entry) :
    KeepsDirectories fs (fs.add r e) where
  current := rfl
  directory r' h := by
    rw [entry?_add hr]
    split
    · rename_i he
      rw [he, hr] at h
      exact absurd h (by simp)
    · exact h

/-! ## Making directories -/

theorem withoutEndSlashes_append (runs : List Name) :
    ∃ rest, runs = withoutEndSlashes runs ++ rest ∧ ∀ piece ∈ rest, piece = [] := by
  refine ⟨(runs.reverse.takeWhile (· == [])).reverse, ?_, ?_⟩
  · rw [withoutEndSlashes, ← List.reverse_append, List.takeWhile_append_dropWhile,
      List.reverse_reverse]
  · intro piece h
    simpa using List.mem_takeWhile_imp (List.mem_reverse.1 h)

/-- An empty run at the end would have been taken off. -/
theorem getLast?_withoutEndSlashes_ne (runs : List Name) :
    (withoutEndSlashes runs).getLast? ≠ some [] := by
  intro hlast
  rw [withoutEndSlashes, List.getLast?_reverse] at hlast
  have hnot := List.head?_dropWhile_not (· == ([] : Name)) runs.reverse
  rw [hlast] at hnot
  simp at hnot

/-- What is at a place: the walk to its directory, and the name that the path ends with. -/
theorem place_ok {name : Name} (h : fs.place p = .ok (r, some name)) :
    ∃ front rest, pathFault? p = none ∧ pieces Path.slash p.bytes = front ++ name :: rest
      ∧ (∀ piece ∈ rest, piece = []) ∧ name ≠ []
      ∧ fs.walk (fs.start p) front = .ok r ∧ fs.entry? r = some .directory := by
  unfold place at h
  cases hf : pathFault? p with
  | some fault => rw [hf] at h; exact absurd h (by simp)
  | none =>
    rw [hf] at h
    dsimp only at h
    obtain ⟨rest, hruns, hrest⟩ := withoutEndSlashes_append (pieces Path.slash p.bytes)
    cases hw : fs.walk (fs.start p) (withoutEndSlashes (pieces Path.slash p.bytes)).dropLast with
    | error e => rw [hw] at h; exact absurd h (by simp)
    | ok r₀ =>
      rw [hw] at h
      dsimp only at h
      split at h
      · rename_i hdir
        obtain ⟨rfl, hlast⟩ := Prod.mk.inj (Except.ok.inj h)
        obtain ⟨front, hfront⟩ := List.getLast?_eq_some_iff.1 hlast
        have hname : name ≠ [] := by
          intro he
          subst he
          exact getLast?_withoutEndSlashes_ne _ hlast
        rw [hfront, List.dropLast_concat] at hw
        exact ⟨front, rest, rfl, by rw [hruns, hfront]; simp, hrest, hname, hw, hdir⟩
      · exact absurd h (by simp)

/-- A step to a name that is no dots goes where the name is in the directory. -/
theorem step_eq_within {name : Name} (hne : name ≠ []) (hdots : isDots name = false) :
    step r name = within r name := by
  simp only [isDots, Bool.or_eq_false_iff, beq_eq_false_iff_ne] at hdots
  rw [step, if_neg (by simp [hne, hdots.1]), if_neg hdots.2]

/-- The entry `e` was put at the place of the path `p`, where there was none. -/
structure PutAt (fs : FileSystem) (p : Path) (e : Entry) (target : Route) : Prop where
  free : fs.entry? target = none
  place : ∃ r name, fs.place p = .ok (r, some name) ∧ isDots name = false
    ∧ within r name = .ok target

namespace PutAt

variable {e : Entry} {target : Route}

theorem keepsDirectories (h : PutAt fs p e target) : KeepsDirectories fs (fs.add target e) :=
  keepsDirectories_add h.free e

theorem there (h : PutAt fs p e target) : entry? (fs.add target e) target = some e := by
  rw [entry?_add h.free, if_pos rfl]

/-- The path leads to what was put, as far as slashes at its end allow. -/
theorem resolve_add (h : PutAt fs p e target) :
    ∃ rest, (∀ piece ∈ rest, piece = []) ∧ (p.bytes.getLast? ≠ some Path.slash → rest = [])
      ∧ (fs.add target e).resolve p = (fs.add target e).walk target rest := by
  obtain ⟨r, name, hplace, hdots, hin⟩ := h.place
  obtain ⟨front, rest, hfault, hpieces, hrest, hne, hwalk, hdir⟩ := place_ok hplace
  have hkeep := h.keepsDirectories
  have hstep : step r name = .ok target := (step_eq_within hne hdots).trans hin
  refine ⟨rest, hrest, fun hend => ?_, ?_⟩
  · -- an empty piece at the end would be a slash at the end
    rcases List.eq_nil_or_concat rest with rfl | ⟨rest, last, rfl⟩
    · rfl
    · obtain rfl := hrest last (by simp)
      have hlast : pieces Path.slash p.bytes = (front ++ name :: rest) ++ [[]] := by
        rw [hpieces]
        simp
      exact absurd (getLast?_of_pieces_concat_nil (by simp) hlast) hend
  · rw [resolve, hfault]
    show (fs.add target e).walk (fs.start p) _ = _
    rw [hpieces, walk_append (walk_of_keeps hkeep hwalk hdir),
      walk_of_directory (hkeep.directory r hdir), hstep]
    rfl

end PutAt

/-- Both changes that add an entry end with a look at whether the place is free. -/
theorem putAt_of_bind_ok {e : Entry} {name : Name} {fault : FileError}
    (hplace : fs.place p = .ok (r, some name)) (hdots : ¬ isDots name = true)
    (h : ((within r name).bind fun target =>
      if (fs.entry? target).isSome then .error fault else .ok (fs.add target e)) = .ok after) :
    ∃ target, PutAt fs p e target ∧ after = fs.add target e := by
  cases hin : within r name with
  | error e => rw [hin] at h; exact absurd h (by simp [Except.bind])
  | ok target =>
    rw [hin] at h
    simp only [Except.bind] at h
    split at h
    · exact absurd h (by simp)
    · rename_i hfree
      obtain rfl := Except.ok.inj h
      exact ⟨target, ⟨by simpa using hfree, r, name, hplace, by simpa using hdots, hin⟩, rfl⟩

theorem makeDirectory_ok (h : fs.makeDirectory p = .ok after) :
    ∃ target, PutAt fs p .directory target ∧ after = fs.add target .directory := by
  unfold makeDirectory at h
  split at h
  · exact absurd h (by simp)
  · exact absurd h (by simp)
  · rename_i r name hplace
    split at h
    · exact absurd h (by simp)
    · rename_i hdots
      exact putAt_of_bind_ok hplace hdots h

/-- The path of a directory that is put leads to it. -/
theorem PutAt.resolve_directory {target : Route} (h : PutAt fs p .directory target) :
    (fs.add target .directory).resolve p = .ok target := by
  obtain ⟨rest, hrest, -, hres⟩ := h.resolve_add
  exact hres.trans (walk_of_all_empty h.there hrest)

/-- A directory that was made is where its path leads. -/
theorem isDirectory_makeDirectory (h : fs.makeDirectory p = .ok after) :
    after.isDirectory p = true := by
  obtain ⟨target, hput, rfl⟩ := makeDirectory_ok h
  exact isDirectory_iff.2 ⟨target, hput.resolve_directory, hput.there⟩

theorem isDirectory_settle (h : fs.settle p = (after, .ok ())) : after.isDirectory p = true := by
  unfold settle at h
  split at h
  · rename_i made hmade
    obtain ⟨rfl, -⟩ := Prod.mk.inj h
    exact isDirectory_makeDirectory hmade
  · split at h
    · rename_i hdir
      obtain ⟨rfl, -⟩ := Prod.mk.inj h
      exact hdir
    · exact absurd h (by simp)

/-- Where making a directory with its parents succeeds, the directory is there, unless the
path was empty. -/
theorem isDirectory_makeDirectories (h : fs.makeDirectories p = (after, .ok ())) :
    p.bytes = [] ∨ after.isDirectory p = true := by
  unfold makeDirectories makeAll at h
  split at h
  · rename_i hp
    exact .inl hp
  · right
    split at h
    · rename_i made hmade
      obtain ⟨rfl, -⟩ := Prod.mk.inj h
      exact isDirectory_makeDirectory hmade
    · -- the parents were made first
      split at h
      · exact isDirectory_settle h
      · exact absurd h (by simp)
    · split at h
      · rename_i hdir
        obtain ⟨rfl, -⟩ := Prod.mk.inj h
        exact hdir
      · exact absurd h (by simp)

theorem makeDirectories_of_empty (h : p.bytes = []) : fs.makeDirectories p = (fs, .ok ()) := by
  rw [makeDirectories, makeAll, if_pos h]

/-! ## Putting files -/

theorem writeFile_ok {content : List UInt8} (h : fs.writeFile p content = .ok after) :
    ∃ target, PutAt fs p (.file content) target ∧ after = fs.add target (.file content) := by
  unfold writeFile at h
  split at h
  · exact absurd h (by simp)
  · exact absurd h (by simp)
  · rename_i r name hplace
    split at h
    · exact absurd h (by simp)
    · rename_i hdots
      exact putAt_of_bind_ok hplace hdots h

/-- A file that was put is where its path leads, unless the path ends in a slash. -/
theorem find?_writeFile {content : List UInt8} (h : fs.writeFile p content = .ok after)
    (hend : p.bytes.getLast? ≠ some Path.slash) :
    KeepsDirectories fs after ∧ after.find? p = some (.file content) := by
  obtain ⟨target, hput, rfl⟩ := writeFile_ok h
  obtain ⟨rest, -, hnil, hres⟩ := hput.resolve_add
  refine ⟨hput.keepsDirectories, find?_eq_some_iff.2 ⟨target, ?_, hput.there⟩⟩
  rw [hres, hnil hend, walk, hput.there]
  rfl

/-! ## Absolute paths -/

theorem join_ne_nil {q : Path} (hp : p.bytes ≠ []) : (p.join q).bytes ≠ [] := by
  unfold Path.join
  split
  · rename_i habs
    intro hq
    rw [Path.isAbsolute, hq] at habs
    exact absurd habs (by simp)
  · split <;> simp [hp]

theorem foldl_join_ne_nil (cs : List Path.Component) (hp : p.bytes ≠ []) :
    (cs.foldl (fun p c => p.join ⟨c.bytes⟩) p).bytes ≠ [] := by
  induction cs generalizing p with
  | nil => exact hp
  | cons c cs ih => exact ih (join_ne_nil hp)

/-- An absolute path begins with the root. -/
theorem components_of_isAbsolute (h : p.isAbsolute = true) :
    ∃ rest, p.components = .root :: rest := by
  unfold Path.components
  simp only [h, if_true]
  exact ⟨_, rfl⟩

theorem currentPath_ne_nil {q : Path} (h : fs.currentPath = .ok q) : q.bytes ≠ [] := by
  unfold currentPath at h
  split at h
  · exact absurd h (by simp)
  · split at h
    · rw [← Except.ok.inj h]
      simp
    · rename_i hne
      rw [← Except.ok.inj h]
      cases hc : fs.current with
      | nil => exact absurd hc hne
      | cons name rest => simp

/-- The absolute form of a path is never empty. -/
theorem absolute_ne_nil {q : Path} (h : fs.absolute p = .ok q) : q.bytes ≠ [] := by
  unfold absolute at h
  split at h
  · exact absurd h (by simp)
  · cases hb : fs.base p with
    | error e => rw [hb] at h; exact absurd h (by simp [Except.map])
    | ok base =>
      rw [hb] at h
      obtain rfl := Except.ok.inj h
      -- a slash at the end of the path only makes the result longer
      have hwhole : ∀ whole : Path, whole.bytes ≠ [] →
          (if p.bytes.getLast? = some Path.slash then whole.join .empty else whole).bytes ≠ [] := by
        intro whole hw
        split
        · exact join_ne_nil hw
        · exact hw
      unfold Path.absolute
      refine hwhole _ ?_
      split
      · exact foldl_join_ne_nil _ (by simp)
      · rw [FileSystem.base] at hb
        split
        · -- the first component is the root, which is not empty
          rename_i habs
          obtain ⟨rest, hrest⟩ := components_of_isAbsolute habs
          rw [hrest]
          exact foldl_join_ne_nil rest (by decide : (Path.empty.join ⟨[Path.slash]⟩).bytes ≠ [])
        · rename_i hrel
          rw [if_neg hrel] at hb
          exact foldl_join_ne_nil _ (currentPath_ne_nil hb)

end SieveRun.FileSystem
