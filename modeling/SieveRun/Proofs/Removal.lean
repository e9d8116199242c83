import SieveRun.Proofs.Files

/-!
# What is gone

Removing a directory takes its entries out of the tree. When the current directory is among
them it is kept aside, under a name that no path can spell, so the routes that paths lead to
are not touched by that (`entry?_keepCurrent`).

A path leads nowhere as soon as nothing is at its place (`isThere_eq_false_of_place`). That
is so before a directory is made there and after it was removed: a removal that succeeded
leaves an absolute path leading nowhere (`isThere_removeAll`), whether it found something to
remove or not.
-/

namespace SieveRun.FileSystem

open Text

variable {fs after : FileSystem} {p : Path} {r target : Route} {name : Name} {test : Route → Bool}

/-! ## Dropping entries -/

theorem isRemoved_of_mem_keptAside {n : Nat} (h : r ∈ keptAside target n) : isRemoved r = true := by
  obtain ⟨m, -, rfl⟩ := List.mem_map.1 h
  rw [isRemoved, List.replicate_succ', ← List.append_assoc, List.getLast?_concat]
  exact beq_self_eq_true _

/-- What is kept aside stands where no path leads. -/
theorem entry?_keepCurrent (hr : isRemoved r = false) :
    entry? (keepCurrent fs) r = fs.entry? r := by
  unfold keepCurrent
  dsimp only
  split
  · rfl
  · have hnot : ((keptAside fs.current (fs.lastingNames fs.current)).map
        fun route => (route, Entry.directory)).lookup r = none := by
      rw [List.lookup_eq_none_iff]
      intro e he
      obtain ⟨route, hroute, rfl⟩ := List.mem_map.1 he
      refine bne_iff_ne.2 fun hsame => ?_
      rw [hsame, isRemoved_of_mem_keptAside hroute] at hr
      exact absurd hr (by simp)
    unfold entry?
    rw [List.lookup_append, hnot, Option.none_or]

theorem lookup_filter_not (es : List (Route × Entry)) (h : test r = true) :
    (es.filter fun e => !test e.1).lookup r = none := by
  rw [List.lookup_eq_none_iff]
  intro e he
  refine bne_iff_ne.2 fun hsame => ?_
  have hkept := (List.mem_filter.1 he).2
  rw [← hsame, h] at hkept
  exact absurd hkept (by simp)

/-- An entry that was dropped is gone. -/
theorem entry?_dropEntries (hr : isRemoved r = false) (hroot : r ≠ []) (h : test r = true) :
    entry? (fs.dropEntries test) r = none := by
  rw [dropEntries, entry?_keepCurrent hr, entry?, if_neg hroot]
  exact lookup_filter_not _ h

/-! ## Paths that lead nowhere -/

theorem isThere_of_resolve_error {e : FileError} (h : fs.resolve p = .error e) :
    fs.isThere p = false := by
  rw [isThere, find?, h]
  rfl

theorem exists_route_of_isThere (h : fs.isThere p = true) : ∃ r, fs.resolve p = .ok r := by
  cases hres : fs.resolve p with
  | error e =>
    rw [isThere_of_resolve_error hres] at h
    exact absurd h (by simp)
  | ok r => exact ⟨r, rfl⟩

/-- A path leads nowhere when nothing is at its place, be the place known from this file
system or from another one. -/
theorem isThere_eq_false_of_place (hstart : after.start p = fs.start p)
    (hplace : fs.place p = .ok (r, some name)) (hdots : isDots name = false)
    (hgone : ∀ target, within r name = .ok target → after.entry? target = none) :
    after.isThere p = false := by
  obtain ⟨front, rest, hfault, hpieces, -, hne, hwalk, -⟩ := place_ok hplace
  rw [Bool.eq_false_iff]
  intro hthere
  obtain ⟨r', hres⟩ := exists_route_of_isThere hthere
  rw [resolve, hfault] at hres
  change after.walk (after.start p) _ = _ at hres
  rw [hstart, hpieces] at hres
  -- the walk would have to pass through the place
  obtain ⟨mid, hmid, hlast⟩ := walk_append_ok hres
  obtain rfl := walk_route_eq hwalk hmid
  obtain ⟨-, next, hstep, hrest⟩ := walk_cons_ok hlast
  rw [step_eq_within hne hdots] at hstep
  have hsome := isSome_of_walk_ok hrest
  rw [hgone next hstep] at hsome
  exact absurd hsome (by simp)

/-- A path whose last name has no directory to be in leads nowhere. -/
theorem isThere_of_place_notFound (h : fs.place p = .error .notFound) : fs.isThere p = false := by
  cases hres : fs.resolve p with
  | error e => exact isThere_of_resolve_error hres
  | ok r' =>
    unfold place at h
    unfold resolve at hres
    cases hf : pathFault? p with
    | some fault => rw [hf] at hres; exact absurd hres (by simp)
    | none =>
      rw [hf] at h hres
      dsimp only at h hres
      -- the walk to the directory is the first part of the walk to the path's end
      obtain ⟨rest, hruns, -⟩ := withoutEndSlashes_append (pieces Path.slash p.bytes)
      obtain ⟨last, hlast⟩ := List.dropLast_prefix (withoutEndSlashes (pieces Path.slash p.bytes))
      rw [hruns, ← hlast, List.append_assoc] at hres
      obtain ⟨mid, hmid, -⟩ := walk_append_ok hres
      rw [hmid] at h
      dsimp only at h
      split at h <;> exact absurd h (by simp)

/-- Where a directory was made, there was nothing before. -/
theorem isThere_before_makeDirectory (h : fs.makeDirectory p = .ok after) :
    fs.isThere p = false := by
  obtain ⟨target, hput, -⟩ := makeDirectory_ok h
  obtain ⟨r, name, hplace, hdots, hin⟩ := hput.place
  refine isThere_eq_false_of_place rfl hplace hdots fun target' hin' => ?_
  rw [Except.ok.inj (hin'.symm.trans hin)]
  exact hput.free

/-! ## Removing -/

theorem removeEmpty_ok (h : fs.removeEmpty p = .ok after) :
    ∃ r name, fs.place p = .ok (r, some name) ∧ isDots name = false
      ∧ after = fs.dropEntries fun r' => r' == r ++ [name] := by
  unfold removeEmpty at h
  split at h
  · exact absurd h (by simp)
  · exact absurd h (by simp)
  · rename_i r name hplace
    split at h
    · exact absurd h (by simp)
    · rename_i hdot
      split at h
      · exact absurd h (by simp)
      · rename_i hdots
        exact ⟨r, name, hplace, by simp [isDots, hdot, hdots], (Except.ok.inj h).symm⟩

theorem removeEmpty_notFound (h : fs.removeEmpty p = .error .notFound) :
    fs.place p = .error .notFound := by
  unfold removeEmpty at h
  split at h
  · rename_i e hplace
    rw [hplace, Except.error.inj h]
  · exact absurd h (by simp)
  · split at h
    · exact absurd h (by simp)
    · split at h <;> exact absurd h (by simp)

/-- An absolute path starts from the root, whatever the current directory is. -/
theorem start_of_isAbsolute (h : p.isAbsolute = true) : fs.start p = [] := by
  rw [start, if_pos h]

theorem isThere_removeEmpty (habs : p.isAbsolute = true) (h : fs.removeEmpty p = .ok after) :
    after.isThere p = false := by
  obtain ⟨r, name, hplace, hdots, rfl⟩ := removeEmpty_ok h
  obtain ⟨front, rest, -, hpieces, -⟩ := place_ok hplace
  -- a name in a path has no slash, so it is not one that something is kept aside by
  have hname : name ≠ removedName := by
    intro he
    have hmem : name ∈ pieces Path.slash p.bytes := by simp [hpieces]
    refine not_mem_of_mem_pieces hmem ?_
    rw [he, removedName]
    exact List.mem_singleton_self _
  refine isThere_eq_false_of_place (by rw [start_of_isAbsolute habs, start_of_isAbsolute habs])
    hplace hdots fun target hin => ?_
  obtain rfl : r ++ [name] = target := by
    unfold within at hin
    split at hin
    · exact absurd hin (by simp)
    · split at hin
      · exact absurd hin (by simp)
      · exact Except.ok.inj hin
  exact entry?_dropEntries (by simp [isRemoved, hname]) (by simp) (by simp)

/-- A removal changes nothing, or it empties the directory, and then removes it or does not. -/
theorem removeAll_cases {r : Except FileError Unit} (h : fs.removeAll p = (after, r)) :
    (after = fs ∧ (r = .ok () → fs.resolve p = .error .notFound))
      ∨ ∃ below : Route → Bool,
        (after = fs.dropEntries below
            ∧ (r = .ok () → (fs.dropEntries below).removeEmpty p = .error .notFound))
          ∨ (fs.dropEntries below).removeEmpty p = .ok after := by
  unfold removeAll at h
  split at h
  · rename_i hres
    obtain ⟨rfl, -⟩ := Prod.mk.inj h
    exact .inl ⟨rfl, fun _ => hres⟩
  · obtain ⟨rfl, rfl⟩ := Prod.mk.inj h
    exact .inl ⟨rfl, fun hok => absurd hok (by simp)⟩
  · rename_i top _
    split at h
    · refine .inr ⟨fun r' => top.isPrefixOf r' && r' != top, ?_⟩
      dsimp only at h
      generalize fs.dropEntries (fun r' => top.isPrefixOf r' && r' != top) = emptied at h ⊢
      split at h
      · rename_i hremoved
        obtain ⟨rfl, -⟩ := Prod.mk.inj h
        exact .inr hremoved
      · rename_i hmissing
        obtain ⟨rfl, -⟩ := Prod.mk.inj h
        exact .inl ⟨rfl, fun _ => hmissing⟩
      · obtain ⟨rfl, rfl⟩ := Prod.mk.inj h
        exact .inl ⟨rfl, fun hok => absurd hok (by simp)⟩
    · obtain ⟨rfl, rfl⟩ := Prod.mk.inj h
      exact .inl ⟨rfl, fun hok => absurd hok (by simp)⟩

/-- **A removal that succeeded leaves nothing.** The path is absolute: a relative one may
start from a directory that went with the removal. -/
theorem isThere_removeAll (habs : p.isAbsolute = true) (h : fs.removeAll p = (after, .ok ())) :
    after.isThere p = false := by
  rcases removeAll_cases h with ⟨rfl, hres⟩ | ⟨below, ⟨rfl, hmissing⟩ | hremoved⟩
  · exact isThere_of_resolve_error (hres rfl)
  · exact isThere_of_place_notFound (removeEmpty_notFound (hmissing rfl))
  · exact isThere_removeEmpty habs hremoved

/-! ## Scratch directories -/

theorem isAbsolute_join {q : Path} (hp : p.isAbsolute = true) : (p.join q).isAbsolute = true := by
  unfold Path.join
  split
  · assumption
  · obtain ⟨bytes, hbytes⟩ : ∃ bytes, p.bytes = Path.slash :: bytes := by
      cases hb : p.bytes with
      | nil => rw [Path.isAbsolute, hb] at hp; exact absurd hp (by simp)
      | cons b bytes =>
        rw [Path.isAbsolute, hb] at hp
        exact ⟨bytes, by simpa using hp⟩
    split <;> simp [Path.isAbsolute, hbytes]

theorem isAbsolute_currentPath {origin : Path} (h : fs.currentPath = .ok origin) :
    origin.isAbsolute = true := by
  unfold currentPath at h
  split at h
  · exact absurd h (by simp)
  · split at h
    · rw [← Except.ok.inj h]
      rfl
    · rename_i hne
      rw [← Except.ok.inj h]
      cases hc : fs.current with
      | nil => exact absurd hc hne
      | cons name rest => simp [Path.isAbsolute]

/-- An absolute path starts from nothing, and any other from the current directory. -/
theorem base_ok {origin : Path} (h : fs.base p = .ok origin) :
    p.isAbsolute = true ∧ origin = .empty
      ∨ p.isAbsolute = false ∧ fs.currentPath = .ok origin := by
  unfold base at h
  split at h
  · rename_i habs
    exact .inl ⟨habs, (Except.ok.inj h).symm⟩
  · rename_i hrelative
    exact .inr ⟨by simpa using hrelative, h⟩

/-- What a path starts from when it is made absolute, with the path itself after it. -/
theorem isAbsolute_base_join {origin : Path} (h : fs.base p = .ok origin) :
    (origin.join p).isAbsolute = true := by
  rcases base_ok h with ⟨habs, -⟩ | ⟨-, hcurrent⟩
  · rw [Path.join, if_pos habs]
    exact habs
  · exact isAbsolute_join (isAbsolute_currentPath hcurrent)

theorem makeFirstFree_ok {parent d : Path} {names : List String}
    (h : fs.makeFirstFree parent names = .ok (d, after)) :
    fs.makeDirectory d = .ok after ∧ ∃ name ∈ names, d = parent.child (scratchStart ++ name) := by
  induction names with
  | nil => exact absurd h (by simp [makeFirstFree])
  | cons name names ih =>
    unfold makeFirstFree at h
    dsimp only at h
    split at h
    · rename_i made hmade
      obtain ⟨rfl, rfl⟩ := Prod.mk.inj (Except.ok.inj h)
      exact ⟨hmade, name, List.mem_cons_self, rfl⟩
    · obtain ⟨hmade, other, hother, hd⟩ := ih h
      exact ⟨hmade, other, List.mem_cons_of_mem _ hother, hd⟩
    · exact absurd h (by simp)

/-- A scratch directory is one new directory, named from the root. -/
theorem makeScratch_ok {parent d : Path} {names : List String}
    (h : fs.makeScratch parent names = .ok (d, after)) :
    fs.makeDirectory d = .ok after ∧ d.isAbsolute = true := by
  unfold makeScratch at h
  cases hb : fs.base parent with
  | error e => rw [hb] at h; exact absurd h (by simp [Except.bind])
  | ok base =>
    rw [hb] at h
    obtain ⟨hmade, name, -, rfl⟩ := makeFirstFree_ok h
    exact ⟨hmade, isAbsolute_join (isAbsolute_base_join hb)⟩

end SieveRun.FileSystem
