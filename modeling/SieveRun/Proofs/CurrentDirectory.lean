import SieveRun.Proofs.Removal

/-!
# The current directory while directories are removed

A relative path starts from the current directory, and that may be among what a removal takes away.
It is then kept aside, with the directories above it that went too, so `..` still leads out of it.
No other name leads anywhere from there.

So a walk after a removal is a walk before it, which passes through the directories that were kept
aside where they used to be (`Follows`). It follows that a removal makes no path lead somewhere
that led nowhere before (`Shrinks`), and that what was removed is gone under its path, from
wherever the path starts (`gone_removeAll`). The current directory has to be there to begin with,
and it is there in the end (`Anchored`).
-/

namespace SieveRun.FileSystem

open Text

variable {fs fewer after : FileSystem} {p : Path} {current r r' : Route} {names : List Name}
  {piece name : Name} {n k m : Nat} {e : Entry} {test : Route → Bool}

/-- The current directory is there, and so is every directory above it. -/
def Anchored (fs : FileSystem) : Prop := ∀ m, fs.entry? (fs.current.take m) = some .directory

theorem isThere_iff_resolve : fs.isThere p = true ↔ ∃ r, fs.resolve p = .ok r := by
  constructor
  · exact exists_route_of_isThere
  · rintro ⟨r, hr⟩
    have hwalk := hr
    unfold resolve at hwalk
    split at hwalk
    · exact absurd hwalk (by simp)
    · -- a walk that goes no further ends at an entry
      have hend : fs.walk r [] = .ok r := by
        rw [← walk_append hwalk, List.append_nil]
        exact hwalk
      have hsome := isSome_of_walk_ok hend
      rwa [isThere, find?, hr]

/-! ## What is left of the current directory -/

theorem lastingNames_leads (fs : FileSystem) (r : Route) :
    (List.range r.length).takeWhile (fun n => (fs.entry? (r.take (n + 1))).isSome) <+:
      List.range r.length :=
  List.takeWhile_prefix _

theorem lastingNames_le (fs : FileSystem) (r : Route) : fs.lastingNames r ≤ r.length := by
  have hle := (lastingNames_leads fs r).length_le
  rwa [List.length_range] at hle

/-- Every entry on the way is there, as far as the names lead to entries. -/
theorem isSome_take_of_le (h : m ≤ fs.lastingNames r) : (fs.entry? (r.take m)).isSome := by
  cases m with
  | zero => rw [List.take_zero]; rfl
  | succ m =>
    have hle := lastingNames_le fs r
    have hleading : (List.range r.length).takeWhile
        (fun n => (fs.entry? (r.take (n + 1))).isSome) = List.range (fs.lastingNames r) := by
      rw [List.prefix_iff_eq_take.1 (lastingNames_leads fs r), List.take_range]
      exact congrArg List.range (Nat.min_eq_left hle)
    have hmem : m ∈ (List.range r.length).takeWhile
        (fun n => (fs.entry? (r.take (n + 1))).isSome) := by
      rw [hleading, List.mem_range]
      omega
    have hlasts := List.mem_takeWhile_imp hmem
    exact hlasts

/-- Where a directory is kept aside that was `k + 1` names behind the last one that is left. -/
def asideRoute (current : Route) (n k : Nat) : Route :=
  current.take n ++ List.replicate (k + 1) removedName

theorem isRemoved_asideRoute (current : Route) (n k : Nat) :
    isRemoved (asideRoute current n k) = true := by
  rw [asideRoute, isRemoved, List.replicate_succ', ← List.append_assoc, List.getLast?_concat]
  exact beq_self_eq_true _

theorem take_asideRoute_of_le (hm : m ≤ n) (hn : n ≤ current.length) :
    (asideRoute current n k).take m = current.take m := by
  have hlength : (current.take n).length = n := by
    rw [List.length_take]
    omega
  rw [asideRoute, List.take_append_of_le_length (by omega), List.take_take, Nat.min_eq_left hm]

theorem take_asideRoute_of_lt (hm : n < m) (hn : n ≤ current.length) :
    ∃ j ≤ k, (asideRoute current n k).take m = asideRoute current n j := by
  have hlength : (current.take n).length = n := by
    rw [List.length_take]
    omega
  have hcount : min (m - n) (k + 1) = min (m - n - 1) k + 1 := by omega
  refine ⟨min (m - n - 1) k, by omega, ?_⟩
  rw [asideRoute, asideRoute, List.take_append, hlength, List.take_of_length_le (by omega),
    List.take_replicate, hcount]

theorem keepCurrent_of_eq (h : fs.lastingNames fs.current = fs.current.length) :
    keepCurrent fs = fs := by
  rw [keepCurrent, keptAside, h, Nat.sub_self]
  rfl

theorem keepCurrent_of_lt (h : fs.lastingNames fs.current + k + 1 = fs.current.length) :
    keepCurrent fs =
      ⟨(keptAside fs.current (fs.lastingNames fs.current)).map (·, .directory) ++ fs.entries,
        asideRoute fs.current (fs.lastingNames fs.current) k⟩ := by
  have hlast : (keptAside fs.current (fs.lastingNames fs.current)).getLast? =
      some (asideRoute fs.current (fs.lastingNames fs.current) k) := by
    have hcount : fs.current.length - fs.lastingNames fs.current = k + 1 := by omega
    rw [keptAside, hcount, List.range_succ, List.map_append, List.map_singleton,
      List.getLast?_concat]
    rfl
  rw [keepCurrent, hlast]

/-- The current directory stays, or it is kept aside by so many names. -/
theorem current_cases (fs : FileSystem) :
    fs.lastingNames fs.current = fs.current.length
      ∨ ∃ k, fs.lastingNames fs.current + k + 1 = fs.current.length := by
  have hle := lastingNames_le fs fs.current
  rcases Nat.eq_or_lt_of_le hle with heq | hlt
  · exact .inl heq
  · exact .inr ⟨fs.current.length - fs.lastingNames fs.current - 1, by omega⟩

theorem lookup_directories (routes : List Route) (r : Route) :
    (routes.map (·, Entry.directory)).lookup r = if r ∈ routes then some .directory else none := by
  induction routes with
  | nil => rfl
  | cons route routes ih =>
    rw [List.map_cons, List.lookup_cons, ih]
    by_cases heq : r = route
    · simp [heq]
    · simp [heq, beq_false_of_ne heq]

/-- What is kept aside are directories. -/
theorem entry?_asideRoute (h : fs.lastingNames fs.current + k < fs.current.length) :
    entry? (keepCurrent fs) (asideRoute fs.current (fs.lastingNames fs.current) k) =
      some .directory := by
  have hne : asideRoute fs.current (fs.lastingNames fs.current) k ≠ [] := by simp [asideRoute]
  have hmem : asideRoute fs.current (fs.lastingNames fs.current) k ∈
      keptAside fs.current (fs.lastingNames fs.current) := by
    refine List.mem_map.2 ⟨k, List.mem_range.2 ?_, rfl⟩
    omega
  rcases current_cases fs with heq | ⟨last, hlast⟩
  · omega
  · rw [keepCurrent_of_lt hlast, entry?, if_neg hne, List.lookup_append, lookup_directories,
      if_pos hmem, Option.some_or]

/-- A directory stays one. -/
theorem directory_keepCurrent (h : fs.entry? r = some .directory) :
    entry? (keepCurrent fs) r = some .directory := by
  rcases current_cases fs with heq | ⟨k, hk⟩
  · rwa [keepCurrent_of_eq heq]
  · rw [keepCurrent_of_lt hk]
    unfold entry? at h ⊢
    by_cases hroot : r = []
    · rw [if_pos hroot]
    · -- what is kept aside in its place would be a directory too
      rw [if_neg hroot] at h ⊢
      rw [List.lookup_append, h, lookup_directories]
      split <;> rfl

/-! ## Walks after and before -/

/-- The same current directory, and no entry that was not there. -/
structure Fewer (fs fewer : FileSystem) : Prop where
  current : fewer.current = fs.current
  entry : ∀ r e, fewer.entry? r = some e → fs.entry? r = some e

/-- Of a current directory, the first `n` names are left. A route afterwards stands for one before
it: for itself, where it leads by names from one of the directories that are left, or for the place
of a directory that is kept aside. -/
inductive Follows (current : Route) (n : Nat) : Route → Route → Prop
  | there {m : Nat} {more : List Name} : m ≤ n → removedName ∉ more →
      Follows current n (current.take m ++ more) (current.take m ++ more)
  | aside {k : Nat} : n + k < current.length →
      Follows current n (asideRoute current n k) (current.take (n + k + 1))

namespace Follows

theorem left (h : m ≤ n) : Follows current n (current.take m) (current.take m) := by
  have hthere : Follows current n (current.take m ++ []) (current.take m ++ []) :=
    .there h (by simp)
  rwa [List.append_nil] at hthere

/-- A route that is not kept aside stands for itself. -/
theorem of_not_isRemoved (h : Follows current n r r') (hr : isRemoved r = false) :
    ∃ m more, m ≤ n ∧ removedName ∉ more ∧ r = current.take m ++ more ∧ r' = r := by
  cases h with
  | @there m more hm hmore => exact ⟨m, more, hm, hmore, rfl, rfl⟩
  | aside =>
    rw [isRemoved_asideRoute] at hr
    exact absurd hr (by simp)

/-- An entry stands for an entry, and a directory for a directory. -/
theorem entry (h : Follows fewer.current (fewer.lastingNames fewer.current) r r')
    (hfs : fs.Anchored) (hfewer : Fewer fs fewer) (he : entry? (keepCurrent fewer) r = some e) :
    ∃ e', fs.entry? r' = some e' ∧ (e = .directory → e' = .directory) := by
  have hanchor : ∀ m, fs.entry? (fewer.current.take m) = some .directory := by
    rw [hfewer.current]
    exact hfs
  cases h with
  | @there m more hm hmore =>
    rcases List.eq_nil_or_concat' more with rfl | ⟨front, last, rfl⟩
    · rw [List.append_nil]
      exact ⟨.directory, hanchor m, fun _ => rfl⟩
    · -- the last name is one that a path can spell
      have hlast : isRemoved (fewer.current.take m ++ (front ++ [last])) = false := by
        rw [isRemoved, ← List.append_assoc, List.getLast?_concat]
        have hne : last ≠ removedName := fun heq => hmore (by simp [heq])
        simpa using hne
      rw [entry?_keepCurrent hlast] at he
      exact ⟨e, hfewer.entry _ _ he, id⟩
  | aside => exact ⟨.directory, hanchor _, fun _ => rfl⟩

/-- What is left by `..` is left on both sides. -/
theorem dropLast (h : Follows current n r r') (hn : n ≤ current.length) :
    Follows current n r.dropLast r'.dropLast := by
  have htake : ∀ m, m ≤ current.length → (current.take m).dropLast = current.take (m - 1) := by
    intro m hm
    rw [List.dropLast_eq_take, List.take_take, List.length_take]
    congr 1
    omega
  cases h with
  | @there m more hm hmore =>
    by_cases hnil : more = []
    · subst hnil
      rw [List.append_nil, htake m (by omega)]
      exact left (by omega)
    · rw [List.dropLast_append_of_ne_nil hnil]
      exact .there hm fun hmem => hmore (List.dropLast_subset more hmem)
  | @aside k hk =>
    have hroute : (asideRoute current n k).dropLast =
        current.take n ++ List.replicate k removedName := by
      rw [asideRoute, List.replicate_succ', ← List.append_assoc, List.dropLast_concat]
    rw [hroute, htake (n + k + 1) (by omega), Nat.add_sub_cancel]
    cases k with
    | zero =>
      rw [List.replicate_zero, List.append_nil, Nat.add_zero]
      exact left (by omega)
    | succ k => exact .aside (by omega)

/-- A step afterwards is a step before. -/
theorem step (h : Follows current n r r') (hn : n ≤ current.length) (hpiece : Path.slash ∉ piece)
    {next : Route} (hstep : FileSystem.step r piece = .ok next) :
    ∃ next', FileSystem.step r' piece = .ok next' ∧ Follows current n next next' := by
  unfold FileSystem.step at hstep ⊢
  by_cases hstay : piece = [] ∨ piece = [Path.dot]
  · rw [if_pos hstay] at hstep ⊢
    obtain rfl := Except.ok.inj hstep
    exact ⟨r', rfl, h⟩
  · rw [if_neg hstay] at hstep ⊢
    by_cases hup : piece = [Path.dot, Path.dot]
    · rw [if_pos hup] at hstep ⊢
      obtain rfl := Except.ok.inj hstep
      exact ⟨r'.dropLast, rfl, h.dropLast hn⟩
    · rw [if_neg hup] at hstep ⊢
      have hkept : isRemoved r = false := by
        by_contra hremoved
        rw [within, if_pos (by simpa using hremoved)] at hstep
        exact absurd hstep (by simp)
      obtain ⟨m, more, hm, hmore, hroute, rfl⟩ := h.of_not_isRemoved hkept
      refine ⟨next, hstep, ?_⟩
      -- the name that is added is no name of a directory that is kept aside
      have hname : piece ≠ removedName := by
        rintro rfl
        exact hpiece (List.mem_singleton_self _)
      rw [within, if_neg (by simp [hkept])] at hstep
      split at hstep
      · exact absurd hstep (by simp)
      · rw [← Except.ok.inj hstep, hroute, List.append_assoc]
        exact .there hm (by simp [hmore, Ne.symm hname])

/-- **A walk afterwards is a walk before.** -/
theorem walk (h : Follows fewer.current (fewer.lastingNames fewer.current) r r')
    (hfs : fs.Anchored) (hfewer : Fewer fs fewer) (hnames : ∀ piece ∈ names, Path.slash ∉ piece)
    {last : Route} (hwalk : (keepCurrent fewer).walk r names = .ok last) :
    ∃ last', fs.walk r' names = .ok last'
      ∧ Follows fewer.current (fewer.lastingNames fewer.current) last last' := by
  induction names generalizing r r' with
  | nil =>
    obtain ⟨e, he⟩ := Option.isSome_iff_exists.1 (isSome_of_walk_ok hwalk)
    obtain ⟨e', he', -⟩ := h.entry hfs hfewer he
    rw [FileSystem.walk, he] at hwalk
    obtain rfl := Except.ok.inj hwalk
    exact ⟨r', by rw [FileSystem.walk, he']; rfl, h⟩
  | cons piece names ih =>
    obtain ⟨hdir, next, hstep, hrest⟩ := walk_cons_ok hwalk
    obtain ⟨e', he', hdir'⟩ := h.entry hfs hfewer hdir
    obtain rfl := hdir' rfl
    obtain ⟨next', hstep', hnext⟩ :=
      h.step (lastingNames_le _ _) (hnames piece List.mem_cons_self) hstep
    obtain ⟨last', hlast', hend⟩ :=
      ih hnext (fun q hq => hnames q (List.mem_cons_of_mem _ hq)) hrest
    refine ⟨last', ?_, hend⟩
    rw [walk_of_directory he', hstep']
    exact hlast'

end Follows

/-- A path starts where it did, or from the current directory that was kept aside. -/
theorem follows_start (hfewer : Fewer fs fewer) (p : Path) :
    Follows fewer.current (fewer.lastingNames fewer.current) ((keepCurrent fewer).start p)
      (fs.start p) := by
  unfold start
  by_cases habs : p.isAbsolute = true
  · rw [if_pos habs, if_pos habs]
    exact Follows.left (m := 0) (Nat.zero_le _)
  · rw [if_neg habs, if_neg habs, ← hfewer.current]
    rcases current_cases fewer with heq | ⟨k, hk⟩
    · rw [keepCurrent_of_eq heq]
      have hleft : Follows fewer.current (fewer.lastingNames fewer.current)
          (fewer.current.take fewer.current.length) (fewer.current.take fewer.current.length) :=
        .left (by omega)
      rwa [List.take_length] at hleft
    · rw [keepCurrent_of_lt hk]
      have haside : Follows fewer.current (fewer.lastingNames fewer.current)
          (asideRoute fewer.current (fewer.lastingNames fewer.current) k)
          (fewer.current.take (fewer.lastingNames fewer.current + k + 1)) :=
        .aside (by omega)
      rwa [hk, List.take_length] at haside

/-! ## What a removal leaves -/

/-- The current directory is still there, and every path that leads somewhere did so before. -/
structure Shrinks (before after : FileSystem) : Prop where
  anchored : after.Anchored
  there : ∀ p, after.isThere p = true → before.isThere p = true

namespace Shrinks

theorem refl (h : fs.Anchored) : Shrinks fs fs := ⟨h, fun _ => id⟩

theorem trans {middle : FileSystem} (h : Shrinks fs middle) (h' : Shrinks middle after) :
    Shrinks fs after :=
  ⟨h'.anchored, fun p hp => h.there p (h'.there p hp)⟩

/-- What was gone stays gone. -/
theorem gone (h : Shrinks fs after) (hp : fs.isThere p = false) : after.isThere p = false := by
  rw [Bool.eq_false_iff] at hp ⊢
  exact fun hthere => hp (h.there p hthere)

end Shrinks

theorem anchored_keepCurrent (hfs : fs.Anchored) (hfewer : Fewer fs fewer) :
    (keepCurrent fewer).Anchored := by
  intro m
  have hle := lastingNames_le fewer fewer.current
  -- what is left of the way is as it was
  have hleft : ∀ m, m ≤ fewer.lastingNames fewer.current →
      entry? (keepCurrent fewer) (fewer.current.take m) = some .directory := by
    intro m hm
    obtain ⟨e, he⟩ := Option.isSome_iff_exists.1 (isSome_take_of_le hm)
    have hbefore := hfewer.entry _ _ he
    rw [hfewer.current, hfs m] at hbefore
    rw [← Option.some.inj hbefore] at he
    exact directory_keepCurrent he
  rcases current_cases fewer with heq | ⟨k, hk⟩
  · have hcurrent : (keepCurrent fewer).current.take m =
        fewer.current.take (min m fewer.current.length) := by
      rw [keepCurrent_of_eq heq, ← List.take_take, List.take_length]
    rw [hcurrent]
    exact hleft _ (by omega)
  · have hcurrent : (keepCurrent fewer).current =
        asideRoute fewer.current (fewer.lastingNames fewer.current) k := by
      rw [keepCurrent_of_lt hk]
    rw [hcurrent]
    by_cases hm : m ≤ fewer.lastingNames fewer.current
    · rw [take_asideRoute_of_le hm hle]
      exact hleft m hm
    · obtain ⟨j, hj, hroute⟩ := take_asideRoute_of_lt (k := k) (by omega : _ < m) hle
      rw [hroute]
      exact entry?_asideRoute (by omega)

theorem shrinks_keepCurrent (hfs : fs.Anchored) (hfewer : Fewer fs fewer) :
    Shrinks fs (keepCurrent fewer) := by
  refine ⟨anchored_keepCurrent hfs hfewer, fun p hp => ?_⟩
  obtain ⟨r, hr⟩ := isThere_iff_resolve.1 hp
  rw [isThere_iff_resolve]
  unfold resolve at hr ⊢
  cases hfault : pathFault? p with
  | some fault => rw [hfault] at hr; exact absurd hr (by simp)
  | none =>
    rw [hfault] at hr
    obtain ⟨r', hr', -⟩ := (follows_start hfewer p).walk hfs hfewer
      (fun piece hpiece => not_mem_of_mem_pieces hpiece) hr
    exact ⟨r', hr'⟩

theorem lookup_filter_of_not (es : List (Route × Entry)) (h : test r = false) :
    (es.filter fun e => !test e.1).lookup r = es.lookup r := by
  induction es with
  | nil => rfl
  | cons e es ih =>
    by_cases hr : r = e.1
    · have hkept : (!test e.1) = true := by rw [← hr, h]; rfl
      rw [List.filter_cons_of_pos (by simpa using hkept), List.lookup_cons, List.lookup_cons, hr]
      simp
    · have hne : (r == e.1) = false := beq_false_of_ne hr
      rw [List.lookup_cons, hne]
      by_cases hkept : (!test e.1) = true
      · rw [List.filter_cons_of_pos (by simpa using hkept), List.lookup_cons, hne]
        exact ih
      · rw [List.filter_cons_of_neg (by simpa using hkept)]
        exact ih

theorem fewer_filter (fs : FileSystem) (test : Route → Bool) :
    Fewer fs { fs with entries := fs.entries.filter fun e => !test e.1 } where
  current := rfl
  entry r e he := by
    unfold entry? at he ⊢
    by_cases hroot : r = []
    · rw [if_pos hroot] at he ⊢
      exact he
    · rw [if_neg hroot] at he ⊢
      cases htest : test r with
      | false => rwa [lookup_filter_of_not _ htest] at he
      | true => rw [lookup_filter_not _ htest] at he; exact absurd he (by simp)

theorem shrinks_dropEntries (h : fs.Anchored) (test : Route → Bool) :
    Shrinks fs (fs.dropEntries test) :=
  shrinks_keepCurrent h (fewer_filter fs test)

theorem shrinks_removeEmpty (h : fs.Anchored) (hremoved : fs.removeEmpty p = .ok after) :
    Shrinks fs after := by
  obtain ⟨r, name, -, -, rfl⟩ := removeEmpty_ok hremoved
  exact shrinks_dropEntries h _

/-- However it ends, a removal takes away and adds nothing. -/
theorem shrinks_removeAll (h : fs.Anchored) {outcome : Except FileError Unit}
    (hremoved : fs.removeAll p = (after, outcome)) : Shrinks fs after := by
  rcases removeAll_cases hremoved with ⟨rfl, -⟩ | ⟨below, ⟨rfl, -⟩ | hempty⟩
  · exact .refl h
  · exact shrinks_dropEntries h below
  · have hemptied := shrinks_dropEntries h below
    exact hemptied.trans (shrinks_removeEmpty hemptied.anchored hempty)

/-- A walk from where a path starts, after entries were dropped, was one before; it ends in the
same place unless that is kept aside. -/
theorem walk_dropEntries (h : fs.Anchored) (hnames : ∀ piece ∈ names, Path.slash ∉ piece)
    (hwalk : (fs.dropEntries test).walk ((fs.dropEntries test).start p) names = .ok r) :
    ∃ r', fs.walk (fs.start p) names = .ok r' ∧ (isRemoved r = false → r' = r) := by
  have hfewer := fewer_filter fs test
  obtain ⟨r', hr', hfollows⟩ := (follows_start hfewer p).walk h hfewer hnames hwalk
  refine ⟨r', hr', fun hkept => ?_⟩
  obtain ⟨-, -, -, -, -, heq⟩ := hfollows.of_not_isRemoved hkept
  exact heq

/-- The name of a removed directory is gone, also where the path started from that directory or
from one below it. -/
theorem gone_removeEmpty (h : fs.Anchored) (hremoved : fs.removeEmpty p = .ok after) :
    after.isThere p = false := by
  obtain ⟨r, name, hplace, hdots, hafter⟩ := removeEmpty_ok hremoved
  obtain ⟨front, rest, hfault, hpieces, -, hne, hwalk, -⟩ := place_ok hplace
  have hslash : ∀ piece ∈ front ++ name :: rest, Path.slash ∉ piece := by
    intro piece hpiece
    rw [← hpieces] at hpiece
    exact not_mem_of_mem_pieces hpiece
  have hname : name ≠ removedName := by
    rintro rfl
    exact hslash removedName (by simp) (List.mem_singleton_self _)
  have hnone : after.entry? (r ++ [name]) = none := by
    rw [hafter]
    exact entry?_dropEntries (by simp [isRemoved, hname]) (by simp) (by simp)
  rw [Bool.eq_false_iff]
  intro hthere
  obtain ⟨last, hlast⟩ := isThere_iff_resolve.1 hthere
  rw [resolve, hfault, hpieces] at hlast
  obtain ⟨mid, hmid, hmore⟩ := walk_append_ok hlast
  obtain ⟨-, next, hstep, hrest⟩ := walk_cons_ok hmore
  rw [step_eq_within hne hdots, within] at hstep
  split at hstep
  · exact absurd hstep (by simp)
  · rename_i hkept
    -- a name leads on from here, so this is where the walk to the directory ended before
    rw [hafter] at hmid
    obtain ⟨r', hr', heq⟩ := walk_dropEntries h (fun q hq => hslash q (by simp [hq])) hmid
    rw [heq (by simpa using hkept), hwalk] at hr'
    obtain rfl := Except.ok.inj hr'
    split at hstep
    · exact absurd hstep (by simp)
    · obtain rfl := Except.ok.inj hstep
      have hsome := isSome_of_walk_ok hrest
      rw [hnone] at hsome
      exact absurd hsome (by simp)

/-- **What was removed is gone**, wherever its path starts from. -/
theorem gone_removeAll (h : fs.Anchored) (hremoved : fs.removeAll p = (after, .ok ())) :
    after.isThere p = false := by
  rcases removeAll_cases hremoved with ⟨rfl, hres⟩ | ⟨below, ⟨rfl, hmissing⟩ | hempty⟩
  · exact isThere_of_resolve_error (hres rfl)
  · exact isThere_of_place_notFound (removeEmpty_notFound (hmissing rfl))
  · exact gone_removeEmpty (shrinks_dropEntries h below).anchored hempty

end SieveRun.FileSystem
