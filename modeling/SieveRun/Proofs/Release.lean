import SieveRun.Input.Scratch
import SieveRun.Proofs.CurrentDirectory
import SieveRun.Proofs.Stage

/-!
# Releasing scratch directories

Between two calls on the tracked directories anything may happen to the files: directories appear
and vanish, and the next call meets what it finds. What can be said of all calls together is what
can be said of a queue. A path is added at the end, unless an equal one is there, and it leaves from
the front (`added_forgotten`); so over any run, the paths that were added are those that were
forgotten and then those that are tracked, in one order (`ScratchRun.queue`).

A purging release removes one path after the other and stops at the first that cannot be removed
(`runOn_purgeAll`). A path is forgotten in no other way. What was removed once stays gone for the
rest of the release, as removals make no path lead somewhere again (`RemovedEach.gone`).
-/

namespace SieveRun

open Stage

variable {s s' : Session} {p q : Path} {paths : List Path} {files next : FileSystem}

/-! ## Tracked paths -/

theorem Path.same_comm (p q : Path) : p.same q = q.same p := by
  rw [Bool.eq_iff_iff, same, same, beq_iff_eq, beq_iff_eq]
  exact eq_comm

theorem Path.same_self (p : Path) : p.same p = true := by
  rw [same, beq_iff_eq]

/-- No two of the paths are equal. -/
def Distinct (paths : List Path) : Prop := paths.Pairwise fun p q => p.same q = false

theorem tracked_eq (paths : List Path) (p : Path) :
    tracked paths p = paths ++ if paths.any p.same then [] else [p] := by
  unfold tracked
  split
  · rw [List.append_nil]
  · rfl

theorem distinct_tracked (h : Distinct paths) (p : Path) : Distinct (tracked paths p) := by
  unfold tracked
  split
  · exact h
  · rename_i hnew
    refine List.pairwise_append.2 ⟨h, List.pairwise_singleton _ _, fun q hq r hr => ?_⟩
    obtain rfl := List.mem_singleton.1 hr
    have hnone : paths.any r.same = false := by simpa using hnew
    rw [Path.same_comm, Bool.eq_false_iff]
    exact List.any_eq_false.1 hnone q hq

/-- Paths that stand apart in a list without equals are different. -/
theorem Distinct.not_mem {gone left : List Path} (h : Distinct (gone ++ left)) (hp : p ∈ gone) :
    p ∉ left := by
  intro hleft
  have hne := (List.pairwise_append.1 h).2.2 p hp p hleft
  rw [Path.same_self] at hne
  exact absurd hne (by simp)

/-! ## One release -/

theorem runOn_noteEach (event : Path → Event) (paths : List Path) (s : Session) :
    (noteEach event paths).runOn s = (.ok (), s.noting (paths.map event)) := by
  induction paths generalizing s with
  | nil => rw [noteEach, runOn_pure, List.map_nil, Session.noting_nil]
  | cons p paths ih =>
    rw [noteEach, runOn_bind_of_ok (runOn_note _ s), ih, Session.noting_noting]
    rfl

/-- Each path is removed once, in order, and each removal succeeds. -/
inductive RemovedEach : FileSystem → List Path → FileSystem → Prop
  | nil {files : FileSystem} : RemovedEach files [] files
  | cons {files next after : FileSystem} {p : Path} {paths : List Path} :
      files.removeAll p = (next, .ok ()) → RemovedEach next paths after →
      RemovedEach files (p :: paths) after

theorem RemovedEach.shrinks {after : FileSystem} (h : RemovedEach files paths after)
    (hfiles : files.Anchored) : files.Shrinks after := by
  induction h with
  | nil => exact .refl hfiles
  | cons hremoved _ ih =>
    have hnext := FileSystem.shrinks_removeAll hfiles hremoved
    exact hnext.trans (ih hnext.anchored)

/-- What was removed on the way is gone in the end. -/
theorem RemovedEach.gone {after : FileSystem} (h : RemovedEach files paths after)
    (hfiles : files.Anchored) : ∀ p ∈ paths, after.isThere p = false := by
  induction h with
  | nil => exact fun p hp => absurd hp (by simp)
  | @cons files next after p paths hremoved hrest ih =>
    have hnext := FileSystem.shrinks_removeAll hfiles hremoved
    intro q hq
    rcases List.mem_cons.1 hq with rfl | hq
    · exact (hrest.shrinks hnext.anchored).gone (FileSystem.gone_removeAll hfiles hremoved)
    · exact ih hnext.anchored q hq

/-- A session in which other scratch directories are tracked, over other files. -/
def Session.withScratch (s : Session) (files : FileSystem) (scratch : List Path) : Session :=
  { s with files := files, scratch := scratch }

theorem Session.noting_withScratch (s : Session) (events : List Event) (files : FileSystem)
    (scratch : List Path) :
    (s.noting events).withScratch files scratch = (s.withScratch files scratch).noting events := rfl

theorem Session.withScratch_withScratch (s : Session) (files files' : FileSystem)
    (scratch scratch' : List Path) :
    (s.withScratch files scratch).withScratch files' scratch' = s.withScratch files' scratch' := rfl

/-- How a purging release ends: it removed every tracked path, or all up to one at which the
removal failed. In both cases what is still tracked is what was not removed. -/
inductive Purged (s : Session) : Except RunError Unit → Session → Prop
  | all {after : FileSystem} : RemovedEach s.files s.scratch after →
      Purged s (.ok ()) ((s.withScratch after []).noting (s.scratch.map .cleaning))
  | upTo {gone left : List Path} {p : Path} {mid after : FileSystem} {cause : FileError} :
      s.scratch = gone ++ p :: left → RemovedEach s.files gone mid →
      mid.removeAll p = (after, .error cause) →
      Purged s (.error (.file .remove p cause))
        ((s.withScratch after (p :: left)).noting ((gone ++ [p]).map .cleaning))

/-- A release that goes on after the first path was removed is one that began with it. -/
theorem Purged.cons {rest : List Path} {r : Except RunError Unit} (hpaths : s.scratch = p :: rest)
    (hremoved : s.files.removeAll p = (next, .ok ()))
    (h : Purged ((s.withScratch next rest).noting [.cleaning p]) r s') : Purged s r s' := by
  cases h with
  | @all after heach =>
    have hall : Purged s (.ok ()) ((s.withScratch after []).noting (s.scratch.map .cleaning)) :=
      .all (by rw [hpaths]; exact .cons hremoved heach)
    rw [hpaths] at hall
    rw [Session.noting_withScratch, Session.withScratch_withScratch, Session.noting_noting]
    exact hall
  | @upTo gone left q mid after cause hsplit heach hfailed =>
    have hscratch : s.scratch = (p :: gone) ++ q :: left := by
      rw [hpaths]
      exact congrArg (p :: ·) hsplit
    rw [Session.noting_withScratch, Session.withScratch_withScratch, Session.noting_noting]
    exact Purged.upTo hscratch (.cons hremoved heach) hfailed

/-- The release goes through the tracked paths. The induction is on them: after the first removal
the rest is a release of the others. -/
theorem runOn_purgeAll (hpaths : s.scratch = paths) :
    ∃ r s', (purgeAll paths).runOn s = (r, s') ∧ Purged s r s' := by
  induction paths generalizing s with
  | nil =>
    refine ⟨.ok (), s, rfl, ?_⟩
    have hall : Purged s (.ok ()) ((s.withScratch s.files []).noting (s.scratch.map .cleaning)) :=
      .all (by rw [hpaths]; exact .nil)
    have hself : s.withScratch s.files [] = s := by rw [← hpaths]; rfl
    rwa [hself, hpaths, List.map_nil, Session.noting_nil] at hall
  | cons p rest ih =>
    rw [purgeAll, runOn_bind_of_ok (runOn_note _ s), runOn_bind_of_ok (runOn_get _),
      Session.noting_files]
    rcases hremoved : s.files.removeAll p with ⟨next, cause | _⟩
    · refine ⟨_, _, rfl, ?_⟩
      have hsplit : s.scratch = [] ++ p :: rest := hpaths
      have hstopped : Purged s (.error (.file .remove p cause))
          ((s.withScratch next (p :: rest)).noting ([p].map .cleaning)) :=
        .upTo hsplit .nil hremoved
      have hsame : s.withScratch next (p :: rest) = { s with files := next } := by
        rw [← hpaths]
        rfl
      rw [hsame] at hstopped
      exact hstopped
    · obtain ⟨r, s', hrun, hpurged⟩ := ih (s := (s.withScratch next rest).noting [.cleaning p]) rfl
      exact ⟨r, s', hrun, hpurged.cons hpaths hremoved⟩

/-- However the release ends, the paths that it forgets come first, and they are gone. -/
theorem Purged.gone {r : Except RunError Unit} (h : Purged s r s') (hfiles : s.files.Anchored) :
    ∃ gone, s.scratch = gone ++ s'.scratch ∧ ∀ p ∈ gone, s'.files.isThere p = false := by
  cases h with
  | all heach => exact ⟨s.scratch, (List.append_nil _).symm, heach.gone hfiles⟩
  | @upTo gone left p mid after cause hsplit heach hfailed =>
    refine ⟨gone, hsplit, fun q hq => ?_⟩
    -- a removal that fails may have taken something away, and has brought nothing back
    have hmid := heach.shrinks hfiles
    exact (FileSystem.shrinks_removeAll hmid.anchored hfailed).gone (heach.gone hfiles q hq)

/-- What is kept is only spoken of. -/
theorem runOn_dispose_kept (debugging : Bool) (how : Disposal)
    (h : debugging = true ∨ how = .keep) (s : Session) :
    ∃ events, (dispose debugging how).runOn s = (.ok (), s.noting events) := by
  rw [dispose, runOn_bind_of_ok (runOn_get s)]
  cases debugging with
  | true => exact ⟨_, runOn_noteEach _ _ _⟩
  | false =>
    obtain rfl := h.resolve_left (by simp)
    exact ⟨_, runOn_noteEach _ _ _⟩

theorem runOn_dispose_purge (s : Session) :
    ∃ r s', (dispose false .purge).runOn s = (r, s') ∧ Purged s r s' := by
  obtain ⟨r, s', hrun, hpurged⟩ := runOn_purgeAll (s := s) rfl
  refine ⟨r, s', ?_, hpurged⟩
  rw [dispose, runOn_bind_of_ok (runOn_get s)]
  exact hrun

/-! ## Calls in sequence -/

/-- A call on the tracked directories. -/
inductive ScratchCall where
  | register (p : Path)
  | release (debugging : Bool) (how : Disposal)
  deriving DecidableEq, Repr

namespace ScratchCall

/-- What the call does. -/
def stage : ScratchCall → Stage Unit
  | register p => track p
  | release debugging how => dispose debugging how

end ScratchCall

/-- A call that is made in a session. -/
structure MadeCall where
  before : Session
  call : ScratchCall

namespace MadeCall

/-- The session after the call. -/
def after (c : MadeCall) : Session := (c.call.stage.runOn c.before).2

/-- The paths that are tracked after the call and were not before. -/
def added (c : MadeCall) : List Path := c.after.scratch.filter (· ∉ c.before.scratch)

/-- The paths that were tracked before the call and are not after it. -/
def forgotten (c : MadeCall) : List Path := c.before.scratch.filter (· ∉ c.after.scratch)

end MadeCall

/-- Calls in sequence, each with the session that it meets, and the paths that are tracked in the
end. Of a session only what is tracked is left from the call before; its files are any that have a
current directory. -/
inductive ScratchRun : List MadeCall → List Path → Prop
  | start : ScratchRun [] []
  | call {calls : List MadeCall} {c : MadeCall} : ScratchRun calls c.before.scratch →
      c.before.files.Anchored → ScratchRun (calls ++ [c]) c.after.scratch

/-- What can become of the tracked paths in one call: they gain a path at the end that is equal to
none of them, or stay, or lose paths at the front to a purging release, which are gone then. -/
theorem scratch_cases (c : MadeCall) (hfiles : c.before.files.Anchored) :
    (∃ p, c.call = .register p ∧ c.before.scratch.any p.same = false
        ∧ c.after.scratch = c.before.scratch ++ [p])
      ∨ c.after.scratch = c.before.scratch
      ∨ ∃ gone, c.call = .release false .purge ∧ c.before.scratch = gone ++ c.after.scratch
        ∧ ∀ p ∈ gone, c.after.files.isThere p = false := by
  obtain ⟨s, call⟩ := c
  cases call with
  | register p =>
    have hafter : (MadeCall.after ⟨s, .register p⟩).scratch = tracked s.scratch p := rfl
    rw [tracked_eq] at hafter
    cases hany : s.scratch.any p.same with
    | false =>
      rw [hany] at hafter
      exact .inl ⟨p, rfl, hany, hafter⟩
    | true =>
      rw [hany] at hafter
      exact .inr (.inl (hafter.trans (List.append_nil _)))
  | release debugging how =>
    right
    by_cases hkept : debugging = true ∨ how = .keep
    · obtain ⟨events, hrun⟩ := runOn_dispose_kept debugging how hkept s
      left
      rw [MadeCall.after, ScratchCall.stage, hrun]
      rfl
    · obtain ⟨hdebugging, hhow⟩ := not_or.1 hkept
      obtain rfl : debugging = false := by simpa using hdebugging
      obtain rfl : how = .purge := by
        cases how with
        | purge => rfl
        | keep => exact absurd rfl hhow
      right
      obtain ⟨r, s', hrun, hpurged⟩ := runOn_dispose_purge s
      have hafter : MadeCall.after ⟨s, .release false .purge⟩ = s' := by
        rw [MadeCall.after, ScratchCall.stage, hrun]
      obtain ⟨gone, hsplit, hgone⟩ := hpurged.gone hfiles
      rw [hafter]
      exact ⟨gone, rfl, hsplit, hgone⟩

theorem distinct_after {c : MadeCall} (h : Distinct c.before.scratch)
    (hfiles : c.before.files.Anchored) : Distinct c.after.scratch := by
  rcases scratch_cases c hfiles with ⟨p, -, hnew, hafter⟩ | hafter | ⟨gone, -, hsplit, -⟩
  · have htracked : c.before.scratch ++ [p] = tracked c.before.scratch p := by
      rw [tracked_eq, hnew]
      rfl
    rw [hafter, htracked]
    exact distinct_tracked h p
  · rwa [hafter]
  · rw [Distinct, hsplit] at h
    exact (List.pairwise_append.1 h).2.1

theorem filter_not_mem_self (paths : List Path) : paths.filter (· ∉ paths) = [] :=
  List.filter_eq_nil_iff.2 fun p hp => by simpa using hp

theorem not_mem_of_new (hnew : paths.any p.same = false) : p ∉ paths :=
  fun hp => List.any_eq_false.1 hnew p hp p.same_self

/-- **One call is a turn of a queue**: what is tracked with what is added is what is forgotten with
what is tracked then. -/
theorem added_forgotten {c : MadeCall} (h : Distinct c.before.scratch)
    (hfiles : c.before.files.Anchored) :
    c.before.scratch ++ c.added = c.forgotten ++ c.after.scratch := by
  unfold MadeCall.added MadeCall.forgotten
  rcases scratch_cases c hfiles with ⟨p, -, hnew, hafter⟩ | hafter | ⟨gone, -, hsplit, -⟩
  · have hnone : c.before.scratch.filter (· ∉ c.before.scratch ++ [p]) = [] :=
      List.filter_eq_nil_iff.2 fun q hq => by simp [hq]
    rw [hafter, hnone, List.filter_append, filter_not_mem_self]
    simp [not_mem_of_new hnew]
  · rw [hafter, filter_not_mem_self, List.append_nil, List.nil_append]
  · generalize c.after.scratch = left at hsplit ⊢
    rw [Distinct, hsplit] at h
    have hadded : left.filter (· ∉ c.before.scratch) = [] :=
      List.filter_eq_nil_iff.2 fun q hq => by simp [hsplit, hq]
    have hgone : gone.filter (· ∉ left) = gone :=
      List.filter_eq_self.2 fun q hq => by simpa using Distinct.not_mem h hq
    rw [hadded, List.append_nil, hsplit, List.filter_append, hgone, filter_not_mem_self,
      List.append_nil]

/-- What a call adds, it was told to register. -/
theorem register_of_added {c : MadeCall} (hfiles : c.before.files.Anchored) (hp : p ∈ c.added) :
    c.call = .register p := by
  obtain ⟨hafter, hbefore⟩ := List.mem_filter.1 hp
  have hbefore : p ∉ c.before.scratch := by simpa using hbefore
  rcases scratch_cases c hfiles with ⟨q, hc, -, hadded⟩ | hsame | ⟨gone, -, hsplit, -⟩
  · rw [hadded] at hafter
    obtain rfl := List.mem_singleton.1 ((List.mem_append.1 hafter).resolve_left hbefore)
    exact hc
  · rw [hsame] at hafter
    exact absurd hafter hbefore
  · rw [hsplit] at hbefore
    exact absurd (List.mem_append_right _ hafter) hbefore

/-- What a call forgets, it was told to purge, and it is gone. -/
theorem gone_of_forgotten {c : MadeCall} (hfiles : c.before.files.Anchored)
    (hp : p ∈ c.forgotten) :
    c.call = .release false .purge ∧ c.after.files.isThere p = false := by
  obtain ⟨hbefore, hafter⟩ := List.mem_filter.1 hp
  have hafter : p ∉ c.after.scratch := by simpa using hafter
  rcases scratch_cases c hfiles with ⟨q, -, -, hadded⟩ | hsame | ⟨gone, hc, hsplit, hgone⟩
  · rw [hadded] at hafter
    exact absurd (List.mem_append_left _ hbefore) hafter
  · rw [hsame] at hafter
    exact absurd hbefore hafter
  · rw [hsplit] at hbefore
    have hin : p ∈ gone := (List.mem_append.1 hbefore).resolve_right hafter
    exact ⟨hc, hgone p hin⟩

namespace ScratchRun

variable {calls : List MadeCall}

theorem distinct (h : ScratchRun calls paths) : Distinct paths := by
  induction h with
  | start => exact List.Pairwise.nil
  | call _ hfiles ih => exact distinct_after ih hfiles

theorem anchored (h : ScratchRun calls paths) : ∀ c ∈ calls, c.before.files.Anchored := by
  induction h with
  | start => exact fun c hc => absurd hc (by simp)
  | call _ hfiles ih =>
    intro c hc
    rcases List.mem_append.1 hc with hc | hc
    · exact ih c hc
    · obtain rfl := List.mem_singleton.1 hc
      exact hfiles

/-- **The tracked paths are a queue.** The induction is on the calls, each of which is a turn. -/
theorem queue (h : ScratchRun calls paths) :
    calls.flatMap MadeCall.added = calls.flatMap MadeCall.forgotten ++ paths := by
  induction h with
  | start => rfl
  | @call calls c hbefore hfiles ih =>
    have hturn := added_forgotten hbefore.distinct hfiles
    rw [List.flatMap_append, List.flatMap_append, List.flatMap_singleton, List.flatMap_singleton,
      ih, List.append_assoc, hturn, List.append_assoc]

/-- A path that is registered is among those that were added, or an equal one is. -/
theorem added_of_register (h : ScratchRun calls paths) {c : MadeCall} (hc : c ∈ calls)
    (hp : c.call = .register p) : ∃ q ∈ calls.flatMap MadeCall.added, p.same q = true := by
  induction h with
  | start => exact absurd hc (by simp)
  | @call calls last hbefore hfiles ih =>
    rw [List.flatMap_append]
    rcases List.mem_append.1 hc with hc | hc
    · obtain ⟨q, hq, hsame⟩ := ih hc
      exact ⟨q, List.mem_append_left _ hq, hsame⟩
    · obtain rfl := List.mem_singleton.1 hc
      have hafter : c.after.scratch = tracked c.before.scratch p := by
        rw [MadeCall.after, hp]
        rfl
      cases hany : c.before.scratch.any p.same with
      | false =>
        -- it is new, and so it is added now
        refine ⟨p, List.mem_append_right _ ?_, p.same_self⟩
        rw [tracked_eq, hany] at hafter
        rw [List.flatMap_singleton, MadeCall.added, hafter]
        exact List.mem_filter.2 ⟨by simp, by simpa using not_mem_of_new hany⟩
      | true =>
        -- an equal one is tracked, and that was added before
        obtain ⟨q, hq, hsame⟩ := List.any_eq_true.1 hany
        refine ⟨q, List.mem_append_left _ ?_, hsame⟩
        rw [hbefore.queue]
        exact List.mem_append_right _ hq

end ScratchRun

/-- **Scratch directories are released in order, and only what is gone is forgotten.** After any
calls, between which the files may change in any way, no two tracked paths are equal, and the paths
that were ever added are those that were forgotten and then those that are tracked. Only a path that
is registered is added, and every path that was registered is among them, or an equal one is. A path
was only forgotten by a purging release, after which it led nowhere.

Of the next call this says: a release that keeps, or that is made while debugging is on, changes
nothing; and a purging one removes each tracked path once and forgets it, in order, until it has
removed them all or fails on one, and none of those it forgot is there in the end. -/
theorem scratch_released_in_order {calls : List MadeCall} (hrun : ScratchRun calls paths) :
    Distinct paths
      ∧ calls.flatMap MadeCall.added = calls.flatMap MadeCall.forgotten ++ paths
      ∧ (∀ c ∈ calls, ∀ p ∈ c.added, c.call = .register p)
      ∧ (∀ c ∈ calls, ∀ p, c.call = .register p →
          ∃ q ∈ calls.flatMap MadeCall.added, p.same q = true)
      ∧ (∀ c ∈ calls, ∀ p ∈ c.forgotten,
          c.call = .release false .purge ∧ c.after.files.isThere p = false)
      ∧ ∀ s : Session, s.scratch = paths → s.files.Anchored →
        (∀ debugging how, debugging = true ∨ how = .keep →
          ∃ events, (dispose debugging how).runOn s = (.ok (), s.noting events))
        ∧ ∃ r s', (dispose false .purge).runOn s = (r, s') ∧ Purged s r s'
          ∧ ∃ gone, paths = gone ++ s'.scratch ∧ ∀ p ∈ gone, s'.files.isThere p = false := by
  refine ⟨hrun.distinct, hrun.queue, fun c hc p hp => register_of_added (hrun.anchored c hc) hp,
    fun c hc p hp => hrun.added_of_register hc hp,
    fun c hc p hp => gone_of_forgotten (hrun.anchored c hc) hp, fun s hs hfiles => ?_⟩
  refine ⟨fun debugging how hkept => runOn_dispose_kept debugging how hkept s, ?_⟩
  obtain ⟨r, s', hdispose, hpurged⟩ := runOn_dispose_purge s
  have hgone := hpurged.gone hfiles
  rw [hs] at hgone
  exact ⟨r, s', hdispose, hpurged, hgone⟩

/-- A directory with a directory in it, and a file, seen from the directory around them. -/
def nestedFiles : FileSystem :=
  let name := Text.utf8
  ⟨[([name "w"], .directory), ([name "w", name "a"], .directory),
      ([name "w", name "a", name "b"], .directory), ([name "w", name "note"], .file [])], [name "w"]⟩

/-- The same without the file. -/
def nestedWithoutNote : FileSystem := { nestedFiles with entries := nestedFiles.entries.take 3 }

/-- The paths that are registered: one inside the next, a file, and the current directory. -/
def nestedPaths : List Path := ["a/b", "a", "note", "../w"].map Path.ofText

/-- A session over these files in which the first paths are tracked. -/
def sessionTracking (files : FileSystem) (scratch : List Path) : Session :=
  (Session.ofFiles files).withScratch files scratch

/-- The paths are registered, one of them in two spellings; a release while debugging is on keeps
them, and one that purges fails on the file. -/
def nestedCalls : List MadeCall :=
  let registered : List MadeCall := (List.range 4).map fun n =>
    ⟨sessionTracking nestedFiles (nestedPaths.take n), .register (nestedPaths.getD n .empty)⟩
  registered ++ [⟨sessionTracking nestedFiles nestedPaths, .register (.ofText "a/")⟩,
    ⟨sessionTracking nestedFiles nestedPaths, .release true .purge⟩,
    ⟨sessionTracking nestedFiles nestedPaths, .release false .purge⟩]

/-- A run goes on with a call that meets what is tracked. -/
theorem ScratchRun.snoc (calls : List MadeCall) {c : MadeCall} (before : List Path)
    {after : List Path} (h : ScratchRun calls before) (hbefore : c.before.scratch = before)
    (hfiles : c.before.files.Anchored) (hafter : c.after.scratch = after) :
    ScratchRun (calls ++ [c]) after := by
  subst hbefore hafter
  exact .call h hfiles

/-- Once the file is no longer there, the last release removes the current directory too. -/
theorem nested_released :
    ScratchRun nestedCalls (nestedPaths.drop 2)
      ∧ nestedCalls.flatMap MadeCall.added = nestedPaths
      ∧ ∃ s', (dispose false .purge).runOn (sessionTracking nestedWithoutNote (nestedPaths.drop 2)) =
          (.ok (), s') ∧ s'.scratch = []
        ∧ ∀ p ∈ nestedPaths.drop 2, s'.files.isThere p = false := by
  have hanchored : ∀ files : FileSystem, files.current = [Text.utf8 "w"] →
      files.entry? [Text.utf8 "w"] = some .directory → files.Anchored := by
    intro files hcurrent hentry m
    rw [hcurrent]
    cases m with
    | zero => rfl
    | succ m => rwa [List.take_of_length_le (by simp)]
  have hfiles : nestedFiles.Anchored := hanchored _ (by decide +kernel) (by decide +kernel)
  have hrun : ScratchRun nestedCalls (nestedPaths.drop 2) := by
    refine ScratchRun.snoc nestedCalls.dropLast nestedPaths ?_ rfl hfiles
      (by decide +kernel)
    refine ScratchRun.snoc (nestedCalls.take 5) nestedPaths ?_ rfl hfiles
      (by decide +kernel)
    refine ScratchRun.snoc (nestedCalls.take 4) nestedPaths ?_ rfl hfiles
      (by decide +kernel)
    refine ScratchRun.snoc (nestedCalls.take 3) (nestedPaths.take 3) ?_ rfl hfiles
      (by decide +kernel)
    refine ScratchRun.snoc (nestedCalls.take 2) (nestedPaths.take 2) ?_ rfl hfiles
      (by decide +kernel)
    refine ScratchRun.snoc (nestedCalls.take 1) (nestedPaths.take 1) ?_ rfl hfiles
      (by decide +kernel)
    exact ScratchRun.snoc [] [] .start rfl hfiles (by decide +kernel)
  obtain ⟨-, hqueue, -, -, -, hnext⟩ := scratch_released_in_order hrun
  have hforgotten : nestedCalls.flatMap MadeCall.forgotten = nestedPaths.take 2 := by decide +kernel
  rw [hforgotten, List.take_append_drop] at hqueue
  refine ⟨hrun, hqueue, ?_⟩
  obtain ⟨-, r, s', hdispose, hpurged, gone, hsplit, hgone⟩ :=
    hnext (sessionTracking nestedWithoutNote (nestedPaths.drop 2)) rfl
      (hanchored _ (by decide +kernel) (by decide +kernel))
  have hok : passes ((dispose false .purge).runOn
      (sessionTracking nestedWithoutNote (nestedPaths.drop 2))) (fun _ => true) = true := by
    decide +kernel
  rw [hdispose] at hok
  cases hpurged with
  | all heach =>
    obtain rfl : nestedPaths.drop 2 = gone := hsplit.trans (List.append_nil gone)
    exact ⟨_, hdispose, rfl, hgone⟩
  | upTo => exact absurd hok (by simp [passes])

end SieveRun
