import SieveRun.Proofs.ClientLayout

/-!
# How the clients are settled

The number of clients that is seen once all is laid out decides whether a launcher is needed. A
launcher that no directory is set for is looked up: in the source tree first, and else in `bin`
(`LauncherAt`). What happens then is a case distinction without remainder (`LauncherSettled`),
and with what is laid out it says all there is to say of a run (`settleClients_settled`).
-/

namespace SieveRun

open Stage Hierarchy Text

variable {s s' : Session} {inputs : DecidedInputs} {threads : ThreadCounts} {layout : Layout}
  {files : FileSystem} {h h₁ : Hierarchy} {d : Path} {e : RunError} {count : Nat} {v : String}

/-! ## The launcher -/

/-- The directory holds the script that launches a client. -/
def HoldsLauncher (files : FileSystem) (d : Path) : Prop :=
  files.isFile (d.child launcherScript) = true

/-- Where the script is found: in the source tree, if there is one that holds it, else in
`bin`. -/
inductive LauncherAt (layout : Layout) (files : FileSystem) : Path → Prop
  | source {d : Path} : layout.source = some d → HoldsLauncher files d → LauncherAt layout files d
  | bin : (∀ d, layout.source = some d → ¬ HoldsLauncher files d) →
      HoldsLauncher files layout.bin → LauncherAt layout files layout.bin

theorem find?_launcherDirectories (hd : LauncherAt layout files d) :
    ((launcherDirectories layout).find? fun d => files.isFile (d.child launcherScript)) = some d := by
  unfold launcherDirectories
  cases hd with
  | source hsource hholds =>
    rw [hsource]
    exact List.find?_cons_of_pos hholds
  | bin hnone hholds =>
    cases hsource : layout.source with
    | none => exact List.find?_cons_of_pos hholds
    | some e =>
      have hnot : ¬ files.isFile (e.child launcherScript) = true := hnone e hsource
      have hbin : files.isFile (layout.bin.child launcherScript) = true := hholds
      simp [hnot, hbin]

theorem LauncherAt.mem (hd : LauncherAt layout files d) : d ∈ launcherDirectories layout :=
  List.mem_of_find?_eq_some (find?_launcherDirectories hd)

theorem LauncherAt.holds (h : LauncherAt layout files d) : HoldsLauncher files d := by
  cases h with
  | source _ hholds => exact hholds
  | bin _ hholds => exact hholds

/-- A script that is in one of the directories is found. -/
theorem exists_launcherAt (hd : d ∈ launcherDirectories layout) (hholds : HoldsLauncher files d) :
    ∃ e, LauncherAt layout files e := by
  by_cases hsource : ∃ e, layout.source = some e ∧ HoldsLauncher files e
  · obtain ⟨e, he, hin⟩ := hsource
    exact ⟨e, .source he hin⟩
  · rcases List.mem_append.1 hd with hd | hd
    · exact absurd ⟨d, Option.mem_toList.1 hd, hholds⟩ hsource
    · obtain rfl := List.mem_singleton.1 hd
      exact ⟨layout.bin, .bin (fun e he hin => hsource ⟨e, he, hin⟩) hholds⟩

theorem findLauncher_of_ok (hd : LauncherAt layout files d) {full : Path}
    (hfull : files.absolute d = .ok full) : findLauncher layout files = .ok full := by
  simp only [findLauncher, find?_launcherDirectories hd, hfull]

theorem findLauncher_of_error (hd : LauncherAt layout files d) {cause : FileError}
    (hcause : files.absolute d = .error cause) :
    findLauncher layout files = .error (.file .makeAbsolute d cause) := by
  simp only [findLauncher, find?_launcherDirectories hd, hcause]

theorem findLauncher_missing
    (hnone : ∀ d ∈ launcherDirectories layout, ¬ HoldsLauncher files d) :
    findLauncher layout files = .error (.noLauncher (layout.bin.child launcherScript)) := by
  have hfind : ((launcherDirectories layout).find? fun d =>
      files.isFile (d.child launcherScript)) = none := by
    rw [List.find?_eq_none]
    exact hnone
  rw [findLauncher, hfind]

/-- What goes wrong in the search for the launcher has nothing to do with parameters. -/
theorem findLauncher_ne_params (cause : ParameterError) :
    findLauncher layout files ≠ .error (.params cause) := by
  unfold findLauncher
  split
  · simp
  · split
    · simp
    · simp

/-- A relative path has no absolute form where the current directory is gone, and any other path
that is not empty has one. -/
theorem absolute_error (hd : d.bytes ≠ []) {cause : FileError}
    (he : files.absolute d = .error cause) :
    cause = .notFound ∧ d.isAbsolute = false ∧ FileSystem.isRemoved files.current = true := by
  rw [FileSystem.absolute, if_neg hd, FileSystem.base] at he
  by_cases habs : d.isAbsolute = true
  · rw [if_pos habs] at he
    exact absurd he (by simp [Except.map])
  · rw [if_neg habs, FileSystem.currentPath] at he
    by_cases hgone : FileSystem.isRemoved files.current = true
    · rw [if_pos hgone] at he
      exact ⟨(Except.error.inj he).symm, by simpa using habs, hgone⟩
    · rw [if_neg hgone] at he
      split at he
      · exact absurd he (by simp [Except.map])
      · exact absurd he (by simp [Except.map])

theorem takes_storeLauncher {found : Path} (hfound : findLauncher layout files = .ok found) :
    Takes (storeLauncher layout) h files () (h.set scriptKey found.text) := by
  intro s hs hfiles
  rw [storeLauncher, runOn_bind_of_ok (runOn_get _), hfiles, hfound]
  exact ((takes_store _ _).bind (answers_note _).takes) s hs hfiles

theorem takes_launchClients {found : Path} (hpos : 0 < count)
    (hscript : (h.get? scriptKey).getD "" = "") (hfound : findLauncher layout files = .ok found) :
    Takes (launchClients layout count) h files ⟨count, some (Path.ofText found.text)⟩
      (h.set scriptKey found.text) := by
  have hread : Answers (read? scriptKey) (h.set scriptKey found.text) files (some found.text) := by
    have hself : (h.set scriptKey found.text).get? scriptKey = some found.text :=
      get?_of_value? (value?_set_self _ _ _)
    exact hself ▸ answers_read? scriptKey
  have hlast : Answers (read? scriptKey >>= fun script =>
      (pure ⟨count, script.map Path.ofText⟩ : Stage ClientPlan)) (h.set scriptKey found.text) files
        ⟨count, some (Path.ofText found.text)⟩ := hread.bind (answers_pure _)
  unfold launchClients
  rw [if_pos hpos]
  refine (answers_read? scriptKey).takes.bind ?_
  rw [if_pos hscript]
  exact (takes_storeLauncher hfound).bind hlast.takes

theorem launchClients_refused (hpos : 0 < count) (hscript : (s.params.get? scriptKey).getD "" = "")
    (he : findLauncher layout s.files = .error e) :
    ∃ events, (launchClients layout count).runOn s = (.error e, s.noting events) := by
  have hstore : ∀ events, (storeLauncher layout).runOn (s.noting events) =
      (.error e, s.noting events) := by
    intro events
    rw [storeLauncher, runOn_bind_of_ok (runOn_get _), Session.noting_files, he]
    rfl
  refine ⟨readNotes s.params scriptKey, ?_⟩
  unfold launchClients
  rw [if_pos hpos, runOn_bind_of_ok (runOn_read? _ _), if_pos hscript]
  exact runOn_bind_of_error (hstore _)

/-! ## All of it -/

/-- What becomes of the launcher, given the number of clients that is seen. -/
structure LauncherSettled (layout : Layout) (count : Nat) (s : Session)
    (outcome : Except RunError ClientPlan) (s' : Session) : Prop where
  /-- None is needed, or there is a path for it. -/
  kept : count = 0 ∨ (s.params.get? scriptKey).getD "" ≠ "" →
    outcome = .ok ⟨count, (s.params.get? scriptKey).map Path.ofText⟩
      ∧ s'.params.value? scriptKey = s.params.value? scriptKey
  missing : 0 < count → (s.params.get? scriptKey).getD "" = "" →
    (∀ d ∈ launcherDirectories layout, ¬ HoldsLauncher s.files d) →
      outcome = .error (.noLauncher (layout.bin.child launcherScript))
        ∧ s'.params.value? scriptKey = s.params.value? scriptKey
  found : 0 < count → (s.params.get? scriptKey).getD "" = "" → ∀ d,
    LauncherAt layout s.files d → ∀ full, s.files.absolute d = .ok full →
      outcome = .ok ⟨count, some (Path.ofText full.text)⟩
        ∧ s'.params.value? scriptKey = some full.text
  /-- Only a relative path has no absolute form, and only where the current directory is gone. -/
  placeless : 0 < count → (s.params.get? scriptKey).getD "" = "" → ∀ d,
    LauncherAt layout s.files d → ∀ cause, s.files.absolute d = .error cause →
      outcome = .error (.file .makeAbsolute d cause)
        ∧ s'.params.value? scriptKey = s.params.value? scriptKey
        ∧ d.isAbsolute = false ∧ FileSystem.isRemoved s.files.current = true

theorem launcherSettled_of_kept {outcome : Except RunError ClientPlan}
    (hkept : count = 0 ∨ (s.params.get? scriptKey).getD "" ≠ "")
    (houtcome : outcome = .ok ⟨count, (s.params.get? scriptKey).map Path.ofText⟩)
    (hvalue : s'.params.value? scriptKey = s.params.value? scriptKey) :
    LauncherSettled layout count s outcome s' := by
  have hneeded : 0 < count → (s.params.get? scriptKey).getD "" = "" → False := by
    intro hpos hscript
    rcases hkept with hzero | hset
    · omega
    · exact hset hscript
  exact ⟨fun _ => ⟨houtcome, hvalue⟩, fun hpos hscript => (hneeded hpos hscript).elim,
    fun hpos hscript => (hneeded hpos hscript).elim, fun hpos hscript => (hneeded hpos hscript).elim⟩

theorem launcherSettled_of_found {outcome : Except RunError ClientPlan} {full : Path}
    (hpos : 0 < count) (hscript : (s.params.get? scriptKey).getD "" = "")
    (hfind : findLauncher layout s.files = .ok full)
    (houtcome : outcome = .ok ⟨count, some (Path.ofText full.text)⟩)
    (hvalue : s'.params.value? scriptKey = some full.text) :
    LauncherSettled layout count s outcome s' := by
  refine ⟨?_, ?_, ?_, ?_⟩
  · rintro (hzero | hset)
    · omega
    · exact absurd hscript hset
  · intro _ _ hnone
    rw [findLauncher_missing hnone] at hfind
    exact absurd hfind (by simp)
  · intro _ _ d hd full' hfull
    rw [findLauncher_of_ok hd hfull] at hfind
    obtain rfl := Except.ok.inj hfind
    exact ⟨houtcome, hvalue⟩
  · intro _ _ d hd cause hcause
    rw [findLauncher_of_error hd hcause] at hfind
    exact absurd hfind (by simp)

theorem launcherSettled_of_error {outcome : Except RunError ClientPlan}
    (hbytes : ∀ d ∈ launcherDirectories layout, d.bytes ≠ [])
    (hpos : 0 < count) (hscript : (s.params.get? scriptKey).getD "" = "")
    (hfind : findLauncher layout s.files = .error e) (houtcome : outcome = .error e)
    (hvalue : s'.params.value? scriptKey = s.params.value? scriptKey) :
    LauncherSettled layout count s outcome s' := by
  subst houtcome
  refine ⟨?_, ?_, ?_, ?_⟩
  · rintro (hzero | hset)
    · omega
    · exact absurd hscript hset
  · intro _ _ hnone
    rw [findLauncher_missing hnone] at hfind
    exact ⟨congrArg Except.error (Except.error.inj hfind).symm, hvalue⟩
  · intro _ _ d hd full hfull
    rw [findLauncher_of_ok hd hfull] at hfind
    exact absurd hfind (by simp)
  · intro _ _ d hd cause hcause
    rw [findLauncher_of_error hd hcause] at hfind
    obtain rfl := Except.error.inj hfind
    obtain ⟨-, hrelative, hgone⟩ := absolute_error (hbytes d hd.mem) hcause
    exact ⟨rfl, hvalue, hrelative, hgone⟩

/-- The outcome of settling the clients, and the session after it. -/
structure ClientsSettled (request : ClientRequest) (inputs : DecidedInputs)
    (threads : ThreadCounts) (layout : Layout) (s : Session)
    (outcome : Except RunError ClientPlan) (s' : Session) : Prop where
  laidOut : ClientsLaidOut request.count inputs threads s.params s'.params
  files : s'.files = s.files
  scratch : s'.scratch = s.scratch
  refused : ∀ v, s.params.get? clientCountKey = some v → Text.count? v.toList = none →
    outcome = .error (.params (.invalid clientCountKey.text v))
      ∧ s'.params.value? scriptKey = s.params.value? scriptKey
  /-- There is no other reason to refuse a value. -/
  refused_only : s.params.ReadsCount clientCountKey → ∀ cause, outcome ≠ .error (.params cause)
  launcher : s.params.ReadsCount clientCountKey →
    LauncherSettled layout ((s'.params.count? clientCountKey).getD 0) s outcome s'

section
variable {request : ClientRequest} (hl : ClientsLaidOut request.count inputs threads s.params h₁)
  (hscript : ∀ source ∈ scriptKey.sources, h₁.value? source = s.params.value? source)
include hl hscript

/-- A number that was seen and is no count is refused once all is laid out. -/
theorem launch_refused (hv : s.params.get? clientCountKey = some v)
    (hcount : Text.count? v.toList = none) (events : List Event) :
    ∃ outcome s', (readCount? clientCountKey >>= fun count =>
        launchClients layout (count.getD 0)).runOn ((s.withParams h₁).noting events) = (outcome, s')
      ∧ ClientsSettled request inputs threads layout s outcome s' := by
  have hseen : h₁.get? clientCountKey = some v := by
    rw [hl.count.seen, hv]
    rfl
  have hself : h₁.value? scriptKey = s.params.value? scriptKey :=
    hscript scriptKey (self_mem_sources scriptKey)
  have hbad := not_readsCount_iff.2 ⟨v, hv, hcount⟩
  refine ⟨_, _, runOn_bind_of_error (runOn_readAs?_of_none hseen hcount), hl, rfl, rfl, ?_,
    fun hread => absurd hread hbad, fun hread => absurd hread hbad⟩
  intro w hw _
  obtain rfl := Option.some.inj (hv.symm.trans hw)
  exact ⟨rfl, hself⟩

/-- A number that can be read decides whether a launcher is needed. -/
theorem launch_settled (hread : s.params.ReadsCount clientCountKey)
    (hread₁ : h₁.ReadsCount clientCountKey)
    (hbytes : ∀ d ∈ launcherDirectories layout, d.bytes ≠ []) (events : List Event) :
    ∃ outcome s', (readCount? clientCountKey >>= fun count =>
        launchClients layout (count.getD 0)).runOn ((s.withParams h₁).noting events) = (outcome, s')
      ∧ ClientsSettled request inputs threads layout s outcome s' := by
  have hanswers : Answers (readCount? clientCountKey) h₁ s.files (h₁.count? clientCountKey) :=
    answers_readAs? hread₁
  obtain ⟨more, hrun⟩ := hanswers ((s.withParams h₁).noting events) rfl rfl
  rw [runOn_bind_of_ok hrun]
  have hget : h₁.get? scriptKey = s.params.get? scriptKey := get?_congr hscript
  have hself : h₁.value? scriptKey = s.params.value? scriptKey :=
    hscript scriptKey (self_mem_sources scriptKey)
  have hnone : ∀ v, s.params.get? clientCountKey = some v → ¬ Text.count? v.toList = none :=
    fun v hv hcount => not_readsCount_iff.2 ⟨v, hv, hcount⟩ hread
  let t := ((s.withParams h₁).noting events).noting more
  by_cases hkept : (h₁.count? clientCountKey).getD 0 = 0 ∨ (s.params.get? scriptKey).getD "" ≠ ""
  · obtain ⟨last, hlaunch⟩ := answers_launchClients (hget ▸ hkept) t rfl rfl
    refine ⟨_, _, hlaunch, hl, rfl, rfl, fun v hv hcount => absurd hcount (hnone v hv),
      fun _ _ => by simp, fun _ => ?_⟩
    refine launcherSettled_of_kept hkept ?_ hself
    show _ = Except.ok (ClientPlan.mk _ ((s.params.get? scriptKey).map Path.ofText))
    rw [← hget]
    rfl
  · obtain ⟨hpos, hempty⟩ := not_or.1 hkept
    replace hpos : 0 < (h₁.count? clientCountKey).getD 0 := by omega
    replace hempty : (s.params.get? scriptKey).getD "" = "" := not_not.1 hempty
    cases hfind : findLauncher layout s.files with
    | ok full =>
      obtain ⟨last, hlaunch⟩ := takes_launchClients hpos (hget ▸ hempty) hfind t rfl rfl
      have hl' := hl.setScript hget hempty full.text
      -- the number of clients is read from elsewhere
      have hsame : (h₁.set scriptKey full.text).count? clientCountKey =
          h₁.count? clientCountKey := by
        rw [Hierarchy.count?, Hierarchy.count?, hl'.count.seen, hl.count.seen]
      refine ⟨_, _, hlaunch, hl', rfl, rfl, fun v hv hcount => absurd hcount (hnone v hv),
        fun _ _ => by simp, fun _ => ?_⟩
      show LauncherSettled layout
        (((h₁.set scriptKey full.text).count? clientCountKey).getD 0) s _ _
      rw [hsame]
      exact launcherSettled_of_found hpos hempty hfind rfl (value?_set_self _ _ _)
    | error e =>
      obtain ⟨last, hlaunch⟩ := launchClients_refused (s := t) hpos (hget ▸ hempty) hfind
      refine ⟨_, _, hlaunch, hl, rfl, rfl, fun v hv hcount => absurd hcount (hnone v hv), ?_,
        fun _ => launcherSettled_of_error hbytes hpos hempty hfind rfl hself⟩
      rintro _ cause he
      rw [Except.error.inj he] at hfind
      exact findLauncher_ne_params cause hfind

end

/-- **What settling the clients does.** Whatever the outcome, the three defaults are filled in
where nothing was seen, and no read loses what it saw. The run is refused for a value exactly
when the number of clients was seen and spells no count. Otherwise, if the number that is seen in
the end is not zero and no directory is set for the launcher, the launcher is looked up and its
directory stored. -/
theorem settleClients_settled (request : ClientRequest) (inputs : DecidedInputs)
    (threads : ThreadCounts) (layout : Layout) (s : Session) (hrun : request.serverOnly = false)
    (hrequested : ∀ n, request.count = some n → n < countLimit)
    (hserver : threads.server < countLimit) (hbin : layout.bin.bytes ≠ [])
    (hsource : ∀ d, layout.source = some d → d.bytes ≠ []) :
    IsLeast {c | 0 < c ∧ threads.server ≤ c * max (max threads.polyselect threads.sieve) 1}
        (clientsNeeded threads)
      ∧ ∃ outcome s', (settleClients request inputs threads layout).runOn s = (outcome, s')
        ∧ ClientsSettled request inputs threads layout s outcome s' := by
  refine ⟨clientsNeeded_isLeast threads, ?_⟩
  have hbytes : ∀ d ∈ launcherDirectories layout, d.bytes ≠ [] := by
    intro d hd
    rcases List.mem_append.1 hd with hd | hd
    · exact hsource d (Option.mem_toList.1 hd)
    · rwa [List.mem_singleton.1 hd]
  obtain ⟨events, hlay⟩ := takes_layOutClients request.count inputs threads s rfl rfl
  have hl := clientsLaidOut_fillAll request.count inputs threads s.params
  rw [settleClients_eq hrun, runOn_bind_of_ok hlay]
  by_cases hread : s.params.ReadsCount clientCountKey
  · exact launch_settled hl (fun _ hs => value?_scriptKey_laidOut hs) hread
      (hl.readsCount hrequested hserver hread) hbytes events
  · obtain ⟨v, hv, hcount⟩ := not_readsCount_iff.1 hread
    exact launch_refused hl (fun _ hs => value?_scriptKey_laidOut hs) hv hcount events

/-- The launcher is in `bin`, and there is nothing else. -/
def launcherSession : Session :=
  .ofFiles ⟨[([utf8 "b"], .directory), ([utf8 "b", utf8 launcherScript], .file [])], []⟩

/-- On a shipped parameter file, three clients of two threads each serve five threads. -/
theorem shippedRun_settled :
    ∃ outcome s', (settleClients {} ⟨⟨5⟩, .ofText "/f", true, .ofText "/w"⟩ ⟨5, 2, 2⟩
        ⟨.ofText "/data", .ofText "/lib", .ofText "/b", none⟩).runOn launcherSession = (outcome, s')
      ∧ outcome = .ok ⟨3, some (.ofText "/b")⟩
      ∧ s'.params.get? basePathKey = some "/w/client" := by
  have hserver : 5 < countLimit := by decide
  obtain ⟨-, outcome, s', hrun, hsettled⟩ := settleClients_settled {}
    ⟨⟨5⟩, .ofText "/f", true, .ofText "/w"⟩ ⟨5, 2, 2⟩
    ⟨.ofText "/data", .ofText "/lib", .ofText "/b", none⟩ launcherSession rfl (by simp) hserver
    (by decide +kernel) (by simp)
  have hread : launcherSession.params.ReadsCount clientCountKey := by
    intro v hv
    exact absurd (Eq.trans (by decide +kernel) hv : none = some v) (by simp)
  have hcount : s'.params.get? clientCountKey = some "3" :=
    hsettled.laidOut.count.seen.trans (by decide +kernel)
  have hthree : (s'.params.count? clientCountKey).getD 0 = 3 := by
    rw [Hierarchy.count?, hcount]
    decide +kernel
  have hlauncher := hsettled.launcher hread
  rw [hthree] at hlauncher
  have hat : LauncherAt ⟨.ofText "/data", .ofText "/lib", .ofText "/b", none⟩
      launcherSession.files (.ofText "/b") :=
    .bin (by simp) (by unfold HoldsLauncher; decide +kernel)
  have hfound := hlauncher.found (by decide) (by decide +kernel) _ hat (.ofText "/b")
    (by decide +kernel)
  refine ⟨outcome, s', hrun, hfound.1, ?_⟩
  exact hsettled.laidOut.basePath.seen.trans (by decide +kernel)

end SieveRun
