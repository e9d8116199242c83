import SieveRun.Proofs.AbsolutePaths
import SieveRun.Proofs.Launcher

/-!
# Where the launcher is found

Where clients are started and no directory is set for their script, the script is looked up, and
the directory that holds it is stored as an absolute path. In a layout an empty path stands for
the current directory, and the look-up takes it so: a script in the current directory is found.
But an empty path is not made absolute, so what was found cannot be stored.
`launcher_stored_iff` says of every layout when the launcher is stored: in particular whenever
its directory is named by an absolute path that is text.
-/

namespace SieveRun

open Stage Hierarchy Text

variable {s : Session} {request : ClientRequest} {inputs : DecidedInputs} {threads : ThreadCounts}
  {layout : Layout} {files : FileSystem} {d full : Path} {count : Nat}

/-! ## The directory -/

/-- A directory and its absolute path hold the same script. -/
theorem HoldsLauncher.absolute (h : HoldsLauncher files d) (hfull : files.AbsoluteOf d full)
    (hcurrent : d.isAbsolute = false → files.CurrentInPlace)
    (hfits : (full.child launcherScript).bytes.length < FileSystem.pathLimit) :
    HoldsLauncher files full := by
  obtain ⟨content, hcontent⟩ := FileSystem.isFile_iff.1 h
  exact FileSystem.isFile_iff.2 ⟨content, hfull.find?_child hcurrent (by decide +kernel)
    (by decide +kernel) hfits hcontent⟩

/-! ## The run -/

/-- The number of clients that is seen once all is laid out. -/
def seenClients (request : ClientRequest) (inputs : DecidedInputs) (threads : ThreadCounts)
    (h : Hierarchy) : Option Nat :=
  ((h.get? clientCountKey).or ((plannedClients request.count (h.get? hostsKey) inputs.isDefault
    (clientsNeeded threads)).map numeral)).bind fun v => Text.count? v.toList

/-- The directory of the script is stored: a text that spells its absolute path, which the plan
has, too. The script is also found from there, as long as the current directory is where its path
says and the path of the script is not too long. -/
structure LauncherStored (d full : Path) (count : Nat) (s : Session)
    (run : Except RunError ClientPlan × Session) : Prop where
  absolute : s.files.AbsoluteOf d full
  plan : run.1 = .ok ⟨count, some full⟩
  stored : ∃ text, run.2.params.value? scriptKey = some text ∧ Path.ofText text = full
  holds : (d.isAbsolute = false → s.files.CurrentInPlace) →
    (full.child launcherScript).bytes.length < FileSystem.pathLimit → HoldsLauncher s.files full

section
variable (hrun : request.serverOnly = false)
  (hcount : seenClients request inputs threads s.params = some count) (hpos : 0 < count)
  (hscript : (s.params.get? scriptKey).getD "" = "")
include hrun hcount

/-- Laying out takes the run to where the launcher is needed. -/
theorem runOn_settleClients_launch (layout : Layout) :
    ∃ h events, (settleClients request inputs threads layout).runOn s =
        (launchClients layout count).runOn ((s.withParams h).noting events)
      ∧ h.get? scriptKey = s.params.get? scriptKey := by
  obtain ⟨events, hlay⟩ := takes_layOutClients request.count inputs threads s rfl rfl
  have hl := clientsLaidOut_fillAll request.count inputs threads s.params
  have hsame : ∀ source ∈ scriptKey.sources, (s.params.fillAll (clientDefaults request.count
      (s.params.get? hostsKey) inputs threads)).value? source = s.params.value? source :=
    fun source hs => value?_scriptKey_laidOut hs
  generalize s.params.fillAll _ = h at hlay hl hsame
  have hseen : h.count? clientCountKey = some count := by
    rw [Hierarchy.count?, hl.count.seen]
    exact hcount
  have hanswers : Answers (readCount? clientCountKey) h s.files (some count) :=
    answers_readCount?_of_some hseen
  obtain ⟨more, hread⟩ := hanswers ((s.withParams h).noting events) rfl rfl
  refine ⟨h, events ++ more, ?_, get?_congr hsame⟩
  rw [settleClients_eq hrun, runOn_bind_of_ok hlay, runOn_bind_of_ok hread, Session.noting_noting]
  rfl

include hpos hscript

/-- What is found is stored as it shows, and read back from there. -/
theorem settleClients_found (hfind : findLauncher layout s.files = .ok full) :
    ∃ s', (settleClients request inputs threads layout).runOn s =
        (.ok ⟨count, some (Path.ofText full.text)⟩, s')
      ∧ s'.params.value? scriptKey = some full.text := by
  obtain ⟨h, events, hlaunch, hsame⟩ := runOn_settleClients_launch hrun hcount layout
  rw [← hsame] at hscript
  obtain ⟨more, hend⟩ := takes_launchClients hpos hscript hfind
    ((s.withParams h).noting events) rfl rfl
  exact ⟨_, hlaunch.trans hend, value?_set_self _ _ _⟩

theorem settleClients_unfound {e : RunError} (hfind : findLauncher layout s.files = .error e) :
    ((settleClients request inputs threads layout).runOn s).1 = .error e := by
  obtain ⟨h, events, hlaunch, hsame⟩ := runOn_settleClients_launch hrun hcount layout
  rw [← hsame] at hscript
  obtain ⟨more, hend⟩ := launchClients_refused (s := (s.withParams h).noting events) hpos hscript
    hfind
  rw [hlaunch, hend]

/-- What is stored spells an absolute path, so the directory has one that is text, and a form
that is absolute. -/
theorem text_of_launcherStored (hd : LauncherAt layout s.files d)
    (hfull : LauncherStored d full count s
      ((settleClients request inputs threads layout).runOn s)) :
    d.bytes ≠ [] ∧ IsText d.bytes ∧ ∃ base, s.files.base d = .ok base ∧ IsText base.bytes := by
  obtain ⟨base, hbase, -⟩ := hfull.absolute.steps
  obtain ⟨text, -, htext⟩ := hfull.stored
  have hboth := (hfull.absolute.isText_iff hbase).1 (htext ▸ Path.isText_ofText text)
  refine ⟨fun hempty => ?_, hboth.2, base, hbase, hboth.1⟩
  -- an empty path is not made absolute, so nothing would have been planned
  have hnone : s.files.absolute d = .error .emptyPath := by
    rw [FileSystem.absolute, if_pos hempty]
  have herror := settleClients_unfound hrun hcount hpos hscript (findLauncher_of_error hd hnone)
  exact absurd (herror.symm.trans hfull.plan) (by simp)

theorem launcherStored_of_text {base : Path} (hd : LauncherAt layout s.files d)
    (hne : d.bytes ≠ []) (htext : IsText d.bytes) (hbase : s.files.base d = .ok base)
    (hbasetext : IsText base.bytes) :
    LauncherStored d (d.absolute base) count s
      ((settleClients request inputs threads layout).runOn s) := by
  have habs := FileSystem.absolute_eq_of_base hne hbase
  have hfull := FileSystem.absoluteOf_absolute habs
  have hspelled : Path.ofText (d.absolute base).text = d.absolute base :=
    Path.ofText_text ((hfull.isText_iff hbase).2 ⟨hbasetext, htext⟩)
  obtain ⟨s', hrunok, hstored⟩ :=
    settleClients_found hrun hcount hpos hscript (findLauncher_of_ok hd habs)
  rw [hspelled] at hrunok
  rw [hrunok]
  exact ⟨hfull, rfl, ⟨_, hstored, hspelled⟩, hd.holds.absolute hfull⟩

theorem settleClients_noLauncher_iff :
    ((settleClients request inputs threads layout).runOn s).1 =
        .error (.noLauncher (layout.bin.child launcherScript)) ↔
      ∀ d ∈ launcherDirectories layout, ¬ HoldsLauncher s.files d := by
  constructor
  · intro herror d hd hholds
    obtain ⟨e, he⟩ := exists_launcherAt hd hholds
    cases habs : s.files.absolute e with
    | ok full =>
      obtain ⟨s', hrunok, -⟩ :=
        settleClients_found hrun hcount hpos hscript (findLauncher_of_ok he habs)
      rw [hrunok] at herror
      exact absurd herror (by simp)
    | error cause =>
      have hother := settleClients_unfound hrun hcount hpos hscript (findLauncher_of_error he habs)
      exact absurd (hother.symm.trans herror) (by simp)
  · intro hnone
    exact settleClients_unfound hrun hcount hpos hscript (findLauncher_missing hnone)

end

/-- **When the launcher is found and stored.** Clients are to be started, and no directory is set
for their script. If the source tree or else `bin` holds the script, then its directory is stored
exactly when its path is not empty and is text, and it is absolute or the current directory is
there and has a path that is text. The run fails for want of a script exactly when neither of
the two directories holds it. -/
theorem launcher_stored_iff (request : ClientRequest) (inputs : DecidedInputs)
    (threads : ThreadCounts) (layout : Layout) (s : Session) (hrun : request.serverOnly = false)
    (hcount : seenClients request inputs threads s.params = some count) (hpos : 0 < count)
    (hscript : (s.params.get? scriptKey).getD "" = "") :
    (∀ d, LauncherAt layout s.files d →
      ((∃ full, LauncherStored d full count s
          ((settleClients request inputs threads layout).runOn s)) ↔
        d.bytes ≠ [] ∧ IsText d.bytes ∧ ∃ base, s.files.base d = .ok base ∧ IsText base.bytes))
    ∧ (((settleClients request inputs threads layout).runOn s).1 =
          .error (.noLauncher (layout.bin.child launcherScript)) ↔
        ∀ d ∈ launcherDirectories layout, ¬ HoldsLauncher s.files d) := by
  refine ⟨fun d hd => ⟨?_, ?_⟩, settleClients_noLauncher_iff hrun hcount hpos hscript⟩
  · rintro ⟨full, hfull⟩
    exact text_of_launcherStored hrun hcount hpos hscript hd hfull
  · rintro ⟨hne, htext, base, hbase, hbasetext⟩
    exact ⟨_, launcherStored_of_text hrun hcount hpos hscript hd hne htext hbase hbasetext⟩

/-- An installation below the current directory, whose source tree lacks the script. -/
def nearbyLayout : Layout :=
  ⟨.ofText "/data", .ofText "/lib", .ofText "./b//", some (.ofText "src")⟩

/-- The files of the installation. -/
def nearbySession : Session :=
  .ofFiles ⟨[([utf8 "w"], .directory), ([utf8 "w", utf8 "src"], .directory),
    ([utf8 "w", utf8 "b"], .directory), ([utf8 "w", utf8 "b", utf8 launcherScript], .file [])],
    [utf8 "w"]⟩

/-- The inputs of a run on a shipped file. -/
def nearbyInputs : DecidedInputs := ⟨⟨5⟩, .ofText "/f", true, .ofText "/w"⟩

/-- The script is in `bin`, which is named from the current directory. It is found from the path
that is stored, too. -/
theorem nearby_launcher_stored :
    ∃ full, LauncherStored (.ofText "./b//") full 3 nearbySession
        ((settleClients {} nearbyInputs ⟨5, 2, 2⟩ nearbyLayout).runOn nearbySession)
      ∧ full = .ofText "/w/b/"
      ∧ HoldsLauncher nearbySession.files full := by
  have hat : LauncherAt nearbyLayout nearbySession.files (.ofText "./b//") := by
    refine .bin (fun d hd => ?_) (by unfold HoldsLauncher; decide +kernel)
    rw [← Option.some.inj hd]
    unfold HoldsLauncher
    decide +kernel
  obtain ⟨hstored, -⟩ := launcher_stored_iff {} nearbyInputs ⟨5, 2, 2⟩ nearbyLayout nearbySession
    rfl (by decide +kernel : seenClients {} nearbyInputs ⟨5, 2, 2⟩ nearbySession.params = some 3)
    (by decide) (by decide +kernel)
  obtain ⟨full, hfull⟩ := (hstored _ hat).2 ⟨by decide +kernel, Path.isText_ofText _,
    .ofText "/w", by decide +kernel, Path.isText_ofText _⟩
  have hplan := hfull.plan.symm.trans
    (by decide +kernel : _ = Except.ok (ClientPlan.mk 3 (some (.ofText "/w/b/"))))
  obtain rfl : full = .ofText "/w/b/" := by simpa using hplan
  have hcurrent : nearbySession.files.CurrentInPlace := by
    intro base hbase
    have hw : Except.ok (Path.ofText "/w") = Except.ok base := Eq.trans (by decide +kernel) hbase
    rw [← Except.ok.inj hw]
    decide +kernel
  exact ⟨_, hfull, rfl, hfull.holds (fun _ => hcurrent) (by decide +kernel)⟩

/-- The script is in the current directory, and a host is named. -/
def localSession : Session :=
  (Session.ofFiles ⟨[([utf8 "w"], .directory), ([utf8 "w", utf8 launcherScript], .file [])],
    [utf8 "w"]⟩).withParams (Hierarchy.empty.set hostsKey "localhost")

/-- The inputs of a run on a file of its own. -/
def localInputs : DecidedInputs := ⟨⟨5⟩, .ofText "/f", false, .ofText "/w"⟩

/-- An empty `bin` stands for the current directory, which holds the script and has an absolute
path. The run for the one client that is to be started fails all the same. -/
theorem empty_bin_refused :
    LauncherAt ⟨.ofText "/data", .ofText "/lib", .ofText "", none⟩ localSession.files (.ofText "")
      ∧ localSession.files.AbsoluteOf (.ofText "") (.ofText "/w")
      ∧ seenClients {} localInputs ⟨4, 2, 2⟩ localSession.params = some 1
      ∧ (localSession.params.get? scriptKey).getD "" = ""
      ∧ ((settleClients {} localInputs ⟨4, 2, 2⟩
          ⟨.ofText "/data", .ofText "/lib", .ofText "", none⟩).runOn localSession).1 =
        .error (.file .makeAbsolute (.ofText "") .emptyPath) := by
  refine ⟨.bin (by simp) ?_, ⟨by decide +kernel, .ofText "/w", by decide +kernel,
    by decide +kernel⟩, by decide +kernel, by decide +kernel, by decide +kernel⟩
  unfold HoldsLauncher
  decide +kernel

end SieveRun
