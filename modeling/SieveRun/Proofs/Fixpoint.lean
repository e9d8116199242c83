import SieveRun.Proofs.Printing
import SieveRun.Proofs.Scratch

/-!
# Configuring again from the printed parameters

The parameters of a run are meant to be kept: printed and saved in a file, they start the
run again, and that is a fixpoint. The second run reads back what was printed
(`Printable`), and then every stage finds its own outcome stored and changes nothing. The
stages were shown to store it (`settleThreads_ok`, `settleClients_ok`); what is left is that
no later stage of the first run disturbs what an earlier one stored, and that the working
directory it made is still there.

The one stage that need not find its outcome is the one that decides the working directory. It
reads back what the path shows as, and that is another path where the first is no text. So the
second run is given as an equation that holds for every path (`runOn_configure_again`): it is the
first run over, once the directory that the text names is seen to.
-/

namespace SieveRun

open Stage Hierarchy Assignment Text

/-- The file system `after` is `before` with a text saved in a file; files may have come and
gone besides, but no directory was removed. -/
structure SavedAt (before after : FileSystem) (file : Path) (t : String) : Prop where
  keeps : before.KeepsDirectories after
  saved : after.find? file = some (.file (utf8 t))

theorem savedAt_writeFile {before after : FileSystem} {file : Path} {t : String}
    (h : before.writeFile file (utf8 t) = .ok after)
    (hend : file.bytes.getLast? ≠ some Path.slash) : SavedAt before after file t := by
  obtain ⟨hkeeps, hsaved⟩ := FileSystem.find?_writeFile h hend
  exact ⟨hkeeps, hsaved⟩

variable {inv : Invocation} {layout : Layout} {surroundings : Surroundings} {s s' : Session}
  {c : Configuration} {h : Hierarchy} {files : FileSystem} {file w : Path} {n : Number} {t : String}

/-! ## What the first run leaves -/

namespace ConfigureRun

variable (run : ConfigureRun inv layout surroundings s c s')

include run in
theorem wellFormed (hserver : inv.serverOnly = false) : c.parameters.WellFormed := by
  rw [run.parameters]
  refine (run.grows hserver).wellFormed ?_
  rw [run.starts]
  exact wellFormed_empty.set (by decide +kernel) _

include run in
theorem programs_stored (hserver : inv.serverOnly = false) :
    (c.parameters.value? programsKey).isSome := by
  rw [run.parameters]
  refine (run.grows hserver).stored _ ?_
  rw [run.starts, startingParameters, value?_set_self]
  rfl

include run in
/-- The clients are settled after the threads, and leave their counts alone. -/
theorem threadsStored : ThreadsStored c.parameters c.threads := by
  have hstored := (settleThreads_ok run.settlesThreads).1
  rw [run.parameters]
  exact hstored.of_writes ((moves_writes_settleClients _).step run.settlesClients)

include run in
theorem clientsStored (hserver : inv.serverOnly = false) :
    ClientsStored c.parameters c.clients := by
  rw [run.parameters]
  exact settleClients_ok hserver run.settlesClients

include run in
theorem number_notZero : c.number.isZero = false := by
  obtain ⟨as, filed, hn, -⟩ := decideInputs_ok run.decides
  rw [run.number]
  exact hn.notZero

include run in
/-- No later stage touches the directory. -/
theorem workdir_there : c.workdir.bytes = [] ∨ s'.files.isDirectory c.workdir = true := by
  obtain ⟨as, filed, -, hw⟩ := decideInputs_ok run.decides
  rw [run.workdir, run.files_eq]
  exact hw.there

end ConfigureRun

/-- The directory of a run is text, or the scratch directory that the run made: one that was
named is text. -/
theorem isText_workdir_or_made
    (hrun : (configure inv layout surroundings).runOn s = (.ok c, s')) :
    IsText c.workdir.bytes
      ∨ s.files.makeScratch surroundings.temporary surroundings.scratchNames =
        .ok (c.workdir, s'.files) := by
  obtain ⟨e, -, he⟩ | ⟨opened, s₁, r₂, s₂, hopening, hdecide, hfiles, -, hworkdir⟩ :=
    configure_cases hrun
  · exact absurd he (by simp)
  obtain rfl := hworkdir c rfl
  rw [← (moves_writes_opening.step hopening).files, hfiles]
  cases hnamed : namedWorkdir opened.1.workdir s₁.params with
  | some t =>
    obtain ⟨-, -, hpath⟩ := decideWorkdir_of_named hnamed hdecide
    rw [hpath c.workdir rfl]
    exact .inl (Path.isText_ofText t)
  | none =>
    cases hd : s₁.files.makeScratch surroundings.temporary surroundings.scratchNames with
    | error cause =>
      obtain ⟨hnot, -⟩ := decideWorkdir_of_unmade hnamed (by simp [hd]) hdecide
      exact absurd rfl (hnot c.workdir)
    | ok made =>
      obtain ⟨hpath, hmade, -⟩ := decideWorkdir_of_made hnamed hd hdecide
      rw [hmade, Except.ok.inj hpath]
      exact .inr rfl

/-! ## The stages of the second run -/

/-- Reading the entries of `h` over the parameters that a run starts with gives `h`. -/
theorem setAll_startingParameters (hp : (h.value? programsKey).isSome) :
    (startingParameters layout).setAll h.entries = h := by
  refine eq_of_value? fun k => ?_
  rw [value?_setAll, last?_of_increasing h.increasing]
  show (h.value? k).or _ = _
  by_cases hk : k = programsKey
  · -- the one key that a run stores before it reads the file
    obtain ⟨v, hv⟩ := Option.isSome_iff_exists.1 hp
    rw [hk, hv]
    rfl
  · rw [value?_startingParameters hk, Option.or_none]

/-- A file that holds the entries of `h` gives `h`, and the number is seen in it. -/
theorem numberFromFile_again (hread : assignmentsIn files file = .ok h.entries)
    (hp : (h.value? programsKey).isSome) (hn : (h.get? numberKey).bind Number.ofText? = some n)
    (hzero : n.isZero = false) (hs : s.params = startingParameters layout)
    (hfiles : s.files = files) : ∃ events,
      (numberFromFile file).runOn s = (.ok (n, file, false), (s.withParams h).noting events) := by
  have hmerged : s.params.setAll h.entries = h := by rw [hs, setAll_startingParameters hp]
  obtain ⟨events, hrun⟩ := runOn_numberFromFile (s := s) (hfiles ▸ hread)
    (by rw [hmerged, ← get?_numberKey]; exact hn) hzero
  rw [hmerged] at hrun
  exact ⟨events, hrun⟩

/-- A directory that is there is left alone, and so is the empty path. -/
theorem answers_ensureDirectory (hw : w.bytes = [] ∨ files.isDirectory w = true) :
    Answers (ensureDirectory w) h files () := by
  intro s _ hfiles
  subst hfiles
  by_cases hdir : s.files.isDirectory w = true
  · exact ⟨[], by rw [runOn_ensureDirectory_of_there hdir, Session.noting_nil]⟩
  · -- nothing is made for the empty path, although the journal says so
    refine ⟨[.directoryMade w], ?_⟩
    rw [runOn_ensureDirectory_of_missing hdir,
      FileSystem.makeDirectories_of_empty (hw.resolve_right hdir)]

variable (surroundings) in
/-- The inputs are decided as they are stored, once the directory that is visible is seen to. -/
theorem decideInputs_again (defaults : ShippedFiles)
    (hread : assignmentsIn files file = .ok h.entries)
    (hp : (h.value? programsKey).isSome) (hn : (h.get? numberKey).bind Number.ofText? = some n)
    (hzero : n.isZero = false) (hvisible : h.get? workdirKey = some t)
    (hs : s.params = startingParameters layout) (hfiles : s.files = files) : ∃ events,
      (decideInputs { parameters := some file } defaults surroundings).runOn s =
        (ensureDirectory (.ofText t) >>= fun _ =>
          (pure ⟨n, file, false, .ofText t⟩ : Stage DecidedInputs)).runOn
            ((s.withParams h).noting events) := by
  obtain ⟨e₁, h₁⟩ := numberFromFile_again hread hp hn hzero hs hfiles
  have h₂ := runOn_read? workdirKey ((s.withParams h).noting e₁)
  rw [Session.noting_params, Session.withParams_params, hvisible, Session.noting_noting] at h₂
  refine ⟨e₁ ++ readNotes h workdirKey, (runOn_bind_of_ok h₁).trans ?_⟩
  simp only [decideWorkdir, bind_assoc, pure_bind]
  rw [runOn_bind_of_ok h₂]
  simp only [bind_assoc, pure_bind]

variable (layout surroundings) in
/-- With everything stored, the stages after the inputs change nothing. -/
theorem answers_last_stages (inputs : DecidedInputs) (log : LogLevel) {counts : ThreadCounts}
    {plan : ClientPlan} (hc : ThreadsStored h counts) (hzero : counts.server ≠ 0)
    (hp : ClientsStored h plan) (hfile : inputs.isDefault = false) :
    Answers (mergeOptions [] >>= fun _ => settleThreads none none surroundings >>= fun threads =>
      settleClients {} inputs threads layout >>= fun clients => get >>= fun s =>
        (pure ⟨inputs.number, inputs.parameterFile, inputs.isDefault, inputs.workdir, threads,
          clients, log, s.params⟩ : Stage Configuration)) h files
      ⟨inputs.number, inputs.parameterFile, inputs.isDefault, inputs.workdir, counts, plan, log,
        h⟩ := by
  refine Answers.bind (answers_pure ()) ?_
  refine (settleThreads_again hc (hc.kept hzero _)).bind ?_
  refine (settleClients_again rfl hp ⟨by simp, by simp [hfile]⟩).bind ?_
  refine answers_get_bind fun s hs _ => ?_
  rw [hs]
  exact answers_pure _

/-! ## The second run -/

/-- The configuration of a run that is started again from its parameters, printed and saved in a
file. -/
def Configuration.again (c : Configuration) (file : Path) : Configuration :=
  { c with
    parameterFile := file
    isDefault := false
    workdir := .ofText c.workdir.text
    fileLog := .debug }

/-- The second run, whatever its working directory is: it hangs on that directory alone. -/
theorem runOn_configure_again (hrun : (configure inv layout surroundings).runOn s = (.ok c, s'))
    (hserver : inv.serverOnly = false)
    (hprintable : ∀ k v, c.parameters.value? k = some v → Printable v)
    (hnumber : (c.parameters.get? numberKey).bind Number.ofText? = some c.number)
    (hworkdir : c.parameters.get? workdirKey = some c.workdir.text)
    (hthreads : c.threads.server ≠ 0) {s₂ : Session}
    (hsaved : SavedAt s'.files s₂.files file c.parameters.text) :
    ∃ s₃, (configure { parameters := some file } layout surroundings).runOn s₂ =
        (((ensureDirectory (.ofText c.workdir.text)).runOn s₂).1.map fun _ => c.again file, s₃)
      ∧ s₃.scratch = s₂.scratch
      ∧ s₃.files = ((ensureDirectory (.ofText c.workdir.text)).runOn s₂).2.files := by
  obtain ⟨run⟩ := configure_ok hrun
  have hread : assignmentsIn s₂.files file = .ok c.parameters.entries := by
    rw [assignmentsIn_of_find? hsaved.saved,
      ofText_text_of_printable (run.wellFormed hserver) hprintable, Except.mapError]
  -- the first two stages leave the starting parameters
  have hsorted : sortTokens s₂.files ({ parameters := some file } : Invocation).namedFlags
      sortingRules [] = .ok { parameters := some file } := rfl
  obtain ⟨e₁, h₁⟩ := answers_sortAndNote (h := s₂.params) hsorted s₂ rfl rfl
  obtain ⟨started, h₂, hparams, hfiles, hscratch⟩ : ∃ started,
      (startParameters layout).runOn (s₂.noting e₁) = (.ok (), started)
        ∧ started.params = startingParameters layout ∧ started.files = s₂.files
        ∧ started.scratch = s₂.scratch := ⟨_, rfl, rfl, rfl, rfl⟩
  -- the third reads the file, and sees to the directory
  obtain ⟨e₃, h₃⟩ := decideInputs_again surroundings
    (({ parameters := some file } : Invocation).shippedFiles layout) hread
    (run.programs_stored hserver) hnumber run.number_notZero hworkdir hparams hfiles
  obtain ⟨houtcome, hmade⟩ := ensureDirectory_congr (w := .ofText c.workdir.text)
    (s := (started.withParams c.parameters).noting e₃) hfiles
  rw [← houtcome, ← hmade]
  cases hensure : (ensureDirectory (.ofText c.workdir.text)).runOn
      ((started.withParams c.parameters).noting e₃) with
  | mk r s₄ =>
    have hkept := (ensureDirectory_outcome hensure).1.trans hscratch
    rw [runOn_bind, hensure] at h₃
    cases r with
    | error e =>
      exact ⟨s₄, (runOn_bind_of_ok h₁).trans ((runOn_bind_of_ok h₂).trans (runOn_bind_of_error h₃)),
        hkept, rfl⟩
    | ok =>
      -- from then on nothing changes
      obtain ⟨e₄, h₄⟩ := answers_last_stages layout surroundings
        ⟨c.number, file, false, .ofText c.workdir.text⟩ .debug run.threadsStored hthreads
        (run.clientsStored hserver) rfl s₄ (ensureDirectory_ok hensure).2 rfl
      exact ⟨s₄.noting e₄, (runOn_bind_of_ok h₁).trans ((runOn_bind_of_ok h₂).trans
        ((runOn_bind_of_ok h₃).trans h₄)), hkept, rfl⟩

/-- **Configuring again from the printed parameters.** A run that was no bare server succeeded
with parameters that all survive printing, in which its number and the text of its working
directory are visible, and with a server that has threads. The parameters are printed and saved
in a file. Then a run on that file alone, with the same layout and the same surroundings, is a
fixpoint exactly if the path of the working directory is text: it succeeds with the same
parameters, number, working directory, threads and clients, takes the file for none of the
shipped ones, and makes and tracks no directory.

In every case it sees to the directory that the text names. Where that is there or can be made,
the run succeeds and all the rest is the same; otherwise it fails on making it. A path that is no
text is that of a scratch directory which the first run made. -/
theorem configure_again_iff (hrun : (configure inv layout surroundings).runOn s = (.ok c, s'))
    (hserver : inv.serverOnly = false)
    (hprintable : ∀ k v, c.parameters.value? k = some v → Printable v)
    (hnumber : (c.parameters.get? numberKey).bind Number.ofText? = some c.number)
    (hworkdir : c.parameters.get? workdirKey = some c.workdir.text)
    (hthreads : c.threads.server ≠ 0) {s₂ : Session}
    (hsaved : SavedAt s'.files s₂.files file c.parameters.text) :
    ((∃ again s₃,
        (configure { parameters := some file } layout surroundings).runOn s₂ = (.ok again, s₃)
          ∧ again.parameters = c.parameters
          ∧ again.number = c.number
          ∧ again.workdir = c.workdir
          ∧ again.threads = c.threads
          ∧ again.clients = c.clients
          ∧ again.isDefault = false
          ∧ s₃.scratch = s₂.scratch
          ∧ s₃.files = s₂.files)
        ↔ IsText c.workdir.bytes)
      ∧ (∃ s₃, (configure { parameters := some file } layout surroundings).runOn s₂ =
            (((ensureDirectory (.ofText c.workdir.text)).runOn s₂).1.map fun _ => c.again file, s₃)
          ∧ s₃.scratch = s₂.scratch
          ∧ s₃.files = ((ensureDirectory (.ofText c.workdir.text)).runOn s₂).2.files)
      ∧ (¬ IsText c.workdir.bytes →
          s.files.makeScratch surroundings.temporary surroundings.scratchNames =
            .ok (c.workdir, s'.files)) := by
  obtain ⟨s₃, heq, hscratch, hfiles⟩ :=
    runOn_configure_again hrun hserver hprintable hnumber hworkdir hthreads hsaved
  refine ⟨⟨?_, fun htext => ?_⟩, ⟨s₃, heq, hscratch, hfiles⟩,
    fun hnot => (isText_workdir_or_made hrun).resolve_left hnot⟩
  · rintro ⟨again, s₄, hagain, -, -, hsame, -⟩
    obtain ⟨houtcome, -⟩ := Prod.mk.inj (heq.symm.trans hagain)
    cases hensure : ((ensureDirectory (.ofText c.workdir.text)).runOn s₂).1 with
    | error e =>
      rw [hensure] at houtcome
      exact absurd houtcome (by simp [Except.map])
    | ok =>
      rw [hensure] at houtcome
      obtain rfl := Except.ok.inj houtcome
      exact Path.ofText_text_iff.1 hsame
  · -- the first run left its directory, or the empty path
    obtain ⟨run⟩ := configure_ok hrun
    have hthere : c.workdir.bytes = [] ∨ s₂.files.isDirectory c.workdir = true :=
      run.workdir_there.imp_right fun hdir => FileSystem.isDirectory_of_keeps hsaved.keeps hdir
    obtain ⟨events, hensure⟩ := answers_ensureDirectory (h := s₂.params) hthere s₂ rfl rfl
    have hsame := Path.ofText_text htext
    rw [hsame, hensure] at heq hfiles
    exact ⟨c.again file, s₃, heq, rfl, rfl, hsame, rfl, rfl, rfl, hscratch, hfiles⟩

/-! ## A run on a shipped file, and again -/

/-- An installation. -/
def sampleLayout : Layout := ⟨.ofText "/data", .ofText "/lib", .ofText "/bin", none⟩

/-- The files of the installation, which ships one parameter file. -/
def sampleFiles : FileSystem :=
  ⟨[([utf8 "data"], .directory), ([utf8 "data", utf8 "factor"], .directory),
      ([utf8 "data", utf8 "factor", utf8 "params.c5"], .file (utf8 "name = c5\n")),
      ([utf8 "bin"], .directory), ([utf8 "bin", utf8 launcherScript], .file [])], []⟩

/-- A run on a number, which takes the shipped file and lays out its clients. -/
def sampleRun : Except RunError Configuration × Session :=
  (configure
    { tokens := ["12345"], workdir := some (.ofText "/w"), serverThreads := some (.count 4) }
    sampleLayout {}).runOn (.ofFiles sampleFiles)

/-- What the run prints. -/
def sampleText : String :=
  "N = 12345\nname = c5\nslaves.basepath = /w/client\nslaves.hostnames = localhost\n" ++
    "slaves.nrclients = 2\nslaves.scriptpath = /bin\ntasks.execpath = /lib\n" ++
    "tasks.threads = 4\ntasks.workdir = /w\ntasks.polyselect.threads = 2\n" ++
    "tasks.sieve.threads = 2\n"

/-- The second run no longer knows the file for a shipped one, and still starts the two
clients that the first one laid out. -/
theorem sampleRun_again :
    ∃ c s' files again s₃, sampleRun = (.ok c, s')
      ∧ s'.files.writeFile (.ofText "/p") (utf8 c.parameters.text) = .ok files
      ∧ (configure { parameters := some (.ofText "/p") } sampleLayout {}).runOn (.ofFiles files) =
          (.ok again, s₃)
      ∧ again.parameters = c.parameters
      ∧ again.workdir = .ofText "/w"
      ∧ again.clients = ⟨2, some (.ofText "/bin")⟩
      ∧ c.isDefault = true ∧ again.isDefault = false := by
  have htest : passes sampleRun (fun c => decide (c.parameters.text = sampleText
      ∧ (∀ e ∈ c.parameters.entries, Printable e.2)
      ∧ (c.parameters.get? numberKey).bind Number.ofText? = some c.number
      ∧ c.parameters.get? workdirKey = some c.workdir.text ∧ c.workdir = .ofText "/w"
      ∧ c.threads.server ≠ 0 ∧ c.clients = ⟨2, some (.ofText "/bin")⟩ ∧ c.isDefault = true)) =
        true := by decide +kernel
  obtain ⟨c, s', hrun, hc⟩ := exists_ok_of_passes htest
  obtain ⟨htext, hprintable, hnumber, hworkdir, hw, hthreads, hclients, hdefault⟩ :=
    of_decide_eq_true hc
  have hput : (sampleRun.2.files.writeFile (.ofText "/p") (utf8 sampleText)).toBool = true := by
    decide +kernel
  cases hfiles : sampleRun.2.files.writeFile (.ofText "/p") (utf8 sampleText) with
  | error e => rw [hfiles] at hput; exact absurd hput (by simp [Except.toBool])
  | ok files =>
    rw [hrun, ← htext] at hfiles
    have hsaved : SavedAt s'.files (Session.ofFiles files).files (.ofText "/p") c.parameters.text :=
      savedAt_writeFile hfiles (by decide +kernel)
    obtain ⟨again, s₃, hagain, hparams, -, hsame, -, hplan, hfile, -⟩ :=
      (configure_again_iff hrun rfl (fun k v hv => hprintable _ (mem_entries_iff.2 hv)) hnumber
        hworkdir hthreads hsaved).1.2 (hw ▸ Path.isText_ofText "/w")
    exact ⟨c, s', files, again, s₃, hrun, hfiles, hagain, hparams, hsame.trans hw,
      hplan.trans hclients, hdefault, hfile⟩

/-! ## A scratch directory whose path is no text -/

/-- The directory for temporary files has a name that is no text. -/
def undecodableTemporary : Surroundings :=
  { temporary := ⟨[Path.slash, 0x74, 0xFF]⟩, scratchNames := ["Ab12Cd"] }

/-- That directory, and a parameter file that names no working directory. -/
def undecodableFiles : FileSystem :=
  ⟨[([[0x74, 0xFF]], .directory), ([utf8 "f"], .file (utf8 "N = 5\n"))], []⟩

/-- A run on that file, which makes a scratch directory. -/
def scratchRun : Except RunError Configuration × Session :=
  (configure { parameters := some (.ofText "/f"), serverThreads := some (.count 4) }
    sampleLayout undecodableTemporary).runOn (.ofFiles undecodableFiles)

/-- What the scratch directory shows as, read as a path. -/
def shownScratch : Path := .ofText "/t\uFFFD/cado.Ab12Cd"

/-- What the run prints: the working directory is spelled with a replacement character. -/
def scratchText : String :=
  "N = 5\ntasks.execpath = /lib\ntasks.threads = 4\ntasks.workdir = /t\uFFFD/cado.Ab12Cd\n" ++
    "tasks.polyselect.threads = 2\ntasks.sieve.threads = 2\n"

/-- The files that the run leaves, with its parameters saved. -/
def scratchFilesSaved : FileSystem :=
  ⟨[([utf8 "p"], .file (utf8 scratchText)), ([[0x74, 0xFF], utf8 "cado.Ab12Cd"], .directory),
      ([[0x74, 0xFF]], .directory), ([utf8 "f"], .file (utf8 "N = 5\n"))], []⟩

/-- All that is asked of the first run holds, and the second one works in another directory,
which it makes. -/
theorem undecodable_scratch_not_found_again :
    ∃ c s' again s₃, scratchRun = (.ok c, s')
      ∧ (∀ k v, c.parameters.value? k = some v → Printable v)
      ∧ (c.parameters.get? numberKey).bind Number.ofText? = some c.number
      ∧ c.parameters.get? workdirKey = some c.workdir.text
      ∧ c.threads.server ≠ 0
      ∧ s'.files.writeFile (.ofText "/p") (utf8 c.parameters.text) = .ok scratchFilesSaved
      ∧ (configure { parameters := some (.ofText "/p") } sampleLayout undecodableTemporary).runOn
          (.ofFiles scratchFilesSaved) = (.ok again, s₃)
      ∧ again.workdir = shownScratch
      ∧ again.workdir ≠ c.workdir
      ∧ scratchFilesSaved.isDirectory again.workdir = false
      ∧ s₃.files.isDirectory again.workdir = true := by
  have htest : passes scratchRun (fun c => decide (c.parameters.text = scratchText
      ∧ (∀ e ∈ c.parameters.entries, Printable e.2)
      ∧ (c.parameters.get? numberKey).bind Number.ofText? = some c.number
      ∧ c.parameters.get? workdirKey = some c.workdir.text
      ∧ .ofText c.workdir.text = shownScratch
      ∧ c.threads.server ≠ 0 ∧ shownScratch ≠ c.workdir)) = true := by
    decide +kernel
  obtain ⟨c, s', hrun, hc⟩ := exists_ok_of_passes htest
  obtain ⟨htext, hentries, hnumber, hworkdir, hshown, hthreads, hother⟩ := of_decide_eq_true hc
  have hprintable : ∀ k v, c.parameters.value? k = some v → Printable v :=
    fun k v hv => hentries _ (mem_entries_iff.2 hv)
  have hput : scratchRun.2.files.writeFile (.ofText "/p") (utf8 scratchText) =
      .ok scratchFilesSaved := by
    decide +kernel
  rw [hrun, ← htext] at hput
  have hsaved : SavedAt s'.files (Session.ofFiles scratchFilesSaved).files (.ofText "/p")
      c.parameters.text :=
    savedAt_writeFile hput (by decide +kernel)
  -- the second run makes the directory that it reads
  obtain ⟨s₃, hagain, -, hfiles⟩ :=
    runOn_configure_again hrun rfl hprintable hnumber hworkdir hthreads hsaved
  have hmakes : passes ((ensureDirectory shownScratch).runOn (.ofFiles scratchFilesSaved))
      (fun _ => true) = true := by
    decide +kernel
  obtain ⟨⟨⟩, made, hensure, -⟩ := exists_ok_of_passes hmakes
  rw [hshown, hensure] at hagain hfiles
  have hmissing : scratchFilesSaved.isDirectory shownScratch = false := by decide +kernel
  have hmade := (ensureDirectory_ok hensure).1.resolve_left (by decide +kernel)
  rw [← hfiles] at hmade
  have hw : (c.again (.ofText "/p")).workdir = shownScratch := hshown
  exact ⟨c, s', c.again (.ofText "/p"), s₃, hrun, hprintable, hnumber, hworkdir, hthreads, hput,
    hagain, hw, hw ▸ hother, hw ▸ hmissing, hw ▸ hmade⟩

end SieveRun
