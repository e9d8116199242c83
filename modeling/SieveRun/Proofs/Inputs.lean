import SieveRun.Input.Decided
import SieveRun.Proofs.Changes
import SieveRun.Proofs.Files
import SieveRun.Proofs.Inheritance
import SieveRun.Proofs.Spelling

/-!
# What the decision about the inputs leaves behind

The three decisions store what they decide, but not always in the same place. The number is
stored at its own key, or was there already. The working directory is visible in the end
(`WorkdirDecided.visible`), but it may be inherited from a `workdir` outside the tasks, and
then a later write there takes it away again; `WorkdirDecided.inherited` says when.
-/

namespace SieveRun

open Stage Hierarchy

variable {s s' : Session} {sorted : SortedTokens} {defaults : ShippedFiles}
  {surroundings : Surroundings}

/-! ## Reads of the three keys -/

theorem get?_numberKey (h : Hierarchy) : h.get? numberKey = h.value? numberKey :=
  get?_root h "N"

/-- The number as a task of the run reads it. -/
theorem get?_taskNumberKey (h : Hierarchy) :
    h.get? taskNumberKey = (h.value? taskNumberKey).or (h.value? numberKey) := by
  rw [← get?_numberKey]
  exact get?_concat h [] "tasks" "N"

/-- Where a working directory is inherited from. -/
def outerWorkdirKey : Key := ⟨[], "workdir"⟩

theorem get?_workdirKey (h : Hierarchy) :
    h.get? workdirKey = (h.value? workdirKey).or (h.value? outerWorkdirKey) := by
  have houter : h.get? outerWorkdirKey = h.value? outerWorkdirKey := get?_root h "workdir"
  rw [← houter]
  exact get?_concat h [] "tasks" "workdir"

/-! ## The number -/

/-- The file `file` with the assignments `as` was read, and the number `n` that was decided
is stored. -/
structure NumberDecided (s s' : Session) (n : Number) (file : Path)
    (as : List (Key × String)) : Prop where
  read : assignmentsIn s.files file = .ok as
  notZero : n.isZero = false
  stored : (s'.params.value? numberKey).bind Number.ofText? = some n
  others : ∀ k, k ≠ numberKey → s'.params.value? k = (s.params.setAll as).value? k
  files : s'.files = s.files

/-- The search for a shipped file stores nothing, and ends with the first that is there. -/
theorem ShippedFiles.runOn_find (n : Number) (s : Session) :
    (defaults.find n).runOn s =
      match defaults.firstFile? s.files n with
      | some file => (.ok file, s.noting
          [.lookingFor ((candidates n defaults.goal defaults.degree).headD "") defaults.directory,
            .usingDefaultFile file])
      | none => (.error (.noDefaultFile (candidates n defaults.goal defaults.degree)), s.noting
          [.lookingFor ((candidates n defaults.goal defaults.degree).headD "")
            defaults.directory]) := by
  rw [find, runOn_bind_of_ok (runOn_note _ s), runOn_bind_of_ok (runOn_get _),
    Session.noting_files]
  cases defaults.firstFile? s.files n with
  | none => rfl
  | some file =>
    dsimp only
    rw [runOn_bind_of_ok (runOn_note _ _), runOn_pure, Session.noting_noting]
    rfl

theorem fileFor_ok {named : Option Path} {n : Number} {r : Path × Bool}
    (h : (fileFor named defaults n).runOn s = (.ok r, s')) : ∃ events, s' = s.noting events := by
  cases named with
  | some file =>
    obtain ⟨-, rfl⟩ := pure_ok h
    exact ⟨[], (Session.noting_nil s).symm⟩
  | none =>
    obtain ⟨file, s₁, hfind, h⟩ := bind_ok h
    obtain ⟨-, rfl⟩ := pure_ok h
    rw [ShippedFiles.runOn_find] at hfind
    split at hfind
    · obtain ⟨-, rfl⟩ := Prod.mk.inj hfind
      exact ⟨_, rfl⟩
    · exact absurd hfind (by simp)

theorem agreeWithFile_ok {n : Number} {file : Path}
    (h : (agreeWithFile n file).runOn s = (.ok (), s')) :
    (∀ v, s.params.get? taskNumberKey = some v → Number.ofText? v = some n)
      ∧ ∃ events, s' = s.noting events := by
  rw [agreeWithFile, runOn_bind_of_ok (runOn_read? _ _)] at h
  split at h
  · rename_i hnone
    obtain ⟨-, rfl⟩ := pure_ok h
    exact ⟨fun v hv => absurd (hnone.symm.trans hv) (by simp), _, rfl⟩
  · rename_i stored hstored
    split at h
    · rename_i hsame
      obtain ⟨-, rfl⟩ := pure_ok h
      exact ⟨fun v hv => Option.some.inj (hstored.symm.trans hv) ▸ hsame, _, rfl⟩
    · exact absurd h (by simp)

theorem withNumber_ok {n : Number} {named : Option Path} {r : Number × Path × Bool}
    (hn : n.isZero = false) (h : (withNumber n named defaults).runOn s = (.ok r, s')) :
    ∃ as, NumberDecided s s' r.1 r.2.1 as := by
  obtain ⟨⟨file, isDefault⟩, s₁, hfile, h⟩ := bind_ok h
  obtain ⟨⟨⟩, s₂, hmerge, h⟩ := bind_ok h
  obtain ⟨⟨⟩, s₃, hagree, h⟩ := bind_ok h
  obtain ⟨before, rfl⟩ := fileFor_ok hfile
  obtain ⟨as, merged, has, rfl⟩ := mergeFile_ok hmerge
  obtain ⟨-, read, rfl⟩ := agreeWithFile_ok hagree
  rw [runOn_bind_of_ok (runOn_store _ _ _)] at h
  obtain ⟨rfl, rfl⟩ := pure_ok h
  refine ⟨as, has, hn, ?_, fun k hk => value?_set_ne _ _ hk, rfl⟩
  simp [Number.ofText?_text]

/-- Without a given number, the file is merged and its number is the one that a read sees. -/
theorem numberFromFile_ok {file : Path} {r : Number × Path × Bool}
    (h : (numberFromFile file).runOn s = (.ok r, s')) :
    ∃ as events, assignmentsIn s.files file = .ok as
      ∧ ((s.params.setAll as).value? numberKey).bind Number.ofText? = some r.1
      ∧ r.1.isZero = false ∧ r.2 = (file, false)
      ∧ s' = (s.withParams (s.params.setAll as)).noting events := by
  obtain ⟨⟨⟩, s₁, hmerge, h⟩ := bind_ok h
  obtain ⟨as, merged, has, rfl⟩ := mergeFile_ok hmerge
  obtain ⟨read, s₂, hread, h⟩ := bind_ok h
  obtain ⟨hvalue, -, rfl⟩ := readAs?_ok hread
  split at h
  · rename_i n hn
    obtain ⟨rfl, rfl⟩ := pure_ok h
    obtain ⟨rfl, hzero⟩ := Option.filter_eq_some_iff.1 hn
    rw [get?_numberKey] at hvalue
    exact ⟨as, _, has, hvalue.symm, by simpa using hzero, rfl, Session.noting_noting _ _ _⟩
  · exact absurd h (by simp)

/-- And the other way round: a number that a read of the merged file sees is taken. -/
theorem runOn_numberFromFile {file : Path} {n : Number} {as : List (Key × String)}
    (hread : assignmentsIn s.files file = .ok as)
    (hn : ((s.params.setAll as).value? numberKey).bind Number.ofText? = some n)
    (hzero : n.isZero = false) : ∃ events,
      (numberFromFile file).runOn s =
        (.ok (n, file, false), (s.withParams (s.params.setAll as)).noting events) := by
  rw [← get?_numberKey] at hn
  have hanswers : Answers (readNumber? numberKey) (s.params.setAll as) s.files (some n) := by
    rw [← hn]
    refine answers_readAs? fun v hv => ?_
    rw [hv, Option.bind_some] at hn
    rw [hn]
    rfl
  obtain ⟨events, hevents⟩ := hanswers
    ((s.withParams (s.params.setAll as)).noting (.readingFile file :: storeNotes as)) rfl rfl
  refine ⟨.readingFile file :: storeNotes as ++ events, ?_⟩
  rw [numberFromFile, runOn_bind_of_ok (runOn_mergeFile_of_ok hread), runOn_bind_of_ok hevents,
    Option.filter_some, hzero, Session.noting_noting]
  rfl

theorem decideNumber_ok {r : Number × Path × Bool}
    (h : (decideNumber sorted defaults).runOn s = (.ok r, s')) :
    ∃ as, NumberDecided s s' r.1 r.2.1 as := by
  unfold decideNumber at h
  split at h
  · rename_i hn
    have hzero := (Option.filter_eq_some_iff.1 hn).2
    exact withNumber_ok (by simpa using hzero) h
  · obtain ⟨as, events, has, hvalue, hzero, hfile, rfl⟩ := numberFromFile_ok h
    rw [hfile]
    exact ⟨as, has, hzero, hvalue, fun _ _ => rfl, rfl⟩
  · exact absurd h (by simp)

/-! ## The working directory -/

/-- The working directory `w` was decided, and is there. -/
structure WorkdirDecided (given : Option Path) (s s' : Session) (w : Path) : Prop where
  visible : s'.params.get? workdirKey = some w.text
  /-- It is stored at its own key, unless it was only seen from the outside. -/
  inherited : s'.params.value? workdirKey = none ↔
    given = none ∧ s.params.value? workdirKey = none ∧ (s.params.value? outerWorkdirKey).isSome
  others : ∀ k, k ≠ workdirKey → s'.params.value? k = s.params.value? k
  there : w.bytes = [] ∨ s'.files.isDirectory w = true

theorem runOn_ensureDirectory_of_there {w : Path} (h : s.files.isDirectory w = true) :
    (ensureDirectory w).runOn s = (.ok (), s) := by
  rw [ensureDirectory, runOn_bind_of_ok (runOn_get _), if_pos h, runOn_pure]

/-- A missing directory is made; what was made before a failure stays. -/
theorem runOn_ensureDirectory_of_missing {w : Path} (h : ¬ s.files.isDirectory w = true) :
    (ensureDirectory w).runOn s =
      match s.files.makeDirectories w with
      | (files, .error cause) =>
        (.error (.file .makeDirectory w cause), { s with files := files })
      | (files, .ok ()) => (.ok (), Session.noting { s with files := files } [.directoryMade w]) := by
  rw [ensureDirectory, runOn_bind_of_ok (runOn_get _), if_neg h, runOn_bind_of_ok (runOn_get _)]
  cases s.files.makeDirectories w with
  | mk files outcome => cases outcome <;> rfl

theorem ensureDirectory_ok {w : Path} (h : (ensureDirectory w).runOn s = (.ok (), s')) :
    (w.bytes = [] ∨ s'.files.isDirectory w = true) ∧ s'.params = s.params := by
  by_cases hdir : s.files.isDirectory w = true
  · rw [runOn_ensureDirectory_of_there hdir] at h
    obtain ⟨-, rfl⟩ := Prod.mk.inj h
    exact ⟨.inr hdir, rfl⟩
  · rw [runOn_ensureDirectory_of_missing hdir] at h
    split at h
    · exact absurd h (by simp)
    · rename_i files hmade
      obtain ⟨-, rfl⟩ := Prod.mk.inj h
      exact ⟨FileSystem.isDirectory_makeDirectories hmade, rfl⟩

theorem makeScratchWorkdir_ok {w : Path}
    (h : (makeScratchWorkdir surroundings).runOn s = (.ok w, s')) :
    s'.params = s.params.set workdirKey w.text := by
  rw [makeScratchWorkdir, runOn_bind_of_ok (runOn_get _)] at h
  split at h
  · exact absurd h (by simp)
  · obtain ⟨hw, rfl⟩ := Prod.mk.inj h
    obtain rfl := Except.ok.inj hw
    rfl

/-- A directory that was given is stored first; then the decision is as without one. -/
theorem decideWorkdir_some (directory : Path) :
    decideWorkdir (some directory) surroundings =
      (store workdirKey directory.text >>= fun _ => decideWorkdir none surroundings) := rfl

theorem decideWorkdir_none_ok {w : Path}
    (h : (decideWorkdir none surroundings).runOn s = (.ok w, s')) :
    WorkdirDecided none s s' w := by
  unfold decideWorkdir at h
  obtain ⟨read, s₁, hread, h⟩ := bind_ok h
  rw [runOn_read?] at hread
  obtain ⟨hvalue, rfl⟩ := Prod.mk.inj hread
  have hget := Except.ok.inj hvalue
  cases read with
  | some t =>
    -- a directory was seen, and what is stored stays as it was
    obtain ⟨directory, s₁, hdirectory, h⟩ := bind_ok h
    obtain ⟨rfl, rfl⟩ := pure_ok hdirectory
    obtain ⟨⟨⟩, s₂, hensure, h⟩ := bind_ok h
    obtain ⟨rfl, rfl⟩ := pure_ok h
    obtain ⟨hthere, hparams⟩ := ensureDirectory_ok hensure
    rw [Session.noting_params] at hparams
    refine ⟨?_, ?_, fun k _ => by rw [hparams], hthere⟩
    · rw [hparams, hget, Path.text_ofText]
    · rw [hparams]
      rw [get?_workdirKey] at hget
      cases hv : s.params.value? workdirKey with
      | some v => simp
      | none =>
        rw [hv] at hget
        have houter : s.params.value? outerWorkdirKey = some t := hget
        simp [houter]
  | none =>
    -- none was seen, so a scratch directory is made and stored
    obtain ⟨directory, s₂, hscratch, h⟩ := bind_ok h
    obtain ⟨⟨⟩, s₃, hensure, h⟩ := bind_ok h
    obtain ⟨rfl, rfl⟩ := pure_ok h
    obtain ⟨hthere, hparams⟩ := ensureDirectory_ok hensure
    have hset := makeScratchWorkdir_ok hscratch
    rw [Session.noting_params] at hset
    rw [hset] at hparams
    refine ⟨?_, ?_, fun k hk => ?_, hthere⟩
    · rw [hparams]
      exact get?_of_value? (value?_set_self _ _ _)
    · rw [hparams, value?_set_self]
      rw [get?_workdirKey, Option.or_eq_none_iff] at hget
      simp [hget.2]
    · rw [hparams, value?_set_ne _ _ hk]

theorem decideWorkdir_ok {given : Option Path} {w : Path}
    (h : (decideWorkdir given surroundings).runOn s = (.ok w, s')) :
    WorkdirDecided given s s' w := by
  cases given with
  | none => exact decideWorkdir_none_ok h
  | some directory =>
    rw [decideWorkdir_some, runOn_bind_of_ok (runOn_store _ _ _)] at h
    have hd := decideWorkdir_none_ok h
    refine ⟨hd.visible, ?_, fun k hk => ?_, hd.there⟩
    · rw [hd.inherited]
      simp
    · rw [hd.others k hk]
      exact value?_set_ne _ _ hk

/-! ## Both -/

theorem decideInputs_ok {inputs : DecidedInputs}
    (h : (decideInputs sorted defaults surroundings).runOn s = (.ok inputs, s')) :
    ∃ as s₁, NumberDecided s s₁ inputs.number inputs.parameterFile as
      ∧ WorkdirDecided sorted.workdir s₁ s' inputs.workdir := by
  obtain ⟨⟨n, file, isDefault⟩, s₁, hnumber, h⟩ := bind_ok h
  obtain ⟨w, s₂, hworkdir, h⟩ := bind_ok h
  obtain ⟨rfl, rfl⟩ := pure_ok h
  obtain ⟨as, hn⟩ := decideNumber_ok hnumber
  exact ⟨as, s₁, hn, decideWorkdir_ok hworkdir⟩

section
variable {R : Session → Session → Prop} [WriteRelation R]

theorem moves_fileFor (named : Option Path) (n : Number) : Moves R (fileFor named defaults n) := by
  cases named with
  | some file => exact moves_pure _
  | none =>
    refine Moves.bind ?_ fun _ => moves_pure _
    refine (moves_note rfl).bind fun _ => moves_get.bind fun s => ?_
    split
    · exact (moves_note rfl).bind fun _ => moves_pure _
    · exact moves_throw _

/-- Deciding the number stores at well-formed keys alone. -/
theorem moves_decideNumber (h : ∀ k v, k.isWellFormed = true → Moves R (store k v)) :
    Moves R (decideNumber sorted defaults) := by
  unfold decideNumber
  split
  · refine (moves_fileFor _ _).bind fun _ => (moves_mergeFile h _).bind fun _ => ?_
    refine Moves.bind ?_ fun _ => (h numberKey _ (by decide)).bind fun _ => moves_pure _
    refine (moves_read? _).bind fun stored => ?_
    split
    · exact moves_pure _
    · split
      · exact moves_pure _
      · exact moves_throw _
  · refine (moves_mergeFile h _).bind fun _ => (moves_readAs? _ _).bind fun _ => ?_
    split
    · exact moves_pure _
    · exact moves_throw _
  · exact moves_throw _

section
variable (hstore : ∀ k v, k.isWellFormed = true → Moves R (store k v))
  (hfiles : ∀ files, Moves R (modify fun s => { s with files := files }))
  (htrack : ∀ p, Moves R (track p))

include hfiles in
theorem moves_ensureDirectory (w : Path) : Moves R (ensureDirectory w) := by
  refine moves_get.bind fun s => ?_
  split
  · exact moves_pure _
  · refine moves_get.bind fun s => ?_
    cases s.files.makeDirectories w with
    | mk files outcome =>
      refine (hfiles files).bind fun _ => ?_
      cases outcome with
      | error cause => exact moves_throw _
      | ok => exact moves_note rfl

include hstore hfiles htrack

theorem moves_makeScratchWorkdir : Moves R (makeScratchWorkdir surroundings) := by
  have hstays : ∀ directory, Moves R (noteIf surroundings.debugging (.scratchStays directory)) := by
    intro directory
    unfold noteIf
    split
    · exact moves_note rfl
    · exact moves_noteAll (List.forall_mem_nil _)
  refine moves_get.bind fun s => ?_
  split
  · exact moves_throw _
  · refine (hfiles _).bind fun _ => (moves_note rfl).bind fun _ => ?_
    refine (hstore _ _ (by decide)).bind fun _ => (htrack _).bind fun _ => ?_
    exact (hstays _).bind fun _ => moves_pure _

theorem moves_decideWorkdir (given : Option Path) :
    Moves R (decideWorkdir given surroundings) := by
  have hensure : ∀ w, Moves R (ensureDirectory w >>= fun _ => pure w) := fun w =>
    (moves_ensureDirectory hfiles w).bind fun _ => moves_pure _
  have hnone : Moves R (decideWorkdir none surroundings) := by
    refine (moves_read? _).bind fun read => ?_
    cases read with
    | some t => exact (moves_pure _).bind hensure
    | none => exact (moves_makeScratchWorkdir hstore hfiles htrack).bind hensure
  cases given with
  | none => exact hnone
  | some directory => exact (hstore _ _ (by decide)).bind fun _ => hnone

theorem moves_decideInputs : Moves R (decideInputs sorted defaults surroundings) :=
  (moves_decideNumber hstore).bind fun _ =>
    (moves_decideWorkdir hstore hfiles htrack _).bind fun _ => moves_pure _

end

end

theorem moves_writes_decideNumber : Moves (Writes anyKey) (decideNumber sorted defaults) :=
  moves_decideNumber fun _ v _ => moves_writes_store trivial v

theorem moves_grows_decideInputs : Moves Grows (decideInputs sorted defaults surroundings) :=
  moves_decideInputs (fun _ v hk => moves_grows_store hk v) moves_grows_files
    fun _ _ => Grows.of_params rfl

end SieveRun
