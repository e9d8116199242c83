import SieveRun.Configuration
import SieveRun.Proofs.Clients
import SieveRun.Proofs.Inputs

/-!
# A successful configuration, stage by stage

A configuration that succeeded is five stages that did, each on the session that the one
before left (`ConfigureRun`). What the whole guarantees is then put together from what each
stage guarantees and from what the later ones leave alone: the last two only write thread
counts and client parameters, so all other reads see what the options left
(`ConfigureRun.value?_eq`), and nothing that was stored is lost (`ConfigureRun.grows`).
-/

namespace SieveRun

open Stage Hierarchy

/-- The parameters that a run starts with. -/
def startingParameters (layout : Layout) : Hierarchy :=
  Hierarchy.empty.set programsKey layout.lib.text

theorem value?_startingParameters_eq (layout : Layout) (k : Key) :
    (startingParameters layout).value? k =
      if k = programsKey then some layout.lib.text else none := by
  rw [startingParameters, value?_set, value?_empty]

theorem value?_startingParameters {layout : Layout} {k : Key} (hk : k ≠ programsKey) :
    (startingParameters layout).value? k = none := by
  rw [value?_startingParameters_eq, if_neg hk]

/-- The stages of a configuration that succeeded, with the sessions between them. -/
structure ConfigureRun (inv : Invocation) (layout : Layout) (surroundings : Surroundings)
    (s : Session) (c : Configuration) (s' : Session) where
  sorted : SortedTokens
  inputs : DecidedInputs
  started : Session
  decided : Session
  merged : Session
  threaded : Session
  sorts : sortTokens s.files inv.namedFlags sortingRules inv.tokens = .ok sorted
  starts : started.params = startingParameters layout
  keepsFiles : started.files = s.files
  decides : (decideInputs sorted (inv.shippedFiles layout) surroundings).runOn started =
    (.ok inputs, decided)
  merges : (mergeOptions sorted.options).runOn decided = (.ok (), merged)
  settlesThreads : (settleThreads inv.serverThreads inv.clientThreads surroundings).runOn merged =
    (.ok c.threads, threaded)
  settlesClients : (settleClients inv.clientRequest inputs c.threads layout).runOn threaded =
    (.ok c.clients, s')
  number : c.number = inputs.number
  parameterFile : c.parameterFile = inputs.parameterFile
  workdir : c.workdir = inputs.workdir
  parameters : c.parameters = s'.params

variable {inv : Invocation} {layout : Layout} {surroundings : Surroundings} {s s' : Session}
  {c : Configuration}

theorem runOn_sortAndNote (flags : NamedFlags) (rules : List SortingRule) (tokens : List String)
    (s : Session) :
    (sortAndNote flags rules tokens).runOn s =
      (sortTokens s.files flags rules tokens,
        s.noting ((Found.ofFlags flags).notes s.files flags rules tokens)) := by
  rw [sortAndNote, runOn_bind_of_ok (runOn_get _)]
  dsimp only
  rw [runOn_bind_of_ok (runOn_noteAll _ _)]
  cases sortTokens s.files flags rules tokens <;> rfl

theorem sortAndNote_ok {flags : NamedFlags} {rules : List SortingRule} {tokens : List String}
    {sorted : SortedTokens}
    (h : (sortAndNote flags rules tokens).runOn s = (.ok sorted, s')) :
    sortTokens s.files flags rules tokens = .ok sorted ∧ ∃ events, s' = s.noting events := by
  rw [runOn_sortAndNote] at h
  obtain ⟨hsorted, rfl⟩ := Prod.mk.inj h
  exact ⟨hsorted, _, rfl⟩

theorem answers_sortAndNote {h : Hierarchy} {files : FileSystem} {flags : NamedFlags}
    {rules : List SortingRule} {tokens : List String} {sorted : SortedTokens}
    (hs : sortTokens files flags rules tokens = .ok sorted) :
    Answers (sortAndNote flags rules tokens) h files sorted := by
  intro s _ hfiles
  subst hfiles
  exact ⟨_, by rw [runOn_sortAndNote, hs]⟩

/-- What is noted of tokens is which rule took them. -/
theorem Found.notes_tellNoWrite (found : Found) (files : FileSystem) (flags : NamedFlags)
    (rules : List SortingRule) (tokens : List String) :
    ∀ event ∈ found.notes files flags rules tokens, event.tellsWrite = false := by
  induction tokens generalizing found with
  | nil => exact List.forall_mem_nil _
  | cons token rest ih =>
    rw [Found.notes]
    split
    · exact List.forall_mem_nil _
    · refine List.forall_mem_cons.2 ⟨rfl, ?_⟩
      split
      · exact List.forall_mem_nil _
      · exact ih _

theorem moves_sortAndNote {R : Session → Session → Prop} [WriteRelation R] (flags : NamedFlags)
    (rules : List SortingRule) (tokens : List String) :
    Moves R (sortAndNote flags rules tokens) := by
  intro s
  rw [runOn_sortAndNote]
  exact WriteRelation.noting s (Found.notes_tellNoWrite _ _ _ _ _)

theorem startParameters_ok {traced : Bool}
    (h : (startParameters layout traced).runOn s = (.ok (), s')) :
    s'.params = startingParameters layout ∧ s'.files = s.files ∧ s'.scratch = s.scratch := by
  obtain ⟨-, rfl⟩ := Prod.mk.inj h
  exact ⟨rfl, rfl, rfl⟩

theorem configure_ok (h : (configure inv layout surroundings).runOn s = (.ok c, s')) :
    Nonempty (ConfigureRun inv layout surroundings s c s') := by
  obtain ⟨sorted, s₁, hsort, h⟩ := bind_ok h
  obtain ⟨⟨⟩, started, hstart, h⟩ := bind_ok h
  obtain ⟨inputs, decided, hdecide, h⟩ := bind_ok h
  obtain ⟨⟨⟩, merged, hmerge, h⟩ := bind_ok h
  obtain ⟨threads, threaded, hthreads, h⟩ := bind_ok h
  obtain ⟨clients, s₂, hclients, h⟩ := bind_ok h
  rw [runOn_bind_of_ok (runOn_get _)] at h
  obtain ⟨rfl, rfl⟩ := pure_ok h
  obtain ⟨hsorted, events, rfl⟩ := sortAndNote_ok hsort
  obtain ⟨hparams, hfiles, -⟩ := startParameters_ok hstart
  exact ⟨⟨sorted, inputs, started, decided, merged, threaded, hsorted, hparams,
    hfiles, hdecide, hmerge, hthreads, hclients, rfl, rfl, rfl, rfl⟩⟩

namespace ConfigureRun

variable (run : ConfigureRun inv layout surroundings s c s')

/-- The last two stages write thread counts and client parameters alone. -/
theorem value?_eq {k : Key} (ht : ¬ ThreadKey k) (hc : ¬ ClientKey k) :
    c.parameters.value? k = run.merged.params.value? k := by
  rw [run.parameters, ((moves_writes_settleClients _).step run.settlesClients).params k hc,
    ((moves_writes_settleThreads _ _).step run.settlesThreads).params k ht]

/-- No stage after the decision about the inputs touches the files. -/
theorem files_eq : s'.files = run.decided.files := by
  obtain ⟨as, -, -, hmerged⟩ := mergeOptions_ok run.merges
  rw [((moves_writes_settleClients _).step run.settlesClients).files,
    ((moves_writes_settleThreads _ _).step run.settlesThreads).files, hmerged]

/-- Unless the clients are forgotten, nothing that was stored is lost. -/
theorem grows (hserver : inv.serverOnly = false) : Grows run.started s' := by
  refine StepRelation.trans (moves_grows_decideInputs.step run.decides) ?_
  refine StepRelation.trans ((moves_grows_mergeOptions _).step run.merges) ?_
  refine StepRelation.trans ((moves_grows_settleThreads _ _).step run.settlesThreads) ?_
  exact (moves_grows_settleClients hserver).step run.settlesClients

end ConfigureRun

end SieveRun
