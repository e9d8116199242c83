import SieveRun.Proofs.Interference
import SieveRun.Proofs.Namespaces

/-!
# The journal as a write log

Where parameters are traced, the journal tells of every write: a store is noted with its key and
its value, and a bare server notes each key it forgets. A list of events can be *replayed*: the
stores in it are done again, the keys that were ignored are removed, and everything else is passed
over. No write is missing from the journal and none is in it that did not happen, so replaying what
a stage noted leads from the parameters before it to the parameters after it (`Logs`).

That composes, and only two primitives write: a store, and the forgetting of the client keys. Every
other stage is made of these. A run starts from nothing, so replaying its journal on nothing gives
its parameters.
-/

namespace SieveRun

open Stage Hierarchy

variable {s s' : Session} {k : Key} {events more : List Event}

/-! ## Replaying a journal -/

namespace Hierarchy

/-- Without the value stored at exactly this key. -/
def remove (h : Hierarchy) (k : Key) : Hierarchy :=
  ⟨h.entries.filter fun e => e.1 ≠ k, h.increasing.filter _⟩

/-- With the write done that an event tells of. -/
def redo (h : Hierarchy) : Event → Hierarchy
  | .stored key value => h.set (.ofText key) value
  | .ignoredForServer key => h.remove (.ofText key)
  | _ => h

/-- With all the writes done that the events tell of, in order. -/
def replay (h : Hierarchy) (events : List Event) : Hierarchy := events.foldl redo h

variable {h : Hierarchy}

theorem value?_remove (h : Hierarchy) (k k' : Key) :
    (h.remove k).value? k' = if k' = k then none else h.value? k' := by
  refine Option.ext fun v => ?_
  rw [← mem_entries_iff]
  by_cases hk : k' = k <;> simp [remove, hk, ← mem_entries_iff]

theorem replay_append (h : Hierarchy) (events more : List Event) :
    h.replay (events ++ more) = (h.replay events).replay more := List.foldl_append

theorem redo_of_tellsWrite_eq_false {event : Event} (hquiet : event.tellsWrite = false) :
    h.redo event = h := by
  cases event with
  | stored key value => exact absurd hquiet (by simp [Event.tellsWrite])
  | ignoredForServer key => exact absurd hquiet (by simp [Event.tellsWrite])
  | _ => rfl

theorem replay_of_tellNoWrite (hquiet : ∀ event ∈ events, event.tellsWrite = false) :
    h.replay events = h := by
  induction events with
  | nil => rfl
  | cons event events ih =>
    obtain ⟨hevent, hrest⟩ := List.forall_mem_cons.1 hquiet
    rw [replay, List.foldl_cons, redo_of_tellsWrite_eq_false hevent]
    exact ih hrest

theorem value?_replay_ignored {keys : List Key} (hkeys : ∀ key ∈ keys, key.isWellFormed = true)
    (h : Hierarchy) (k : Key) :
    (h.replay (keys.map fun key => .ignoredForServer key.text)).value? k =
      if k ∈ keys then none else h.value? k := by
  induction keys generalizing h with
  | nil => simp [replay]
  | cons key keys ih =>
    obtain ⟨hkey, hrest⟩ := List.forall_mem_cons.1 hkeys
    show ((h.remove (.ofText key.text)).replay _).value? k = _
    rw [ih hrest, value?_remove, Key.ofText_text hkey]
    by_cases hk : k = key <;> simp [hk]

/-- Ignoring the keys of a namespace one by one removes the namespace. -/
theorem replay_ignored_under (hw : h.WellFormed) (space : List String) :
    h.replay (((h.under space).map Prod.fst).map fun key => .ignoredForServer key.text) =
      h.removeUnder space := by
  have hkeys : ∀ key ∈ (h.under space).map Prod.fst, key.isWellFormed = true := by
    intro key hkey
    obtain ⟨v, hv⟩ := Option.isSome_iff_exists.1 (mem_keys_under_iff.1 hkey).1
    exact hw key v hv
  refine eq_of_value? fun k => ?_
  rw [value?_replay_ignored hkeys, value?_removeUnder]
  -- a key of the namespace that is not ignored was not stored
  by_cases hunder : k.isUnder space = true
  · cases hv : h.value? k <;> simp [mem_keys_under_iff, hunder, hv]
  · rw [if_neg fun hmem => hunder (mem_keys_under_iff.1 hmem).2, if_neg hunder]

end Hierarchy

/-! ## What a stage notes of its writes -/

/-- From a session that traces its parameters, the journal went on with events that replay the
parameters before to the parameters after. -/
def Logs (s s' : Session) : Prop :=
  s.traced = true → s.params.WellFormed →
    s'.traced = true ∧ s'.params.WellFormed ∧
      ∃ events, s'.journal = s.journal ++ events ∧ s.params.replay events = s'.params

/-- A session that is traced notes everything. -/
theorem Session.noting_journal_of_traced (ht : s.traced = true) (events : List Event) :
    (s.noting events).journal = s.journal ++ events := by
  have hwants : ∀ event ∈ events, s.wants event = true := fun event _ => by simp [wants, ht]
  rw [noting, List.filter_eq_self.2 hwants]

instance : WriteRelation Logs where
  trans h₁ h₂ ht hw := by
    obtain ⟨ht₂, hw₂, events, hjournal, hreplay⟩ := h₁ ht hw
    obtain ⟨ht₃, hw₃, more, hjournal', hreplay'⟩ := h₂ ht₂ hw₂
    refine ⟨ht₃, hw₃, events ++ more, ?_, ?_⟩
    · rw [hjournal', hjournal, List.append_assoc]
    · rw [replay_append, hreplay, hreplay']
  noting s events hquiet ht hw :=
    ⟨ht, hw, events, s.noting_journal_of_traced ht events, replay_of_tellNoWrite hquiet⟩

theorem moves_logs_store (hk : k.isWellFormed = true) (v : String) : Moves Logs (store k v) := by
  intro s ht hw
  rw [runOn_store]
  refine ⟨ht, hw.set hk v, [.stored k.text v], Session.noting_journal_of_traced ht _, ?_⟩
  show s.params.set (.ofText k.text) v = s.params.set k v
  rw [Key.ofText_text hk]

/-- Files and scratch directories are no parameters. -/
theorem logs_of_eq (hparams : s'.params = s.params) (hjournal : s'.journal = s.journal)
    (htraced : s'.traced = s.traced) : Logs s s' := by
  intro ht hw
  refine ⟨htraced.trans ht, hparams ▸ hw, [], ?_, hparams.symm⟩
  rw [hjournal, List.append_nil]

theorem moves_logs_decideInputs (sorted : SortedTokens) (defaults : ShippedFiles)
    (surroundings : Surroundings) : Moves Logs (decideInputs sorted defaults surroundings) :=
  moves_decideInputs (fun _ v hk => moves_logs_store hk v) (fun _ _ => logs_of_eq rfl rfl rfl)
    fun _ _ => logs_of_eq rfl rfl rfl

theorem moves_logs_dropClients : Moves Logs dropClients := by
  intro s ht hw
  refine ⟨ht, hw.removeUnder clientSpace, _, Session.noting_journal_of_traced ht _, ?_⟩
  exact replay_ignored_under hw clientSpace

theorem moves_logs_settleClients (request : ClientRequest) (inputs : DecidedInputs)
    (threads : ThreadCounts) (layout : Layout) :
    Moves Logs (settleClients request inputs threads layout) := by
  by_cases hrun : request.serverOnly = true
  · rw [settleClients, if_pos hrun]
    exact moves_logs_dropClients.bind fun _ => moves_pure _
  · exact moves_settleClients (fun _ v _ hk => moves_logs_store hk v) (by simpa using hrun)

/-! ## What a run notes -/

/-- **The journal of a verbose run is a complete write log.** Replayed on nothing, what a run that
traces its parameters added to the journal gives exactly the parameters it ended with. -/
theorem verbose_run_logs_writes {inv : Invocation} {layout : Layout} {surroundings : Surroundings}
    {c : Configuration} (hverbose : inv.verbose = true)
    (h : (configure inv layout surroundings).runOn s = (.ok c, s')) :
    ∃ events, s'.journal = s.journal ++ events ∧ Hierarchy.empty.replay events = c.parameters := by
  obtain ⟨run⟩ := configure_ok h
  obtain ⟨sorted, sortedOn, hsort, h⟩ := bind_ok h
  obtain ⟨⟨⟩, started, hstart, h⟩ := bind_ok h
  obtain ⟨⟨⟩, cleared, hclear, hstart⟩ := bind_ok hstart
  -- everything after the parameters were cleared is made of logged writes
  have hrest : Logs started s' := by
    refine Moves.step ?_ h
    refine (moves_logs_decideInputs _ _ _).bind fun inputs => ?_
    refine (moves_mergeOptions (fun _ v hk => moves_logs_store hk v) _).bind fun _ => ?_
    refine (moves_settleThreads (fun _ v _ hk => moves_logs_store hk v) _ _).bind fun threads => ?_
    exact (moves_logs_settleClients _ _ _ _).bind fun _ => moves_get.bind fun _ => moves_pure _
  have hlogs : Logs cleared s' :=
    WriteRelation.trans ((moves_logs_store (by decide) _).step hstart) hrest
  obtain ⟨-, rfl⟩ := Prod.mk.inj hclear
  obtain ⟨-, -, events, hjournal, hreplay⟩ := hlogs hverbose wellFormed_empty
  -- what was noted of the tokens before that is passed over
  rw [runOn_sortAndNote] at hsort
  obtain ⟨-, rfl⟩ := Prod.mk.inj hsort
  have hquiet := Found.notes_tellNoWrite (.ofFlags inv.namedFlags) s.files inv.namedFlags
    sortingRules inv.tokens
  refine ⟨_, hjournal.trans (List.append_assoc _ _ _), ?_⟩
  rw [replay_append, replay_of_tellNoWrite fun event he => hquiet event (List.mem_of_mem_filter he),
    run.parameters]
  exact hreplay

/-- A bare server that is told about clients all the same. -/
def verboseServer : Except RunError Configuration × Session :=
  (configure { namedInputs with
      tokens := ["1234", "slaves.hostnames=a,b"], verbose := true, serverOnly := true }
    ⟨.ofText "/data", .ofText "/lib", .ofText "/bin", none⟩ {}).runOn
      (sessionOn "slaves.nrclients = 3\nname = c5\nname = c10\n")

/-- The journal stores one name over the other, and stores the clients' keys and removes them. -/
theorem verboseServer_logs :
    ∃ c s', verboseServer = (.ok c, s')
      ∧ [Event.stored "slaves.nrclients" "3", .stored "name" "c5", .stored "name" "c10",
          .stored "slaves.hostnames" "a,b", .ignoredForServer "slaves.hostnames",
          .ignoredForServer "slaves.nrclients"].Sublist s'.journal
      ∧ Hierarchy.empty.replay s'.journal = c.parameters
      ∧ c.parameters.value? ⟨[], "name"⟩ = some "c10"
      ∧ c.parameters.value? hostsKey = none := by
  have htest : passes verboseServer (fun c =>
      decide (c.parameters.value? ⟨[], "name"⟩ = some "c10"
        ∧ c.parameters.value? hostsKey = none)) = true := by decide +kernel
  have hjournal : [Event.stored "slaves.nrclients" "3", .stored "name" "c5", .stored "name" "c10",
      .stored "slaves.hostnames" "a,b", .ignoredForServer "slaves.hostnames",
      .ignoredForServer "slaves.nrclients"].isSublist verboseServer.2.journal = true := by
    decide +kernel
  obtain ⟨c, s', hrun, hc⟩ := exists_ok_of_passes htest
  obtain ⟨hname, hhosts⟩ := of_decide_eq_true hc
  obtain ⟨events, hevents, hreplay⟩ := verbose_run_logs_writes rfl hrun
  rw [hrun] at hjournal
  refine ⟨c, s', hrun, List.isSublist_iff_sublist.1 hjournal, ?_, hname, hhosts⟩
  rw [hevents]
  exact hreplay

end SieveRun
