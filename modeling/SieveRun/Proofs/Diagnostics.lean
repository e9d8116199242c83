import SieveRun.Proofs.Interference

/-!
# Diagnostics are only watched

Three switches of a command line and one of the surroundings ask for more to be told, or for it
to be told otherwise: the level of the screen, the colors, the traces of the parameters and
debugging. Two of them are looked at while a configuration is made. The traces decide at every
store and at every read that another key answers whether an event is noted, and debugging decides
the same of one event after a scratch directory was made.

So the two runs are compared that differ in these switches. Every stage of the one is alike to
the same stage of the other, with no parameter set apart (`noKey`): what they end with, and the
parameters, the files and the scratch directories they leave, are the same
(`diagnostics_ignored`).
-/

namespace SieveRun

open Stage Hierarchy

variable {may : Key → Prop} {s t : Session}

/-- Sessions that are told apart at no key hold the same parameters. -/
theorem SameBut.params_eq (h : SameBut noKey s t) : t.params = s.params :=
  eq_of_value? fun k => h.params k id

theorem ignores_sortAndNote (flags : NamedFlags) (rules : List SortingRule)
    (tokens : List String) : Ignores may (sortAndNote flags rules tokens) := by
  refine alike_get_bind (fun s t h => by rw [h]) fun s => (ignores_noteAll _).bind fun _ => ?_
  split
  · exact ignores_throw _
  · exact ignores_pure _

theorem ignores_mergeOptions (options : List String) : Ignores may (mergeOptions options) := by
  unfold mergeOptions
  split
  · exact ignores_throw _
  · exact ignores_storeAll _

/-- A run that is told about in another way goes the same way. -/
theorem alike_configure (inv : Invocation) (layout : Layout) (surroundings : Surroundings)
    (verbose plain debugging : Bool) (screenLog : LogLevel) :
    Alike noKey (configure inv layout surroundings)
      (configure { inv with verbose, plain, screenLog } layout
        { surroundings with debugging }) := by
  have hplan : ∀ key ∈ planningKeys, ¬ noKey key := fun _ _ => id
  refine (ignores_sortAndNote _ _ _).bind fun sorted => ?_
  refine alike_startParameters.bind fun _ => ?_
  have hinputs : Alike noKey (decideInputs sorted (inv.shippedFiles layout) surroundings)
      (decideInputs sorted (inv.shippedFiles layout) { surroundings with debugging }) :=
    alike_decideInputs surroundings debugging sorted _ (fun _ _ => id) (fun _ _ => id)
  refine hinputs.bind fun inputs => (ignores_mergeOptions _).bind fun _ => ?_
  -- debugging is no part of what the cores are counted from
  have hthreads : Ignores noKey
      (settleThreads inv.serverThreads inv.clientThreads surroundings) :=
    ignores_settleThreads hplan _ _
  refine hthreads.bind fun threads => ?_
  refine (ignores_settleClients hplan _ _ _).bind fun clients => ?_
  refine alike_get_bind_of_sameBut (fun s t hst => ?_) fun s => ignores_pure _
  rw [hst.params_eq]

/-- **Diagnostics never change the outcome.** However a run is told about, it ends with the same
error or with the same configuration, and it leaves the same parameters, the same files and the
same scratch directories to answer for. -/
theorem diagnostics_ignored (inv : Invocation) (layout : Layout) (surroundings : Surroundings)
    (s : Session) (verbose plain debugging : Bool) (screenLog : LogLevel) :
    let first := (configure inv layout surroundings).runOn s
    let second := (configure { inv with verbose, plain, screenLog } layout
      { surroundings with debugging }).runOn s
    second.1 = first.1 ∧ second.2.params = first.2.params
      ∧ second.2.files = first.2.files ∧ second.2.scratch = first.2.scratch := by
  intro first second
  have hself : SameBut noKey s s := StepRelation.refl s
  obtain ⟨hresult, hsame⟩ :=
    alike_configure inv layout surroundings verbose plain debugging screenLog s s hself
  exact ⟨hresult.symm, hsame.params_eq, hsame.files, hsame.scratch⟩

/-- The two runs are told about differently. -/
example :
    ((configure { namedInputs with verbose := true } ⟨.empty, .empty, .empty, none⟩ {}).runOn
        (sessionOn "N = 7\n")).2.journal ≠
      ((configure namedInputs ⟨.empty, .empty, .empty, none⟩ {}).runOn
        (sessionOn "N = 7\n")).2.journal := by
  decide +kernel

end SieveRun
