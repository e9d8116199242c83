import SieveRun.Proofs.ClientPlan
import SieveRun.Proofs.Independence
import SieveRun.Proofs.KeptOptions
import SieveRun.Proofs.NumberSources
import SieveRun.Proofs.Pipeline

/-!
# Options that do not interfere

One more option is given to a run that succeeds. Three things keep it from spoiling the rest.
No rule of the table looks at options, so the other tokens are sorted as before
(`sortTokens_insert`). The inputs are decided before the options are read, and the journal,
which has one more note in it, is looked at by nobody (`ignores_decideInputs`). And the stages
after the options look at few parameters, all of them named here (`planningKeys`): a key that
is not among them is ignored (`ignores_settleThreads`, `ignores_settleClients`).

So the two runs agree at the end of every stage in all but the journal and the value of the new
option's key, and that is what is carried from one stage to the next.
-/

namespace SieveRun

open Stage Hierarchy Assignment

variable {may : Key → Prop} {layout : Layout} {surroundings : Surroundings}
  {s s' t t' : Session} {k : Key} {token : String} {front back : List String}

/-! ## The keys that the planning looks at -/

/-- The keys of threads and clients that are planned, and those that reads of them fall back
on. -/
def planningKeys : List Key :=
  [⟨[], "threads"⟩, serverThreadsKey, polyselectThreadsKey, sieveThreadsKey,
    outerCountKey, ⟨[], "hostnames"⟩, ⟨[], "basepath"⟩, outerScriptKey,
    clientCountKey, hostsKey, basePathKey, scriptKey]

section
variable (hplan : ∀ key ∈ planningKeys, ¬ may key)
include hplan

/-- A read that ends among these keys sees nothing that is set apart. -/
theorem sources_apart {k : Key} (hk : k.sources ⊆ planningKeys) :
    ∀ source ∈ k.sources, ¬ may source :=
  fun source hs => hplan source (hk hs)

/-! ### Threads -/

omit hplan in
theorem ignores_storeAllCores : Ignores may (storeAllCores surroundings) := by
  refine alike_get_bind (fun s t h => by rw [h]) fun s => ?_
  split
  · exact ignores_throw _
  · exact (ignores_note _).bind fun _ => ignores_store _ _

theorem ignores_settleServerThreads (requested : Option ThreadRequest) :
    Ignores may (settleServerThreads requested surroundings) := by
  refine (ignores_readAs? (sources_apart hplan (by decide))).bind fun current => ?_
  split
  · exact ignores_store _ _
  · exact ignores_storeAllCores
  · dsimp only
    split
    · exact ignores_storeAllCores
    · exact ignores_pure _

omit hplan in
/-- Whether a family has a count of its own is told by the keys that its count is read from. -/
theorem ignores_settleFamilyThreads {family : Key} (hk : ∀ source ∈ family.sources, ¬ may source)
    (requested : Option Nat) (server : Nat) :
    Ignores may (settleFamilyThreads requested server family) := by
  have hnote : Ignores may
      (read? family >>= fun v => note (.familyThreads family.text (v.getD ""))) :=
    (ignores_read? hk).bind fun _ => ignores_note _
  cases requested with
  | some n => exact (ignores_store _ _).bind fun _ => hnote
  | none =>
    refine alike_get_bind_of_sameBut (fun s t hst => ?_) fun s => ?_
    · have horigin : s.params.origin? family = t.params.origin? family :=
        origin?_congr fun source hs => (hst.params source (hk source hs)).symm
      rw [horigin]
    · split
      · exact (ignores_store _ _).bind fun _ => hnote
      · exact hnote

theorem ignores_settleThreads (server : Option ThreadRequest) (clients : Option Nat) :
    Ignores may (settleThreads server clients surroundings) := by
  have hserver := sources_apart hplan (k := serverThreadsKey) (by decide)
  have hpolyselect := sources_apart hplan (k := polyselectThreadsKey) (by decide)
  have hsieve := sources_apart hplan (k := sieveThreadsKey) (by decide)
  refine (ignores_settleServerThreads hplan server).bind fun _ => ?_
  refine (ignores_readAs? hserver).bind fun _ => ?_
  refine (ignores_settleFamilyThreads hpolyselect _ _).bind fun _ => ?_
  refine (ignores_settleFamilyThreads hsieve _ _).bind fun _ => ?_
  refine (ignores_readAs? hpolyselect).bind fun _ => ?_
  exact (ignores_readAs? hsieve).bind fun _ => ignores_pure _

/-! ### Clients -/

omit hplan in
/-- Forgetting makes sessions agree in even more. -/
theorem ignores_dropClients : Ignores may dropClients := by
  intro s t hst
  refine ⟨rfl, fun k hk => ?_, hst.files, hst.scratch⟩
  show (t.params.removeUnder clientSpace).value? k = (s.params.removeUnder clientSpace).value? k
  rw [value?_removeUnder, value?_removeUnder, hst.params k hk]

theorem ignores_layOutClients (requested : Option Nat) (inputs : DecidedInputs)
    (threads : ThreadCounts) : Ignores may (layOutClients requested inputs threads) := by
  have hcount : ∀ v, Ignores may (discard (storeIfMissing clientCountKey v) : Stage Unit) := by
    intro v
    exact (ignores_storeIfMissing (sources_apart hplan (by decide)) v).discard
  have hhosts := sources_apart hplan (k := hostsKey) (by decide)
  have hbase := sources_apart hplan (k := basePathKey) (by decide)
  have hrest : Ignores may (layOutClients none inputs threads) := by
    refine (ignores_read? hhosts).bind fun hosts => ?_
    cases hosts with
    | some _ => exact hcount _
    | none =>
      dsimp only
      split
      · refine (ignores_storeIfMissing hhosts _).discard.bind fun _ => ?_
        exact (ignores_storeIfMissing hbase _).discard.bind fun _ => hcount _
      · exact ignores_pure _
  cases requested with
  | some n => exact (hcount _).bind fun _ => hrest
  | none => exact hrest

omit hplan in
theorem ignores_storeLauncher : Ignores may (storeLauncher layout) := by
  refine alike_get_bind (fun s t h => by rw [h]) fun s => ?_
  split
  · exact ignores_throw _
  · exact (ignores_store _ _).bind fun _ => ignores_note _

theorem ignores_launchClients (count : Nat) : Ignores may (launchClients layout count) := by
  have hscript := sources_apart hplan (k := scriptKey) (by decide)
  have hlast : Ignores may (read? scriptKey >>= fun script =>
      (pure ⟨count, script.map Path.ofText⟩ : Stage ClientPlan)) :=
    (ignores_read? hscript).bind fun _ => ignores_pure _
  unfold launchClients
  split
  · refine (ignores_read? hscript).bind fun _ => ?_
    split
    · exact ignores_storeLauncher.bind fun _ => hlast
    · exact hlast
  · exact hlast

theorem ignores_settleClients (request : ClientRequest) (inputs : DecidedInputs)
    (threads : ThreadCounts) : Ignores may (settleClients request inputs threads layout) := by
  have hcount := sources_apart hplan (k := clientCountKey) (by decide)
  by_cases hrun : request.serverOnly = true
  · rw [settleClients, if_pos hrun]
    exact ignores_dropClients.bind fun _ => ignores_pure _
  · rw [settleClients_eq (by simpa using hrun)]
    exact (ignores_layOutClients hplan _ _ _).bind fun _ => (ignores_readAs? hcount).bind fun _ =>
      ignores_launchClients hplan _

end

/-! ## One more option -/

theorem last?_insert {as bs : List (Key × String)} {a : Key × String} (h : k ≠ a.1) :
    last? k (as ++ a :: bs) = last? k (as ++ bs) := by
  rw [last?_append, last?_append, last?_cons, if_neg h, Option.or_none]

/-- One more option that assigns something is read, and what the others assign stays. -/
theorem ofOptions_insert {as : List (Key × String)} (h : ofOptions (front ++ back) = .ok as)
    (hk : Assigns token.toList k) :
    ∃ bs, ofOptions (front ++ token :: back) = .ok bs ∧ ∀ key, key ≠ k → last? key bs = last? key as := by
  obtain ⟨v, hv⟩ : ∃ v, assignment? token = some (k, v) := hk
  obtain ⟨hall, rfl⟩ := ofOptions_eq_ok_iff.1 h
  rw [List.forall_mem_append] at hall
  refine ⟨_, ofOptions_eq_ok_iff.2 ⟨?_, rfl⟩, fun key hkey => ?_⟩
  · rw [List.forall_mem_append, List.forall_mem_cons]
    exact ⟨hall.1, .inr (Option.isSome_of_eq_some hv), hall.2⟩
  · rw [List.filterMap_append, List.filterMap_append, List.filterMap_cons_some hv]
    exact last?_insert hkey

/-- Merging with one more option, from a session that agrees in the rest. -/
theorem mergeOptions_insert (hk : Assigns token.toList k) (hst : SameBut (· = k) s t)
    (h : (mergeOptions (front ++ back)).runOn s = (.ok (), s')) :
    ∃ t', (mergeOptions (front ++ token :: back)).runOn t = (.ok (), t')
      ∧ SameBut (· = k) s' t' := by
  rw [runOn_mergeOptions] at h
  cases has : ofOptions (front ++ back) with
  | error fault => rw [has] at h; exact absurd h (by simp)
  | ok as =>
    rw [has] at h
    obtain ⟨-, rfl⟩ := Prod.mk.inj h
    obtain ⟨bs, hbs, hlast⟩ := ofOptions_insert has hk
    rw [runOn_mergeOptions, hbs]
    refine ⟨_, rfl, fun key hkey => ?_, hst.files, hst.scratch⟩
    show (t.params.setAll bs).value? key = (s.params.setAll as).value? key
    rw [value?_setAll, value?_setAll, hlast key hkey, hst.params key hkey]

/-- Sorting with one more option notes more, and has the option in its place. -/
theorem sortAndNote_insert {flags : NamedFlags} {before after : List String}
    {sorted : SortedTokens}
    (h : (sortAndNote flags sortingRules (before ++ after)).runOn s = (.ok sorted, s'))
    (ht : TakenAsOption s.files flags before token) :
    ∃ front back t, sorted.options = front ++ back
      ∧ (sortAndNote flags sortingRules (before ++ token :: after)).runOn s =
          (.ok { sorted with options := front ++ token :: back }, t)
      ∧ SameBut noKey s' t := by
  obtain ⟨hs, events, rfl⟩ := sortAndNote_ok h
  obtain ⟨front, back, hoptions, hs'⟩ := sortTokens_insert hs ht
  obtain ⟨more, hrun⟩ := answers_sortAndNote (h := s.params) hs' s rfl rfl
  exact ⟨front, back, _, hoptions, hrun, SameBut.noting (StepRelation.refl s) _ _⟩

/-- Whether the parameters are traced from here on is told by the journal alone. -/
theorem alike_startParameters {traced traced' : Bool} :
    Alike may (startParameters layout traced) (startParameters layout traced') := by
  intro s t hst
  exact ⟨rfl, fun _ _ => rfl, hst.files, hst.scratch⟩

theorem ignores_startParameters {traced : Bool} :
    Ignores may (startParameters layout traced) := alike_startParameters

/-- **Options that do not interfere.** A run succeeds, and one more token is put anywhere among
its tokens. Where the table takes it as an option, no thread flag stands against it, and it
assigns a key that the planning does not look at, the run succeeds again. Its configuration is
the same, except for the value that is stored under the key; so are the files and the scratch
directories. -/
theorem unrelated_option_ignored (inv : Invocation) (before after : List String) {c : Configuration}
    (h : (configure { inv with tokens := before ++ after } layout surroundings).runOn s =
      (.ok c, s'))
    (ht : TakenAsOption s.files inv.namedFlags before token) (hk : Assigns token.toList k)
    (hplan : k ∉ planningKeys) :
    ∃ c' t, (configure { inv with tokens := before ++ token :: after } layout surroundings).runOn s =
        (.ok c', t)
      ∧ c' = { c with parameters := c'.parameters }
      ∧ (∀ key, key ≠ k → c'.parameters.value? key = c.parameters.value? key)
      ∧ t.files = s'.files ∧ t.scratch = s'.scratch := by
  -- the run that is known, stage by stage
  obtain ⟨sorted, s₁, hsort, h⟩ := bind_ok h
  obtain ⟨⟨⟩, s₂, hstart, h⟩ := bind_ok h
  obtain ⟨inputs, s₃, hdecide, h⟩ := bind_ok h
  obtain ⟨⟨⟩, s₄, hmerge, h⟩ := bind_ok h
  obtain ⟨threads, s₅, hthreads, h⟩ := bind_ok h
  obtain ⟨clients, s₆, hclients, h⟩ := bind_ok h
  rw [runOn_bind_of_ok (runOn_get _)] at h
  obtain ⟨rfl, rfl⟩ := pure_ok h
  -- the other one, in sessions that differ in the journal, and from the options on at `k`
  obtain ⟨front, back, t₁, hoptions, hsort', h₁⟩ := sortAndNote_insert hsort ht
  obtain ⟨t₂, hstart', h₂⟩ := ignores_startParameters.run h₁ hstart
  obtain ⟨t₃, hdecide', h₃⟩ :=
    (ignores_decideInputs _ _ _ (fun _ _ => id) (fun _ _ => id)).run h₂ hdecide
  rw [hoptions] at hmerge
  obtain ⟨t₄, hmerge', h₄⟩ := mergeOptions_insert hk h₃.of_noKey hmerge
  have hunseen : ∀ key ∈ planningKeys, ¬ key = k := fun key hkey he => hplan (he ▸ hkey)
  obtain ⟨t₅, hthreads', h₅⟩ := (ignores_settleThreads hunseen _ _).run h₄ hthreads
  obtain ⟨t₆, hclients', h₆⟩ := (ignores_settleClients hunseen _ _ _).run h₅ hclients
  exact ⟨_, t₆, (runOn_bind_of_ok hsort').trans ((runOn_bind_of_ok hstart').trans
    ((runOn_bind_of_ok hdecide').trans ((runOn_bind_of_ok hmerge').trans
      ((runOn_bind_of_ok hthreads').trans (runOn_bind_of_ok hclients'))))),
    rfl, h₆.params, h₆.files, h₆.scratch⟩

/-- A command line that names the file, the directory and the threads. -/
def namedInputs : Invocation where
  parameters := some (.ofText "/f")
  workdir := some (.ofText "/w")
  serverThreads := some (.count 4)

/-- A run of it with tokens. -/
def numberedRun (tokens : List String) : Except RunError Configuration × Session :=
  (configure { namedInputs with tokens := tokens }
    ⟨.ofText "/data", .ofText "/lib", .ofText "/bin", none⟩ {}).runOn (sessionOn "name = c5\n")

/-- Another number among the options is as unrelated as any other parameter. -/
theorem looseNumber_ignored :
    ∃ c c' s' t, numberedRun ["1234", "tasks.sieve.threads=3"] = (.ok c, s')
      ∧ numberedRun ["1234", " N = 7", "tasks.sieve.threads=3"] = (.ok c', t)
      ∧ c'.number = ⟨1234⟩ ∧ c'.threads = ⟨4, 2, 3⟩ ∧ c'.clients = c.clients
      ∧ ∀ key, key ≠ numberKey → c'.parameters.value? key = c.parameters.value? key := by
  have htest : passes (numberedRun ["1234", "tasks.sieve.threads=3"]) (fun c =>
      decide (c.number = ⟨1234⟩ ∧ c.threads = ⟨4, 2, 3⟩)) = true := by decide +kernel
  obtain ⟨c, s', hrun, hc⟩ := exists_ok_of_passes htest
  obtain ⟨hnumber, hthreads⟩ := of_decide_eq_true hc
  have htaken : TakenAsOption (sessionOn "name = c5\n").files namedInputs.namedFlags ["1234"]
      " N = 7" := by
    refine ⟨⟨⟨[⟨1234⟩], [.ofText "/f"], [.ofText "/w"], []⟩, ?_, ?_⟩, ?_, ?_⟩
    · decide +kernel
    · decide +kernel
    · exact fun _ => by decide +kernel
    · exact fun hclients => absurd hclients (by decide)
  have hassigns : Assigns " N = 7".toList numberKey := ⟨"7", by decide +kernel⟩
  obtain ⟨c', t, hrun', hsame, hvalues, -⟩ := unrelated_option_ignored namedInputs ["1234"]
    ["tasks.sieve.threads=3"] hrun htaken hassigns (by decide)
  refine ⟨c, c', s', t, hrun, hrun', ?_, ?_, ?_, hvalues⟩
  · rw [hsame]
    exact hnumber
  · rw [hsame]
    exact hthreads
  · rw [hsame]

end SieveRun
