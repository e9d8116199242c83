import SieveRun.Proofs.FillingIn
import SieveRun.Proofs.ThreadPlan
import Mathlib.Order.Bounds.Defs

/-!
# Which clients are laid out

What a run fills in about its clients is a list of defaults (`clientDefaults`), so what is seen
of each key afterwards is what was seen before, else the first default for it. The three keys
have different leaves, so no default for one of them is seen by a read of another, and none of
them is seen by a read of the script's directory (`ClientsLaidOut`).
-/

namespace SieveRun

open Stage Hierarchy Text

variable {inputs : DecidedInputs} {threads : ThreadCounts} {files : FileSystem}
  {h h₁ : Hierarchy} {requested : Option Nat}

/-! ## The number of clients -/

/-- As many clients as together use the server's threads, and no fewer. -/
theorem clientsNeeded_isLeast (threads : ThreadCounts) :
    IsLeast {c | 0 < c ∧ threads.server ≤ c * max (max threads.polyselect threads.sieve) 1}
      (clientsNeeded threads) := by
  have heach : 0 < max (max threads.polyselect threads.sieve) 1 := by omega
  unfold clientsNeeded
  by_cases hserver : threads.server = 0
  · rw [if_pos hserver]
    exact ⟨⟨by omega, by omega⟩, fun c hc => hc.1⟩
  · rw [if_neg hserver]
    dsimp only
    generalize max (max threads.polyselect threads.sieve) 1 = each at heach ⊢
    refine ⟨⟨?_, ?_⟩, ?_⟩
    · exact Nat.div_pos (by omega) heach
    · have hlt : threads.server + each - 1 < (threads.server + each - 1) / each * each + each :=
        Nat.lt_div_mul_add heach
      omega
    · rintro c ⟨-, hc⟩
      refine Nat.lt_succ_iff.1 ((Nat.div_lt_iff_lt_mul heach).2 ?_)
      rw [Nat.succ_mul]
      omega

theorem clientsNeeded_lt (hserver : threads.server < countLimit) :
    clientsNeeded threads < countLimit := by
  have hmax : threads.server ≤
      max threads.server 1 * max (max threads.polyselect threads.sieve) 1 :=
    (Nat.le_max_left _ 1).trans (Nat.le_mul_of_pos_right _ (by omega))
  have hle := (clientsNeeded_isLeast threads).2 ⟨by omega, hmax⟩
  have hlimit : 1 < countLimit := by decide
  omega

/-- The number of clients that is filled in, if any: the one that is asked for, else one for
hosts that are named, else as many as are needed, on a shipped parameter file. -/
def plannedClients (requested : Option Nat) (hosts : Option String) (isDefault : Bool)
    (needed : Nat) : Option Nat :=
  requested.or (if hosts.isSome then some 1 else if isDefault then some needed else none)

theorem plannedClients_lt {hosts : Option String} {isDefault : Bool} {needed n : Nat}
    (hrequested : ∀ n, requested = some n → n < countLimit) (hneeded : needed < countLimit)
    (hn : plannedClients requested hosts isDefault needed = some n) : n < countLimit := by
  cases requested with
  | some m =>
    obtain rfl := Option.some.inj hn
    exact hrequested m rfl
  | none =>
    rw [plannedClients, Option.none_or] at hn
    split at hn
    · rw [← Option.some.inj hn]
      decide
    · split at hn
      · rwa [← Option.some.inj hn]
      · exact absurd hn (by simp)

/-! ## The defaults -/

/-- What is filled in about the clients, in order, given the hosts that are seen. -/
def clientDefaults (requested : Option Nat) (hosts : Option String) (inputs : DecidedInputs)
    (threads : ThreadCounts) : List (Key × String) :=
  (requested.map fun n => (clientCountKey, numeral n)).toList ++
    if hosts.isSome then [(clientCountKey, numeral 1)]
    else if inputs.isDefault then
      [(hostsKey, "localhost"), (basePathKey, (inputs.workdir.child "client").text),
        (clientCountKey, numeral (clientsNeeded threads))]
    else []

theorem lookup_clientDefaults_count (hosts : Option String) :
    (clientDefaults requested hosts inputs threads).lookup clientCountKey =
      (plannedClients requested hosts inputs.isDefault (clientsNeeded threads)).map numeral := by
  have hne : clientCountKey ≠ hostsKey ∧ clientCountKey ≠ basePathKey := by decide
  unfold clientDefaults plannedClients
  cases requested with
  | some n => simp
  | none =>
    by_cases hseen : hosts.isSome = true
    · simp [hseen]
    · by_cases hdefault : inputs.isDefault = true
      · simp [hseen, hdefault, lookup_cons_eq_ite, hne.1, hne.2]
      · simp [hseen, hdefault]

/-- The other defaults are there on a shipped parameter file, where no hosts are seen. -/
theorem lookup_clientDefaults_of_ne (hosts : Option String) {k : Key} (hk : k ≠ clientCountKey) :
    (clientDefaults requested hosts inputs threads).lookup k =
      if hosts = none ∧ inputs.isDefault = true then
        [(hostsKey, "localhost"), (basePathKey, (inputs.workdir.child "client").text)].lookup k
      else none := by
  have hcount : (clientDefaults requested hosts inputs threads).lookup k =
      (clientDefaults none hosts inputs threads).lookup k := by
    cases requested with
    | some n => exact (lookup_cons_eq_ite k _ _).trans (if_neg hk)
    | none => rfl
  rw [hcount]
  unfold clientDefaults
  cases hosts with
  | some w => simp [lookup_cons_eq_ite, hk]
  | none =>
    by_cases hdefault : inputs.isDefault = true
    · simp [hdefault, lookup_cons_eq_ite, hk]
    · simp [hdefault]

theorem takes_layOutClients_none (inputs : DecidedInputs) (threads : ThreadCounts) :
    Takes (layOutClients none inputs threads) h files ()
      (h.fillAll (clientDefaults none (h.get? hostsKey) inputs threads)) := by
  refine (answers_read? hostsKey).takes.bind ?_
  cases h.get? hostsKey with
  | some w => exact takes_fillIn _ _
  | none =>
    dsimp only [clientDefaults]
    by_cases hdefault : inputs.isDefault = true
    · rw [if_pos hdefault, if_neg (by simp), if_pos hdefault]
      exact (takes_fillIn _ _).bind ((takes_fillIn _ _).bind (takes_fillIn _ _))
    · rw [if_neg hdefault, if_neg (by simp), if_neg hdefault]
      exact (answers_pure ()).takes

/-- Laying out fills the defaults in. -/
theorem takes_layOutClients (requested : Option Nat) (inputs : DecidedInputs)
    (threads : ThreadCounts) :
    Takes (layOutClients requested inputs threads) h files ()
      (h.fillAll (clientDefaults requested (h.get? hostsKey) inputs threads)) := by
  cases requested with
  | none => exact takes_layOutClients_none inputs threads
  | some n =>
    -- the number that is asked for comes first, and no read of the hosts sees it
    have hhosts : (h.fillIn clientCountKey (numeral n)).get? hostsKey = h.get? hostsKey := by
      refine get?_congr fun source hs => value?_fillIn_ne h _ ?_
      have hnot : ∀ source ∈ hostsKey.sources, source ≠ clientCountKey := by decide +kernel
      exact hnot source hs
    have hrest : Takes (layOutClients none inputs threads) (h.fillIn clientCountKey (numeral n))
        files () _ := takes_layOutClients_none inputs threads
    rw [hhosts] at hrest
    exact (takes_fillIn _ _).bind hrest

/-- What is laid out about the clients. -/
structure ClientsLaidOut (requested : Option Nat) (inputs : DecidedInputs)
    (threads : ThreadCounts) (h h' : Hierarchy) : Prop where
  count : FilledIn h h' clientCountKey ((plannedClients requested (h.get? hostsKey)
    inputs.isDefault (clientsNeeded threads)).map numeral)
  hosts : FilledIn h h' hostsKey
    (if h.get? hostsKey = none ∧ inputs.isDefault = true then some "localhost" else none)
  basePath : FilledIn h h' basePathKey
    (if h.get? hostsKey = none ∧ inputs.isDefault = true then
      some (inputs.workdir.child "client").text else none)
  others : ∀ k, k ≠ clientCountKey → k ≠ hostsKey → k ≠ basePathKey → k ≠ scriptKey →
    h'.value? k = h.value? k
  /-- No read loses what it saw, but for an empty script directory that is replaced. -/
  kept : ∀ q v, h.get? q = some v →
    h'.get? q = some v ∨ v = "" ∧ h.get? scriptKey = some "" ∧ scriptKey ∈ q.sources

theorem mem_clientDefaults {hosts : Option String} {d : Key × String}
    (hd : d ∈ clientDefaults requested hosts inputs threads) :
    d.1 = clientCountKey ∨ d.1 = hostsKey ∨ d.1 = basePathKey := by
  rcases List.mem_append.1 hd with hrequested | hrest
  · obtain ⟨n, -, rfl⟩ := Option.map_eq_some_iff.1 (Option.mem_toList.1 hrequested)
    exact .inl rfl
  · split at hrest
    · obtain rfl := List.mem_singleton.1 hrest
      exact .inl rfl
    · split at hrest
      · simp only [List.mem_cons, List.not_mem_nil, or_false] at hrest
        rcases hrest with rfl | rfl | rfl
        · exact .inr (.inl rfl)
        · exact .inr (.inr rfl)
        · exact .inl rfl
      · exact absurd hrest (by simp)

theorem clientsLaidOut_fillAll (requested : Option Nat) (inputs : DecidedInputs)
    (threads : ThreadCounts) (h : Hierarchy) :
    ClientsLaidOut requested inputs threads h
      (h.fillAll (clientDefaults requested (h.get? hostsKey) inputs threads)) := by
  -- the three keys have different leaves, so none inherits from another
  have hsources : ∀ k ∈ [clientCountKey, hostsKey, basePathKey],
      ∀ d ∈ clientDefaults requested (h.get? hostsKey) inputs threads,
        d.1 ∈ k.sources → d.1 = k := by
    have hall : ∀ k ∈ [clientCountKey, hostsKey, basePathKey],
        ∀ q ∈ [clientCountKey, hostsKey, basePathKey], q ∈ k.sources → q = k := by decide +kernel
    intro k hk d hd
    exact hall k hk d.1 (by simpa using mem_clientDefaults hd)
  refine ⟨?_, ?_, ?_, ?_, ?_⟩
  · rw [← lookup_clientDefaults_count]
    exact filledIn_fillAll h (hsources _ (by simp))
  · have hfilled := filledIn_fillAll h (hsources hostsKey (by simp))
    rwa [lookup_clientDefaults_of_ne _ (by decide)] at hfilled
  · have hfilled := filledIn_fillAll h (hsources basePathKey (by simp))
    rwa [lookup_clientDefaults_of_ne _ (by decide)] at hfilled
  · intro k hcount hhosts hbase _
    refine value?_fillAll h fun d hd he => ?_
    rcases mem_clientDefaults hd with hd | hd | hd
    · exact hcount (he.symm.trans hd)
    · exact hhosts (he.symm.trans hd)
    · exact hbase (he.symm.trans hd)
  · intro q v hq
    exact .inl ((extends_fillAll h _).get? hq)

/-- Laying out writes nowhere where the script's directory is read from. -/
theorem value?_scriptKey_laidOut {hosts : Option String} {source : Key}
    (hs : source ∈ scriptKey.sources) :
    (h.fillAll (clientDefaults requested hosts inputs threads)).value? source = h.value? source := by
  have hne : ∀ source ∈ scriptKey.sources,
      source ∉ [clientCountKey, hostsKey, basePathKey] := by decide +kernel
  refine value?_fillAll h fun d hd he => hne source hs ?_
  have hmem := mem_clientDefaults hd
  rw [he] at hmem
  simpa using hmem

/-- The number that is filled in can be read, so it is only a number that was seen that cannot. -/
theorem ClientsLaidOut.readsCount (hl : ClientsLaidOut requested inputs threads h h₁)
    (hrequested : ∀ n, requested = some n → n < countLimit)
    (hserver : threads.server < countLimit) (hread : h.ReadsCount clientCountKey) :
    h₁.ReadsCount clientCountKey := by
  intro v hv
  rw [hl.count.seen, Option.or_eq_some_iff] at hv
  rcases hv with hv | ⟨-, hv⟩
  · exact hread v hv
  · obtain ⟨n, hn, rfl⟩ := Option.map_eq_some_iff.1 hv
    rw [count?_numeral (plannedClients_lt hrequested (clientsNeeded_lt hserver) hn)]
    rfl

/-- Storing the launcher's directory leaves what was laid out, where none was set. -/
theorem ClientsLaidOut.setScript (hl : ClientsLaidOut requested inputs threads h h₁)
    (hread : h₁.get? scriptKey = h.get? scriptKey) (hscript : (h.get? scriptKey).getD "" = "")
    (v : String) : ClientsLaidOut requested inputs threads h (h₁.set scriptKey v) := by
  have hnot : ∀ k ∈ [clientCountKey, hostsKey, basePathKey], scriptKey ∉ k.sources := by
    decide +kernel
  have hsame : ∀ k ∈ [clientCountKey, hostsKey, basePathKey], ∀ x, FilledIn h h₁ k x →
      FilledIn h (h₁.set scriptKey v) k x := by
    intro k hk x hx
    have hnone : FilledIn h₁ (h₁.set scriptKey v) k none := by
      refine filledIn_none fun source hs => value?_set_ne h₁ v ?_
      exact fun he => hnot k hk (he ▸ hs)
    have hboth := hx.trans hnone
    rwa [Option.or_none] at hboth
  refine ⟨hsame _ (by simp) _ hl.count, hsame _ (by simp) _ hl.hosts,
    hsame _ (by simp) _ hl.basePath, ?_, ?_⟩
  · intro k hcount hhosts hbase hk
    rw [value?_set_ne _ _ hk]
    exact hl.others k hcount hhosts hbase hk
  · intro q w hq
    rcases hl.kept q w hq with hw | hempty
    · rcases get?_set_cases h₁ scriptKey v q with hstays | ⟨hmem, hleft⟩
      · exact .inl (hstays.trans hw)
      · -- the read was left to the key of the script, where it saw an empty directory
        have hsaw : h.get? scriptKey = some w := by rw [← hread, ← hleft, hw]
        rw [hsaw, Option.getD_some] at hscript
        subst hscript
        exact .inr ⟨rfl, hsaw, hmem⟩
    · exact .inr hempty

end SieveRun
