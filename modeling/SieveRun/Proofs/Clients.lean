import SieveRun.Proofs.Files
import SieveRun.Proofs.Spelling
import SieveRun.Proofs.Threads
import SieveRun.Workers.Clients

/-!
# The clients are stored

What a run settles about its clients is stored where a later run finds it
(`ClientsStored`): hosts never come without a number of clients, and clients never without
the directory of their script. A later run then looks nothing up (`settleClients_again`), as
long as nothing is left to be laid out (`LayoutKept`). That is so of every run with a parameter
file of its own, although the first one may have laid out everything, because it ran on a
shipped file.
-/

namespace SieveRun

open Stage Hierarchy

variable {s s' : Session} {inputs : DecidedInputs} {threads : ThreadCounts} {layout : Layout}
  {k : Key} {v : String}

/-! ## Stores that only fill in -/

theorem storeIfMissing_ok {b : Bool} (h : (storeIfMissing k v).runOn s = (.ok b, s')) :
    (s'.params.get? k).isSome := by
  rw [storeIfMissing, runOn_bind_of_ok (runOn_read? _ _)] at h
  cases hv : s.params.get? k with
  | some w =>
    rw [hv] at h
    obtain ⟨-, rfl⟩ := pure_ok h
    simp [hv]
  | none =>
    rw [hv] at h
    obtain ⟨-, rfl⟩ := Prod.mk.inj h
    exact isSome_get?_of_value? (by simp)

theorem discard_ok {x : Stage Bool} (h : (discard x : Stage Unit).runOn s = (.ok (), s')) :
    ∃ b, x.runOn s = (.ok b, s') := by
  rw [runOn_discard] at h
  cases hx : x.runOn s with
  | mk outcome s₁ =>
    rw [hx] at h
    cases outcome with
    | ok b => exact ⟨b, by rw [(Prod.mk.inj h).2]⟩
    | error e => exact absurd h (by simp)

/-- Filling in leaves what a read already sees. -/
theorem answers_storeIfMissing {h : Hierarchy} {files : FileSystem} (hk : (h.get? k).isSome) :
    Answers (storeIfMissing k v) h files false := by
  obtain ⟨w, hw⟩ := Option.isSome_iff_exists.1 hk
  refine (answers_read? k).bind ?_
  rw [hw]
  exact answers_pure false

/-! ## Laying out, and then launching -/

/-- What is left to do once the number of clients is known. -/
def launchClients (layout : Layout) (count : Nat) : Stage ClientPlan := do
  if 0 < count then
    if (← read? scriptKey).getD "" = "" then storeLauncher layout
  let script := (← read? scriptKey).map Path.ofText
  pure ⟨count, script⟩

theorem settleClients_eq {request : ClientRequest} (hrun : request.serverOnly = false)
    (inputs : DecidedInputs) (threads : ThreadCounts) (layout : Layout) :
    settleClients request inputs threads layout =
      (layOutClients request.count inputs threads >>= fun _ =>
        readCount? clientCountKey >>= fun count => launchClients layout (count.getD 0)) := by
  rw [settleClients, if_neg (by simp [hrun])]
  rfl

/-! ## What is written -/

/-- The keys of the clients. -/
def ClientKey (k : Key) : Prop := k.isUnder clientSpace = true

instance : DecidablePred ClientKey := fun k =>
  inferInstanceAs (Decidable (k.isUnder clientSpace = true))

section
variable {R : Session → Session → Prop} [WriteRelation R]

theorem moves_layOutClients
    (h : ∀ k v, ClientKey k → k.isWellFormed = true → Moves R (store k v)) (requested : Option Nat) :
    Moves R (layOutClients requested inputs threads) := by
  have hfill : ∀ k v, ClientKey k → k.isWellFormed = true →
      Moves R (discard (storeIfMissing k v) : Stage Unit) :=
    fun k v hk hw => (moves_storeIfMissing (h k v hk hw)).discard
  have hcount : ∀ v, Moves R (discard (storeIfMissing clientCountKey v) : Stage Unit) :=
    fun v => hfill _ v (by decide +kernel) (by decide +kernel)
  have hrest : Moves R (layOutClients none inputs threads) := by
    refine (moves_read? _).bind fun hosts => ?_
    cases hosts with
    | some w => exact hcount _
    | none =>
      dsimp only
      split
      · refine (hfill _ _ (by decide +kernel) (by decide +kernel)).bind fun _ => ?_
        exact (hfill _ _ (by decide +kernel) (by decide +kernel)).bind fun _ => hcount _
      · exact moves_pure _
  cases requested with
  | some n => exact (hcount _).bind fun _ => hrest
  | none => exact hrest

theorem moves_storeLauncher (h : ∀ v, Moves R (store scriptKey v)) :
    Moves R (storeLauncher layout) := by
  refine moves_get.bind fun s => ?_
  split
  · exact moves_throw _
  · exact (h _).bind fun _ => moves_note rfl

theorem moves_launchClients (h : ∀ v, Moves R (store scriptKey v)) (count : Nat) :
    Moves R (launchClients layout count) := by
  have hlast : Moves R (read? scriptKey >>= fun script =>
      (pure ⟨count, script.map Path.ofText⟩ : Stage ClientPlan)) :=
    (moves_read? _).bind fun _ => moves_pure _
  unfold launchClients
  split
  · refine (moves_read? _).bind fun _ => ?_
    split
    · exact (moves_storeLauncher h).bind fun _ => hlast
    · exact hlast
  · exact hlast

/-- Clients that are not ruled out are settled by stores alone. -/
theorem moves_settleClients
    (h : ∀ k v, ClientKey k → k.isWellFormed = true → Moves R (store k v)) {request : ClientRequest}
    (hrun : request.serverOnly = false) :
    Moves R (settleClients request inputs threads layout) := by
  have hscript : ∀ v, Moves R (store scriptKey v) := fun v =>
    h _ v (by decide +kernel) (by decide +kernel)
  rw [settleClients_eq hrun]
  exact (moves_layOutClients h _).bind fun _ => (moves_readAs? _ _).bind fun _ =>
    moves_launchClients hscript _

end

theorem moves_writes_dropClients : Moves (Writes ClientKey) dropClients := by
  intro s
  refine ⟨fun k hk => ?_, rfl, rfl⟩
  show (s.params.removeUnder clientSpace).value? k = s.params.value? k
  rw [value?_removeUnder]
  exact if_neg hk

theorem moves_writes_settleClients (request : ClientRequest) :
    Moves (Writes ClientKey) (settleClients request inputs threads layout) := by
  by_cases hrun : request.serverOnly = true
  · rw [settleClients, if_pos hrun]
    exact moves_writes_dropClients.bind fun _ => moves_pure _
  · exact moves_settleClients (fun _ v hk _ => moves_writes_store hk v) (by simpa using hrun)

/-- What changes client parameters alone leaves what is stored and what is seen of a thread count:
none of them is a client parameter, and none is inherited from one. -/
theorem Writes.threadKey (hw : Writes ClientKey s s') (hk : ThreadKey k) :
    s'.params.value? k = s.params.value? k ∧ s'.params.count? k = s.params.count? k := by
  have hapart : ∀ source ∈ k.sources, ¬ ClientKey source := by
    rcases hk with rfl | rfl | rfl <;> decide +kernel
  have hself : k ∈ k.sources := by
    rw [sources_eq_cons]
    exact List.mem_cons_self
  exact ⟨hw.params k (hapart k hself), hw.count? hapart⟩

theorem ThreadsStored.of_writes {counts : ThreadCounts} (hc : ThreadsStored s.params counts)
    (hw : Writes ClientKey s s') : ThreadsStored s'.params counts := by
  obtain ⟨-, hserver⟩ := hw.threadKey (.inl rfl)
  obtain ⟨hownp, hpolyselect⟩ := hw.threadKey (.inr (.inl rfl))
  obtain ⟨howns, hsieve⟩ := hw.threadKey (.inr (.inr rfl))
  refine ⟨hserver.trans hc.server, hpolyselect.trans hc.polyselect, ?_,
    hsieve.trans hc.sieve, ?_⟩
  · rw [hownp]
    exact hc.ownPolyselect
  · rw [howns]
    exact hc.ownSieve

theorem ThreadsKept.of_writes {cores : Except RunError Nat} {requested : Option ThreadRequest}
    {clients : Option Nat} (hk : ThreadsKept cores requested clients s.params)
    (hw : Writes ClientKey s s') : ThreadsKept cores requested clients s'.params := by
  obtain ⟨hvalue, hcount⟩ := hw.threadKey (.inl rfl)
  exact ⟨hk.server.congr hvalue hcount, hk.polyselect.congr (hw.threadKey (.inr (.inl rfl))).1,
    hk.sieve.congr (hw.threadKey (.inr (.inr rfl))).1⟩

theorem moves_grows_settleClients {request : ClientRequest} (hrun : request.serverOnly = false) :
    Moves Grows (settleClients request inputs threads layout) :=
  moves_settleClients (fun _ v _ hk => moves_grows_store hk v) hrun

/-! ## What is stored in the end -/

/-- The clients are where a later run finds them. -/
structure ClientsStored (h : Hierarchy) (plan : ClientPlan) : Prop where
  /-- Hosts never come without a number of clients. -/
  hosts : (h.get? hostsKey).isSome → (h.get? clientCountKey).isSome
  readable : (h.get? clientCountKey).isSome → (h.count? clientCountKey).isSome
  count : (h.count? clientCountKey).getD 0 = plan.count
  /-- Clients never come without the directory of their script. -/
  launcher : 0 < plan.count → (h.get? scriptKey).getD "" ≠ ""
  script : (h.get? scriptKey).map Path.ofText = plan.script

theorem layOutClients_ok {requested : Option Nat}
    (h : (layOutClients requested inputs threads).runOn s = (.ok (), s'))
    (hhosts : (s'.params.get? hostsKey).isSome) : (s'.params.get? clientCountKey).isSome := by
  have hrest : ∀ s₁, (layOutClients none inputs threads).runOn s₁ = (.ok (), s') →
      (s'.params.get? clientCountKey).isSome := by
    intro s₁ h
    obtain ⟨hosts, s₂, hread, h⟩ := bind_ok h
    rw [runOn_read?] at hread
    obtain ⟨hvalue, rfl⟩ := Prod.mk.inj hread
    cases hosts with
    | some w =>
      obtain ⟨b, hfill⟩ := discard_ok h
      exact storeIfMissing_ok hfill
    | none =>
      dsimp only at h
      split at h
      · obtain ⟨⟨⟩, s₃, -, h⟩ := bind_ok h
        obtain ⟨⟨⟩, s₄, -, h⟩ := bind_ok h
        obtain ⟨b, hfill⟩ := discard_ok h
        exact storeIfMissing_ok hfill
      · -- nothing was laid out, so the hosts are as unseen as before
        obtain ⟨-, rfl⟩ := pure_ok h
        rw [Session.noting_params, Except.ok.inj hvalue] at hhosts
        exact absurd hhosts (by simp)
  cases requested with
  | none => exact hrest s h
  | some n =>
    obtain ⟨⟨⟩, s₁, -, h⟩ := bind_ok h
    exact hrest s₁ h

theorem storeLauncher_ok (h : (storeLauncher layout).runOn s = (.ok (), s')) :
    ∃ d : Path, d.bytes ≠ [] ∧ s'.params.get? scriptKey = some d.text := by
  rw [storeLauncher, runOn_bind_of_ok (runOn_get _)] at h
  split at h
  · exact absurd h (by simp)
  · rename_i found hfound
    obtain ⟨-, rfl⟩ := Prod.mk.inj h
    refine ⟨found, ?_, get?_of_value? (value?_set_self _ _ _)⟩
    rw [findLauncher] at hfound
    split at hfound
    · exact absurd hfound (by simp)
    · split at hfound
      · exact absurd hfound (by simp)
      · rename_i habs
        rw [← Except.ok.inj hfound]
        exact FileSystem.absolute_ne_nil habs

/-- The script's directory is stored where it is no source of the other two keys. -/
theorem moves_writes_launchClients (count : Nat) :
    Moves (Writes (· = scriptKey)) (launchClients layout count) :=
  moves_launchClients (fun v => moves_writes_store (by rfl) v) count

/-- Clients are never launched without the directory of their script. -/
theorem launchClients_ok {count : Nat} {plan : ClientPlan}
    (h : (launchClients layout count).runOn s = (.ok plan, s')) :
    plan.count = count ∧ plan.script = (s'.params.get? scriptKey).map Path.ofText
      ∧ (0 < count → (s'.params.get? scriptKey).getD "" ≠ "") := by
  have hlast : ∀ t : Session, (read? scriptKey >>= fun script =>
      (pure ⟨count, script.map Path.ofText⟩ : Stage ClientPlan)).runOn t = (.ok plan, s') →
        (0 < count → (t.params.get? scriptKey).getD "" ≠ "") →
          plan.count = count ∧ plan.script = (s'.params.get? scriptKey).map Path.ofText
            ∧ (0 < count → (s'.params.get? scriptKey).getD "" ≠ "") := by
    intro t hrest hscript
    rw [runOn_bind_of_ok (runOn_read? _ _)] at hrest
    obtain ⟨rfl, rfl⟩ := pure_ok hrest
    exact ⟨rfl, rfl, hscript⟩
  unfold launchClients at h
  split at h
  · rw [runOn_bind_of_ok (runOn_read? _ _)] at h
    split at h
    · obtain ⟨⟨⟩, t, hlauncher, h⟩ := bind_ok h
      obtain ⟨d, hd, hstored⟩ := storeLauncher_ok hlauncher
      refine hlast t h fun _ => ?_
      rw [hstored, Option.getD_some]
      exact fun he => hd (Path.text_eq_empty_iff.1 he)
    · rename_i hset
      exact hlast _ h fun _ => hset
  · rename_i hzero
    exact hlast s h fun hpos => absurd hpos hzero

/-- **What is settled about the clients is stored.** -/
theorem settleClients_ok {request : ClientRequest} {plan : ClientPlan}
    (hrun : request.serverOnly = false)
    (h : (settleClients request inputs threads layout).runOn s = (.ok plan, s')) :
    ClientsStored s'.params plan := by
  rw [settleClients_eq hrun] at h
  obtain ⟨⟨⟩, s₁, hlay, h⟩ := bind_ok h
  obtain ⟨count, s₂, hcount, h⟩ := bind_ok h
  obtain ⟨rfl, hreadable, rfl⟩ := readCount?_ok hcount
  obtain ⟨hplan, hscript, hlauncher⟩ := launchClients_ok h
  -- from here on the session only differs in the key of the script
  have hw : Writes (· = scriptKey) s₁ s' :=
    StepRelation.trans (StepRelation.noting _ _) ((moves_writes_launchClients _).step h)
  have hkey : s'.params.get? clientCountKey = s₁.params.get? clientCountKey :=
    hw.get? (by decide +kernel)
  have hhosts : s'.params.get? hostsKey = s₁.params.get? hostsKey := hw.get? (by decide +kernel)
  have hread : s'.params.count? clientCountKey = s₁.params.count? clientCountKey :=
    hw.count? (by decide +kernel)
  refine ⟨?_, ?_, ?_, ?_, hscript.symm⟩
  · rw [hhosts, hkey]
    exact layOutClients_ok hlay
  · rw [hread, hkey]
    exact hreadable
  · rw [hread, hplan]
  · rw [hplan]
    exact hlauncher

/-! ## Settling again -/

section
variable {h : Hierarchy} {files : FileSystem} {plan : ClientPlan}

/-- No launcher is looked up without clients, or where a directory is set for it. -/
theorem answers_launchClients {count : Nat}
    (hkept : count = 0 ∨ (h.get? scriptKey).getD "" ≠ "") :
    Answers (launchClients layout count) h files ⟨count, (h.get? scriptKey).map Path.ofText⟩ := by
  have hlast : Answers (read? scriptKey >>= fun script =>
      (pure ⟨count, script.map Path.ofText⟩ : Stage ClientPlan)) h files
        ⟨count, (h.get? scriptKey).map Path.ofText⟩ :=
    (answers_read? scriptKey).bind (answers_pure _)
  unfold launchClients
  split
  · rename_i hpos
    refine (answers_read? scriptKey).bind ?_
    rw [if_neg (hkept.resolve_left (by omega))]
    exact hlast
  · exact hlast

/-- Nothing is left to be laid out: a number of clients is seen where one is asked for, and hosts
are seen where the run would name them itself. -/
structure LayoutKept (requested : Option Nat) (isDefault : Bool) (h : Hierarchy) : Prop where
  count : requested.isSome → (h.get? clientCountKey).isSome
  hosts : isDefault = true → (h.get? hostsKey).isSome

theorem answers_layOutClients {requested : Option Nat}
    (hk : LayoutKept requested inputs.isDefault h)
    (hhosts : (h.get? hostsKey).isSome → (h.get? clientCountKey).isSome) :
    Answers (layOutClients requested inputs threads) h files () := by
  have hrest : Answers (layOutClients none inputs threads) h files () := by
    refine (answers_read? hostsKey).bind ?_
    cases hseen : h.get? hostsKey with
    | some w =>
      have hcount := hhosts (by rw [hseen]; rfl)
      exact (answers_storeIfMissing hcount).bind (answers_pure ())
    | none =>
      have hfile : ¬ inputs.isDefault = true := fun hdefault => by
        simpa [hseen] using hk.hosts hdefault
      dsimp only
      rw [if_neg hfile]
      exact answers_pure ()
  cases requested with
  | none => exact hrest
  | some n =>
    have hfill : Answers (storeIfMissing clientCountKey (Text.numeral n)) h files false :=
      answers_storeIfMissing (hk.count rfl)
    exact (hfill.bind (answers_pure ())).bind hrest

/-- **Settling again changes nothing**, where nothing is left to be laid out. -/
theorem settleClients_again {request : ClientRequest} (hrun : request.serverOnly = false)
    (hc : ClientsStored h plan) (hk : LayoutKept request.count inputs.isDefault h) :
    Answers (settleClients request inputs threads layout) h files plan := by
  have hkept : plan.count = 0 ∨ (h.get? scriptKey).getD "" ≠ "" :=
    (Nat.eq_zero_or_pos plan.count).imp_right hc.launcher
  have hlaunch : Answers (launchClients layout plan.count) h files _ := answers_launchClients hkept
  rw [hc.script] at hlaunch
  rw [settleClients_eq hrun]
  refine (answers_layOutClients hk hc.hosts).bind ((answers_readCount? hc.readable).bind ?_)
  rw [hc.count]
  exact hlaunch

end

end SieveRun
