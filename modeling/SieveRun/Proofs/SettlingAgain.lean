import SieveRun.Proofs.ClientPlan
import SieveRun.Proofs.Launcher

/-!
# Settling the workers again

The thread counts are settled first and then the clients that they are for. Both stages look at
what is stored before they store anything: a family's count is inherited or its own, hosts are
seen or not, the script has a directory or has to be looked up. A first run changes all of this,
so a second one goes other ways. It still comes to the same, because what it would store is what
the first one stored (`ThreadsKept`, `LayoutKept`), or there is nothing left to be dropped.
-/

namespace SieveRun

open Stage Hierarchy Text

variable {s s' : Session} {requested : Option ThreadRequest} {clients : Option Nat}
  {surroundings : Surroundings} {request : ClientRequest} {inputs : DecidedInputs}
  {threads : ThreadCounts} {layout : Layout} {plan : ClientPlan} {h h' : Hierarchy}
  {files : FileSystem}

/-- Settle the thread counts, and then the clients that they are for. -/
def settleWorkers (requested : Option ThreadRequest) (clients : Option Nat)
    (surroundings : Surroundings) (request : ClientRequest) (inputs : DecidedInputs)
    (layout : Layout) : Stage (ThreadCounts × ClientPlan) := do
  let threads ← settleThreads requested clients surroundings
  let plan ← settleClients request inputs threads layout
  pure (threads, plan)

/-! ## A bare server -/

theorem takes_dropClients : Takes dropClients h files () (h.removeUnder clientSpace) := by
  intro s hs _
  subst hs
  exact ⟨_, rfl⟩

/-- What was dropped is not there to be dropped again. -/
theorem settleClients_serverOnly_again (hserver : request.serverOnly = true) :
    Answers (settleClients request inputs threads layout) (h.removeUnder clientSpace) files {} := by
  have hdrop : Takes dropClients (h.removeUnder clientSpace) files () _ := takes_dropClients
  rw [removeUnder_removeUnder] at hdrop
  rw [settleClients, if_pos hserver]
  exact hdrop.answers.bind (answers_pure _)

/-! ## Clients that were laid out -/

theorem ClientsLaidOut.layoutKept (hl : ClientsLaidOut request.count inputs threads h h') :
    LayoutKept request.count inputs.isDefault h' := by
  constructor
  · intro hrequested
    obtain ⟨n, hn⟩ := Option.isSome_iff_exists.1 hrequested
    rw [hl.count.seen, hn]
    cases h.get? clientCountKey <;> rfl
  · intro hdefault
    rw [hl.hosts.seen]
    cases h.get? hostsKey with
    | some w => rfl
    | none => rw [if_pos ⟨rfl, hdefault⟩]; rfl

/-- Nothing is left to be laid out after a run. -/
theorem settleClients_layoutKept (hrun : request.serverOnly = false)
    (h : (settleClients request inputs threads layout).runOn s = (.ok plan, s')) :
    LayoutKept request.count inputs.isDefault s'.params := by
  obtain ⟨events, hlay⟩ := takes_layOutClients request.count inputs threads s rfl rfl
  have hkept := (clientsLaidOut_fillAll request.count inputs threads s.params).layoutKept
  rw [settleClients_eq hrun, runOn_bind_of_ok hlay] at h
  obtain ⟨count, s₁, hcount, h⟩ := bind_ok h
  obtain ⟨-, -, rfl⟩ := readCount?_ok hcount
  -- the directory of the script is read from elsewhere
  have hw := (moves_writes_launchClients _).step h
  refine ⟨fun hrequested => ?_, fun hdefault => ?_⟩
  · rw [hw.get? (by decide +kernel)]
    exact hkept.count hrequested
  · rw [hw.get? (by decide +kernel)]
    exact hkept.hosts hdefault

/-- Settling the clients on what a run left answers the plan of that run. -/
theorem answers_settleClients
    (h : (settleClients request inputs threads layout).runOn s = (.ok plan, s')) :
    Answers (settleClients request inputs threads layout) s'.params files plan := by
  by_cases hserver : request.serverOnly = true
  · obtain ⟨rfl, hparams⟩ := settleClients_serverOnly_ok hserver h
    rw [hparams]
    exact settleClients_serverOnly_again hserver
  · have hrun : request.serverOnly = false := by simpa using hserver
    exact settleClients_again hrun (settleClients_ok hrun h) (settleClients_layoutKept hrun h)

/-! ## Both stages -/

/-- **Settling the workers is idempotent.** A run that succeeds leaves the files alone. With the
same flags, inputs and layout and as many cores, a run on the parameters that it left succeeds
with the same counts and the same plan, and it changes nothing. -/
theorem settleWorkers_again
    (hrun : (settleWorkers requested clients surroundings request inputs layout).runOn s =
      (.ok (threads, plan), s')) :
    s'.files = s.files
      ∧ ∀ t : Session, t.params = s'.params →
        physicalCores surroundings t.files = physicalCores surroundings s.files →
        ∃ events, (settleWorkers requested clients surroundings request inputs layout).runOn t =
          (.ok (threads, plan), t.noting events) := by
  obtain ⟨counts, s₁, hthreads, hrun⟩ := bind_ok hrun
  obtain ⟨clientPlan, s₂, hclients, hrun⟩ := bind_ok hrun
  obtain ⟨hresult, rfl⟩ := pure_ok hrun
  obtain ⟨rfl, rfl⟩ := Prod.mk.inj hresult
  have hw := (moves_writes_settleClients _).step hclients
  refine ⟨hw.files.trans ((moves_writes_settleThreads _ _).step hthreads).files, ?_⟩
  intro t hparams hcores
  -- the clients leave what is stored about the threads
  obtain ⟨hstored, hkept⟩ := settleThreads_ok hthreads
  rw [← hcores] at hkept
  have hsettled : Answers (settleThreads requested clients surroundings) s₂.params t.files counts :=
    settleThreads_again (hstored.of_writes hw) (hkept.of_writes hw)
  have hplanned : Answers (settleClients request inputs counts layout) s₂.params t.files
      clientPlan := answers_settleClients hclients
  exact hsettled.bind (hplanned.bind (answers_pure (counts, clientPlan))) t hparams rfl

/-- The first run counts three cores, gives two of them to each family and lays out two clients.
The second one finds a count of their own for the families, hosts that are named, and a
directory for the script, and it needs none of the files. -/
theorem shippedWorkers_again :
    ∃ s' events,
      (settleWorkers none none { fakeCores := some "3" } {} ⟨⟨5⟩, .ofText "/f", true, .ofText "/w"⟩
          ⟨.ofText "/data", .ofText "/lib", .ofText "/b", none⟩).runOn launcherSession =
        (.ok (⟨3, 2, 2⟩, ⟨2, some (.ofText "/b")⟩), s')
      ∧ (settleWorkers none none { fakeCores := some "3" } {}
          ⟨⟨5⟩, .ofText "/f", true, .ofText "/w"⟩
          ⟨.ofText "/data", .ofText "/lib", .ofText "/b", none⟩).runOn
            { s' with files := ⟨[], []⟩ } =
        (.ok (⟨3, 2, 2⟩, ⟨2, some (.ofText "/b")⟩),
          ({ s' with files := ⟨[], []⟩ } : Session).noting events) := by
  have htest : passes ((settleWorkers none none { fakeCores := some "3" } {}
      ⟨⟨5⟩, .ofText "/f", true, .ofText "/w"⟩
      ⟨.ofText "/data", .ofText "/lib", .ofText "/b", none⟩).runOn launcherSession)
        (fun settled => decide (settled = (⟨3, 2, 2⟩, ⟨2, some (.ofText "/b")⟩))) = true := by
    decide +kernel
  obtain ⟨settled, s', hrun, hsettled⟩ := exists_ok_of_passes htest
  obtain rfl := of_decide_eq_true hsettled
  obtain ⟨-, hagain⟩ := settleWorkers_again hrun
  obtain ⟨events, hsecond⟩ := hagain { s' with files := ⟨[], []⟩ } rfl rfl
  exact ⟨s', events, hrun, hsecond⟩

end SieveRun
