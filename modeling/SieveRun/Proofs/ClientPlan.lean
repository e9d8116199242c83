import SieveRun.Proofs.Clients
import SieveRun.Proofs.Inheritance

/-!
# The plan of the clients against the parameters

The clients of a run are described twice: by the plan that is handed on, and by the parameters,
where a later reader looks them up. The two should say the same (`ClientPlan.SeenIn`).

A plan that was laid out is read off the parameters in the end, so it does. A bare server hands
on the empty plan without a look at the parameters. It forgets what is stored among the client
parameters, but a read from there also sees what is stored under the same name outside, and
that stays. So the two may differ, and `clientPlan_seenIn_iff` says when.
-/

namespace SieveRun

open Stage Hierarchy

variable {s s' : Session} {request : ClientRequest} {inputs : DecidedInputs}
  {threads : ThreadCounts} {layout : Layout} {plan : ClientPlan}

/-- The plan is what reads of the parameters see: a number of clients, or none at all, and the
directory of their script, if there is one. -/
structure ClientPlan.SeenIn (plan : ClientPlan) (h : Hierarchy) : Prop where
  count : ∀ v, h.get? clientCountKey = some v → Text.count? v.toList = some plan.count
  noCount : h.get? clientCountKey = none → plan.count = 0
  script : (h.get? scriptKey).map Path.ofText = plan.script

/-! ## A plan that was laid out -/

theorem ClientsStored.seenIn {h : Hierarchy} (hc : ClientsStored h plan) : plan.SeenIn h := by
  refine ⟨fun v hv => ?_, fun hnone => ?_, hc.script⟩
  · have hreadable := hc.readable (by rw [hv]; rfl)
    have hcount := hc.count
    rw [eq_some_getD hreadable] at hcount
    have hseen : h.count? clientCountKey = Text.count? v.toList := by
      rw [Hierarchy.count?, hv]
      rfl
    rw [← hseen, eq_some_getD hreadable]
    exact congrArg some hcount
  · rw [← hc.count, Hierarchy.count?, hnone]
    rfl

/-! ## A bare server -/

/-- Where a number of clients is inherited from. -/
def outerCountKey : Key := ⟨[], "nrclients"⟩

/-- Where the directory of the script is inherited from. -/
def outerScriptKey : Key := ⟨[], "scriptpath"⟩

theorem settleClients_serverOnly_ok (hserver : request.serverOnly = true)
    (h : (settleClients request inputs threads layout).runOn s = (.ok plan, s')) :
    plan = {} ∧ s'.params = s.params.removeUnder clientSpace := by
  rw [settleClients, if_pos hserver] at h
  obtain ⟨⟨⟩, s₁, hdrop, h⟩ := bind_ok h
  obtain ⟨rfl, rfl⟩ := pure_ok h
  obtain ⟨-, rfl⟩ := Prod.mk.inj hdrop
  exact ⟨rfl, rfl⟩

/-- A client parameter that was forgotten is still read where it is stored outside. -/
theorem get?_forgotten (h : Hierarchy) (leaf : String) :
    (h.removeUnder clientSpace).get? ⟨clientSpace, leaf⟩ = h.value? ⟨[], leaf⟩ := by
  have hunder : Key.isUnder clientSpace ⟨clientSpace, leaf⟩ = true :=
    isUnder_iff.2 (List.prefix_refl _)
  rw [get?_removeUnder h (by decide), if_pos hunder, ← get?_root]
  rfl

/-- The empty plan is seen where nothing is stored outside but, perhaps, a zero. -/
theorem emptyPlan_seenIn_iff (h : Hierarchy) :
    ClientPlan.SeenIn {} (h.removeUnder clientSpace) ↔
      (∀ v, h.value? outerCountKey = some v → Text.count? v.toList = some 0)
        ∧ h.value? outerScriptKey = none := by
  have hcount : (h.removeUnder clientSpace).get? clientCountKey = h.value? outerCountKey :=
    get?_forgotten h _
  have hscript : (h.removeUnder clientSpace).get? scriptKey = h.value? outerScriptKey :=
    get?_forgotten h _
  constructor
  · intro hseen
    obtain ⟨hzero, -, hnone⟩ := hseen
    rw [hcount] at hzero
    rw [hscript] at hnone
    exact ⟨hzero, Option.map_eq_none_iff.1 hnone⟩
  · intro hout
    obtain ⟨hzero, hnone⟩ := hout
    refine ⟨?_, fun _ => rfl, ?_⟩
    · rw [hcount]
      exact hzero
    · rw [hscript, hnone]
      rfl

/-! ## Both -/

/-- **When the plan is what the parameters say.** Clients that were laid out are always seen in
the parameters as they were planned. A bare server is seen to start no clients exactly when no
directory of their script, and no number of them but zero, is stored outside of the client
parameters, where a read of these inherits from. -/
theorem clientPlan_seenIn_iff
    (h : (settleClients request inputs threads layout).runOn s = (.ok plan, s')) :
    plan.SeenIn s'.params ↔
      (request.serverOnly = true →
        (∀ v, s.params.value? outerCountKey = some v → Text.count? v.toList = some 0)
          ∧ s.params.value? outerScriptKey = none) := by
  by_cases hserver : request.serverOnly = true
  · obtain ⟨rfl, hparams⟩ := settleClients_serverOnly_ok hserver h
    rw [hparams, emptyPlan_seenIn_iff]
    exact ⟨fun hout _ => hout, fun hout => hout hserver⟩
  · have hstored := settleClients_ok (by simpa using hserver) h
    exact ⟨fun _ hbare => absurd hbare hserver, fun _ => hstored.seenIn⟩

/-- The clients of a run that has these parameters and no files. -/
def clientsOver (request : ClientRequest) (parameters : List (Key × String)) :
    Except RunError ClientPlan × Session :=
  (settleClients request ⟨⟨5⟩, .ofText "/f", false, .ofText "/w"⟩ ⟨4, 2, 2⟩
    ⟨.ofText "/data", .ofText "/lib", .ofText "/bin", none⟩).runOn
      ((Session.ofFiles ⟨[], []⟩).withParams (Hierarchy.empty.setAll parameters))

/-- A bare server forgets three clients, and sees the zero that was stored outside; without
the flag, two clients and their script are inherited from there. -/
theorem clientsOver_seenIn :
    (∃ plan s', clientsOver { serverOnly := true } [(outerCountKey, "00"), (clientCountKey, "3")] =
        (.ok plan, s') ∧ s'.params.get? clientCountKey = some "00" ∧ plan.SeenIn s'.params)
      ∧ ∃ plan s', clientsOver {} [(outerCountKey, "2"), (outerScriptKey, "/x")] = (.ok plan, s')
        ∧ plan = ⟨2, some (.ofText "/x")⟩ ∧ plan.SeenIn s'.params := by
  constructor
  · have htest : passes (clientsOver { serverOnly := true }
        [(outerCountKey, "00"), (clientCountKey, "3")]) (fun plan => plan == {}) = true := by
      decide +kernel
    obtain ⟨plan, s', hrun, -⟩ := exists_ok_of_passes htest
    have hread := (settleClients_serverOnly_ok rfl hrun).2
    refine ⟨plan, s', hrun, ?_, (clientPlan_seenIn_iff hrun).2 fun _ => ⟨fun v hv => ?_, ?_⟩⟩
    · rw [hread]
      decide +kernel
    · have hstored : some "00" = some v := Eq.trans (by decide +kernel) hv
      rw [← Option.some.inj hstored]
      decide +kernel
    · decide +kernel
  · have htest : passes (clientsOver {} [(outerCountKey, "2"), (outerScriptKey, "/x")])
        (fun plan => decide (plan = ⟨2, some (.ofText "/x")⟩)) = true := by decide +kernel
    obtain ⟨plan, s', hrun, hplan⟩ := exists_ok_of_passes htest
    have hseen := (clientPlan_seenIn_iff hrun).2 fun hbare => absurd hbare (by decide)
    exact ⟨plan, s', hrun, of_decide_eq_true hplan, hseen⟩

/-- A bare server plans no clients, and three of them are seen in its parameters. -/
theorem clientsOver_unseen :
    ∃ plan s', clientsOver { serverOnly := true } [(outerCountKey, "3")] = (.ok plan, s')
      ∧ plan.count = 0
      ∧ s'.params.get? clientCountKey = some "3"
      ∧ ¬ plan.SeenIn s'.params := by
  have htest : passes (clientsOver { serverOnly := true } [(outerCountKey, "3")])
      (fun plan => plan == {}) = true := by decide +kernel
  obtain ⟨plan, s', hrun, -⟩ := exists_ok_of_passes htest
  obtain ⟨rfl, hparams⟩ := settleClients_serverOnly_ok rfl hrun
  have hread : s'.params.get? clientCountKey = some "3" := by
    rw [hparams]
    decide +kernel
  refine ⟨{}, s', hrun, rfl, hread, fun hseen => ?_⟩
  exact absurd (hseen.count "3" hread) (by decide +kernel)

end SieveRun
