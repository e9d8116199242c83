import SieveRun.Proofs.CoreCounting
import SieveRun.Proofs.ThreadPlan

/-!
# At least one core and one thread

Wherever the number of cores comes from, it is one at least: the product of the sockets and their
cores, the processors of a listing and the number that the platform states are all raised to one
(`one_le_coresFrom`). The pretended number alone is taken as it is, so zero cores are counted
exactly where zero is pretended (`physicalCores_eq_zero_iff`).

The server's threads follow. A stored zero counts as none, so the server is left without a thread
where zero cores are counted and their number is what is used (`one_le_plannedServer_iff`).
-/

namespace SieveRun

open Stage Hierarchy Text

variable {s s' : Session} {surroundings : Surroundings} {files : FileSystem} {n : Nat}
  {requested : Option ThreadRequest} {clients : Option Nat} {counts : ThreadCounts}

/-! ## Cores -/

theorem Cores.one_le_coresFrom {processors sockets : Nat} {perSocket : List Nat}
    (h : coresFrom processors sockets perSocket = .ok n) : 1 ≤ n := by
  have hraised : ∀ m, Except.ok (max m 1) = (Except.ok n : Except RunError Nat) → 1 ≤ n := by
    intro m hm
    rw [← Except.ok.inj hm]
    exact Nat.le_max_right m 1
  unfold coresFrom at h
  split at h
  · exact hraised _ h
  · split at h
    · exact hraised _ h
    · exact hraised _ h
  · split at h
    · exact hraised _ h
    · exact absurd h (by simp)

theorem Cores.one_le_of_count {listing : String} (h : Cores.count listing = .ok n) : 1 ≤ n :=
  one_le_coresFrom ((CoreFacts.of_listing listing).count_eq.symm.trans h)

theorem one_le_of_physicalCores (hfake : surroundings.fakeCount? = none)
    (h : physicalCores surroundings files = .ok n) : 1 ≤ n := by
  rw [physicalCores, hfake] at h
  dsimp only at h
  split at h
  · split at h
    · exact absurd h (by simp)
    · exact Cores.one_le_of_count h
  · rw [← Except.ok.inj h]
    exact Nat.le_max_right _ 1

theorem physicalCores_of_fakeCount? (h : surroundings.fakeCount? = some n) (files : FileSystem) :
    physicalCores surroundings files = .ok n := by
  rw [physicalCores, h]

/-- Zero cores are counted only where zero is pretended. -/
theorem physicalCores_eq_zero_iff (files : FileSystem) :
    physicalCores surroundings files = .ok 0 ↔ surroundings.fakeCount? = some 0 := by
  constructor
  · intro h
    cases hfake : surroundings.fakeCount? with
    | none => exact absurd (one_le_of_physicalCores hfake h) (by decide)
    | some m =>
      rw [physicalCores_of_fakeCount? hfake] at h
      rw [Except.ok.inj h]
  · intro hfake
    exact physicalCores_of_fakeCount? hfake files

/-! ## Threads of the server -/

/-- What a read of the server's count sees once it is settled is the count that was planned. -/
theorem settleServerThreads_seen
    (h : (settleServerThreads requested surroundings).runOn s = (.ok (), s'))
    (hseen : s'.params.count? serverThreadsKey = some n) :
    plannedServer (physicalCores surroundings s.files) requested
      (s.params.count? serverThreadsKey) = .ok n := by
  have hstored : ∀ m, s'.params.value? serverThreadsKey = some (numeral m) → m = n := by
    intro m hm
    rw [count?_of_value? hm] at hseen
    exact eq_of_count?_numeral hseen
  have hcores : CoresKept (physicalCores surroundings s.files) s'.params →
      physicalCores surroundings s.files = .ok n := by
    rintro ⟨m, hm, hv⟩
    rw [hm, hstored m hv]
  have hkept := (settleServerThreads_ok h).2
  cases requested with
  | some request =>
    cases request with
    | count m => exact congrArg Except.ok (hstored m hkept)
    | all => exact hcores hkept
  | none =>
    obtain ⟨seen, s₁, hread, h⟩ := bind_ok h
    obtain ⟨rfl, -, rfl⟩ := readCount?_ok hread
    dsimp only at h
    rw [plannedServer]
    split at h
    · rename_i hzero
      have hall := storeAllCores_ok h
      rw [if_pos hzero]
      exact hcores hall
    · -- a count that is not zero was seen, and stays
      rename_i hnonzero
      obtain ⟨-, rfl⟩ := pure_ok h
      rw [Session.noting_params] at hseen
      rw [if_neg hnonzero, hseen]
      rfl

/-- Whoever succeeds in settling the counts settles the server's as planned. -/
theorem settleThreads_server
    (h : (settleThreads requested clients surroundings).runOn s = (.ok counts, s')) :
    plannedServer (physicalCores surroundings s.files) requested
      (s.params.count? serverThreadsKey) = .ok counts.server := by
  obtain ⟨⟨⟩, s₁, hserver, h⟩ := bind_ok h
  obtain ⟨seen, s₂, hseen, h⟩ := bind_ok h
  obtain ⟨⟨⟩, s₃, -, h⟩ := bind_ok h
  obtain ⟨⟨⟩, s₄, -, h⟩ := bind_ok h
  obtain ⟨p, s₅, -, h⟩ := bind_ok h
  obtain ⟨q, s₆, -, h⟩ := bind_ok h
  obtain ⟨rfl, -⟩ := pure_ok h
  obtain ⟨rfl, hsome, -⟩ := readCount?_ok hseen
  have hcount := eq_some_getD (hsome (settleServerThreads_ok hserver).1)
  exact settleServerThreads_seen hserver hcount

/-- A planned count that no flag states is zero only where zero cores are counted and used. -/
theorem one_le_plannedServer_iff {cores : Except RunError Nat} {seen : Option Nat}
    (hflag : ∀ m, requested ≠ some (.count m)) (h : plannedServer cores requested seen = .ok n) :
    1 ≤ n ↔ ¬ (cores = .ok 0 ∧ (requested = some .all ∨ seen.getD 0 = 0)) := by
  have hcores : cores = .ok n → (1 ≤ n ↔ ¬ cores = .ok 0) := by
    rintro rfl
    rw [Except.ok.injEq]
    exact Nat.one_le_iff_ne_zero
  cases requested with
  | some request =>
    cases request with
    | count m => exact absurd rfl (hflag m)
    | all => simpa using hcores h
  | none =>
    rw [plannedServer] at h
    split at h
    · rename_i hzero
      simpa [hzero] using hcores h
    · rename_i hnonzero
      rw [← Except.ok.inj h]
      simpa [hnonzero] using Nat.one_le_iff_ne_zero.2 hnonzero

/-- **At least one core and one server thread**, unless zero cores are pretended. The number of
cores is zero exactly then. And where no flag states the server's threads, they are zero exactly
where in addition the cores are asked for by the flag or a read sees no count, or zero. -/
theorem least_counts_iff (surroundings : Surroundings) :
    (∀ files n, physicalCores surroundings files = .ok n →
      (1 ≤ n ↔ surroundings.fakeCount? ≠ some 0))
    ∧ ∀ requested clients s counts s', (∀ m, requested ≠ some (.count m)) →
      (settleThreads requested clients surroundings).runOn s = (.ok counts, s') →
      (1 ≤ counts.server ↔ ¬ (surroundings.fakeCount? = some 0
        ∧ (requested = some .all ∨ (s.params.count? serverThreadsKey).getD 0 = 0))) := by
  refine ⟨fun files n h => ?_, fun requested clients s counts s' hflag h => ?_⟩
  · rw [ne_eq, ← physicalCores_eq_zero_iff files, h, Except.ok.injEq]
    exact Nat.one_le_iff_ne_zero
  · rw [← physicalCores_eq_zero_iff s.files]
    exact one_le_plannedServer_iff hflag (settleThreads_server h)

/-- Surroundings that pretend a number of cores. -/
def pretending (cores : String) : Surroundings := { fakeCores := some cores }

/-- Three pretended cores are three, and five threads that are stored outside of the tasks are
enough for the server although no core is pretended. -/
theorem leastCounts_kept :
    physicalCores (pretending "3") (sessionWith []).files = .ok 3
      ∧ (pretending "3").fakeCount? ≠ some 0
      ∧ ∃ counts s', (settleThreads none none (pretending "0")).runOn
            (sessionWith [(outerThreadsKey, "5")]) = (.ok counts, s')
          ∧ 1 ≤ counts.server := by
  have hthree : physicalCores (pretending "3") (sessionWith []).files = .ok 3 := by decide +kernel
  have hrun : ((settleThreads none none (pretending "0")).runOn
      (sessionWith [(outerThreadsKey, "5")])).1 = .ok ⟨5, 2, 2⟩ := by decide +kernel
  have hseen : ((sessionWith [(outerThreadsKey, "5")]).params.count? serverThreadsKey).getD 0 ≠ 0 :=
    by decide +kernel
  refine ⟨hthree, ((least_counts_iff _).1 _ _ hthree).1 (by decide), ⟨5, 2, 2⟩, _,
    Prod.ext hrun rfl, ?_⟩
  refine ((least_counts_iff _).2 _ _ _ _ _ (by simp) (Prod.ext hrun rfl)).2 ?_
  rintro ⟨-, hall | hnone⟩
  · exact absurd hall (by simp)
  · exact hseen hnone

/-- A pretended zero is taken for the number of cores, and leaves the server without a thread. -/
theorem zeroCores_counted :
    physicalCores (pretending "0") (sessionWith []).files = .ok 0
      ∧ ((settleThreads none none (pretending "0")).runOn (sessionWith [])).1 = .ok ⟨0, 0, 0⟩
      ∧ ((settleThreads (some .all) none (pretending "0")).runOn (sessionWith [])).1 =
        .ok ⟨0, 0, 0⟩ := by
  decide +kernel

end SieveRun
