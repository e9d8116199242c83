import SieveRun.Proofs.ThreadPlan

/-!
# Given thread counts against stored ones

Counts that are given for the server and for the clients leave nothing to what is stored: the
server's is stored over whatever was there, and so are the families'. But the count that is seen
for the server is read first, whether or not the flags leave anything to it, and a run that
cannot read it goes no further. So given counts win over every stored value but this one
(`given_counts_win_iff`).
-/

namespace SieveRun

open Stage Hierarchy Text

variable {s t : Session} {n k : Nat}

/-- With both counts stored, each family having the one of the clients. -/
def Hierarchy.withThreads (h : Hierarchy) (n clients : Nat) : Hierarchy :=
  ((h.set serverThreadsKey (numeral n)).set polyselectThreadsKey (numeral clients)).set
    sieveThreadsKey (numeral clients)

theorem takes_settleServerThreads_count {h : Hierarchy} {files : FileSystem}
    (surroundings : Surroundings) (hread : h.ReadsCount serverThreadsKey) :
    Takes (settleServerThreads (some (.count n)) surroundings) h files ()
      (h.set serverThreadsKey (numeral n)) := by
  rw [settleServerThreads_eq]
  exact (answers_readAs? hread).takes.bind (takes_store _ _)

/-- Counts that are given are stored and answered, as long as the one that is seen for the
server can be read. -/
theorem takes_settleThreads_given {h : Hierarchy} {files : FileSystem}
    (surroundings : Surroundings) (hn : n < countLimit) (hk : k < countLimit)
    (hread : h.ReadsCount serverThreadsKey) :
    Takes (settleThreads (some (.count n)) (some k) surroundings) h files ⟨n, k, k⟩
      (h.withThreads n k) := by
  have hserver : Answers (readCount? serverThreadsKey) (h.set serverThreadsKey (numeral n)) files
      (some n) := answers_readCount?_of_some (count?_set_numeral _ _ hn)
  have hfamily : ∀ family ∈ familyKeys,
      Answers (readCount? family) (h.withThreads n k) files (some k) := by
    intro family hfamily
    have hv : (h.withThreads n k).value? family = some (numeral k) := by
      rcases List.mem_pair.1 hfamily with rfl | rfl
      · rw [Hierarchy.withThreads, value?_set_ne _ _ (by decide), value?_set_self]
      · rw [Hierarchy.withThreads, value?_set_self]
    exact answers_readCount?_of_some ((count?_of_value? hv).trans (count?_numeral hk))
  refine (takes_settleServerThreads_count surroundings hread).bind (hserver.takes.bind ?_)
  refine (takes_settleFamilyThreads_some k n polyselectThreadsKey).bind ?_
  refine (takes_settleFamilyThreads_some k n sieveThreadsKey).bind ?_
  refine (hfamily polyselectThreadsKey (by decide)).takes.bind ?_
  exact (hfamily sieveThreadsKey (by decide)).takes.bind (answers_pure _).takes

/-- The keys that settling the thread counts reads. -/
def ThreadSource (k : Key) : Prop := k = outerThreadsKey ∨ ThreadKey k

/-- **When given counts win over stored ones.** Whatever two sessions store for the counts, the
flags for the server and for the clients come to the same in both, namely to the counts given,
exactly when neither session sees a server's count that cannot be read. -/
theorem given_counts_win_iff (surroundings : Surroundings) (hn : n < countLimit)
    (hk : k < countLimit) (hst : SameBut ThreadSource s t) :
    (∃ s' t', (settleThreads (some (.count n)) (some k) surroundings).runOn s =
          (.ok ⟨n, k, k⟩, s')
        ∧ (settleThreads (some (.count n)) (some k) surroundings).runOn t = (.ok ⟨n, k, k⟩, t')
        ∧ SameBut (· = outerThreadsKey) s' t') ↔
      s.params.ReadsCount serverThreadsKey ∧ t.params.ReadsCount serverThreadsKey := by
  have hneeds : ∀ {u u' : Session},
      (settleThreads (some (.count n)) (some k) surroundings).runOn u = (.ok ⟨n, k, k⟩, u') →
        u.params.ReadsCount serverThreadsKey := by
    intro u u' hrun
    by_contra hread
    obtain ⟨v, hv, hcount⟩ := not_readsCount_iff.1 hread
    obtain ⟨events, herror⟩ := settleThreads_unreadable hv hcount
    exact absurd (herror.symm.trans hrun) (by simp)
  constructor
  · rintro ⟨s', t', hs, ht, -⟩
    exact ⟨hneeds hs, hneeds ht⟩
  · rintro ⟨hs, ht⟩
    obtain ⟨events, hruns⟩ := takes_settleThreads_given surroundings hn hk hs s rfl rfl
    obtain ⟨more, hrunt⟩ := takes_settleThreads_given surroundings hn hk ht t rfl rfl
    refine ⟨_, _, hruns, hrunt, fun q hq => ?_, hst.files, hst.scratch⟩
    show (t.params.withThreads n k).value? q = (s.params.withThreads n k).value? q
    simp only [Hierarchy.withThreads, value?_set]
    -- the keys that were told apart have been written, all but the outer one
    by_cases hkey : ThreadKey q
    · rcases hkey with rfl | rfl | rfl <;> simp
    · rw [hst.params q (by simp [ThreadSource, hq, hkey])]

/-- What is stored for the families does not matter, however it is spelled. -/
theorem given_counts_win_over_families :
    ∃ s' t', (settleThreads (some (.count 4)) (some 2) {}).runOn
          (sessionWith [(polyselectThreadsKey, "many"), (sieveThreadsKey, "-1")]) =
        (.ok ⟨4, 2, 2⟩, s')
      ∧ (settleThreads (some (.count 4)) (some 2) {}).runOn (sessionWith [(outerThreadsKey, "8")]) =
        (.ok ⟨4, 2, 2⟩, t')
      ∧ SameBut (· = outerThreadsKey) s' t' := by
  have hfour : 4 < countLimit := by decide
  have htwo : 2 < countLimit := by decide
  have hsame : SameBut ThreadSource
      (sessionWith [(polyselectThreadsKey, "many"), (sieveThreadsKey, "-1")])
      (sessionWith [(outerThreadsKey, "8")]) := by
    refine ⟨fun q hq => ?_, rfl, rfl⟩
    simp only [ThreadSource, ThreadKey, not_or] at hq
    simp [sessionWith, Hierarchy.setAll, hq, value?_set]
  refine (given_counts_win_iff {} hfour htwo hsame).2 ⟨?_, ?_⟩
  · intro v hv
    exact absurd (Eq.trans (by decide +kernel) hv : none = some v) (by simp)
  · intro v hv
    have height : some "8" = some v := Eq.trans (by decide +kernel) hv
    rw [← Option.some.inj height]
    decide +kernel

/-- A server's count that cannot be read defeats the flags, and none does not. -/
theorem unreadable_count_defeats_flags :
    ((settleThreads (some (.count 4)) (some 2) {}).runOn
        (sessionWith [(serverThreadsKey, "many")])).1 =
      .error (.params (.invalid "tasks.threads" "many"))
    ∧ passes ((settleThreads (some (.count 4)) (some 2) {}).runOn (sessionWith []))
        (fun counts => decide (counts = ⟨4, 2, 2⟩)) = true
    ∧ SameBut ThreadSource (sessionWith [(serverThreadsKey, "many")]) (sessionWith []) := by
  refine ⟨by decide +kernel, by decide +kernel, fun q hq => ?_, rfl, rfl⟩
  have hserver : q ≠ serverThreadsKey := fun he => hq (.inr (.inl he))
  exact (value?_set_ne _ _ hserver).symm

end SieveRun
