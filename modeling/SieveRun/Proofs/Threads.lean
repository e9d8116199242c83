import SieveRun.Proofs.Changes
import SieveRun.Workers.Threads

/-!
# Thread counts are stored

Settling the thread counts leaves every count where a later run finds it: the server's is
visible and each family has a value at its own key (`ThreadsStored`). With the same flags
and the same number of cores, nothing is left to be stored (`ThreadsKept`), and settling them
again answers the same (`settleThreads_again`). Without flags that is so of any stored counts,
unless the server's is zero, which counts as none.
-/

namespace SieveRun

open Stage Hierarchy Text

variable {s s' : Session} {surroundings : Surroundings}

/-- The keys that hold thread counts. -/
def ThreadKey (k : Key) : Prop :=
  k = serverThreadsKey ∨ k = polyselectThreadsKey ∨ k = sieveThreadsKey

instance : DecidablePred ThreadKey := fun _ => inferInstanceAs (Decidable (_ ∨ _ ∨ _))

/-- The count that a read of `k` sees. -/
def Hierarchy.count? (h : Hierarchy) (k : Key) : Option Nat :=
  (h.get? k).bind fun v => Text.count? v.toList

theorem answers_readCount? {h : Hierarchy} {files : FileSystem} {k : Key}
    (hall : (h.get? k).isSome → (h.count? k).isSome) :
    Answers (readCount? k) h files (h.count? k) := by
  refine answers_readAs? fun v hv => ?_
  have hcount := hall (by rw [hv]; rfl)
  rwa [Hierarchy.count?, hv] at hcount

theorem answers_readCount?_of_some {h : Hierarchy} {files : FileSystem} {k : Key} {n : Nat}
    (hn : h.count? k = some n) : Answers (readCount? k) h files (some n) := by
  rw [← hn]
  exact answers_readCount? fun _ => by rw [hn]; rfl

theorem readCount?_ok {k : Key} {x : Option Nat} (h : (readCount? k).runOn s = (.ok x, s')) :
    x = s.params.count? k ∧ ((s.params.get? k).isSome → x.isSome)
      ∧ s' = s.noting (readNotes s.params k) := by
  obtain ⟨hx, hall, hs⟩ := readAs?_ok h
  refine ⟨hx, fun hsome => ?_, hs⟩
  obtain ⟨v, hv⟩ := Option.isSome_iff_exists.1 hsome
  rw [hx, hv]
  exact hall v hv

/-- A count none of whose sources may be written. -/
theorem Writes.count? {may : Key → Prop} (h : Writes may s s') {k : Key}
    (hk : ∀ source ∈ k.sources, ¬ may source) : s'.params.count? k = s.params.count? k := by
  rw [Hierarchy.count?, Hierarchy.count?, h.get? hk]

theorem eq_some_getD {x : Option Nat} (h : x.isSome) : x = some (x.getD 0) := by
  obtain ⟨n, rfl⟩ := Option.isSome_iff_exists.1 h
  rfl

/-! ## What is written -/

section
variable {R : Session → Session → Prop} [WriteRelation R]

theorem moves_storeAllCores (h : ∀ v, Moves R (store serverThreadsKey v)) :
    Moves R (storeAllCores surroundings) := by
  refine moves_get.bind fun s => ?_
  split
  · exact moves_throw _
  · exact (moves_note rfl).bind fun _ => h _

theorem moves_settleServerThreads (h : ∀ v, Moves R (store serverThreadsKey v))
    (requested : Option ThreadRequest) :
    Moves R (settleServerThreads requested surroundings) := by
  refine (moves_readAs? _ _).bind fun _ => ?_
  split
  · exact h _
  · exact moves_storeAllCores h
  · dsimp only
    split
    · exact moves_storeAllCores h
    · exact moves_pure _

theorem moves_settleFamilyThreads {family : Key} (h : ∀ v, Moves R (store family v))
    (requested : Option Nat) (server : Nat) :
    Moves R (settleFamilyThreads requested server family) := by
  have hnote : Moves R (read? family >>= fun v => note (.familyThreads family.text (v.getD ""))) :=
    (moves_read? _).bind fun _ => moves_note rfl
  cases requested with
  | some n => exact (h _).bind fun _ => hnote
  | none =>
    refine moves_get.bind fun s => ?_
    split
    · exact (h _).bind fun _ => hnote
    · exact hnote

theorem moves_settleThreads (h : ∀ k v, ThreadKey k → k.isWellFormed = true → Moves R (store k v))
    (server : Option ThreadRequest) (clients : Option Nat) :
    Moves R (settleThreads server clients surroundings) := by
  have hserver : ∀ v, Moves R (store serverThreadsKey v) := fun v =>
    h _ v (.inl rfl) (by decide +kernel)
  have hpolyselect : ∀ v, Moves R (store polyselectThreadsKey v) := fun v =>
    h _ v (.inr (.inl rfl)) (by decide +kernel)
  have hsieve : ∀ v, Moves R (store sieveThreadsKey v) := fun v =>
    h _ v (.inr (.inr rfl)) (by decide +kernel)
  refine (moves_settleServerThreads hserver server).bind fun _ => (moves_readAs? _ _).bind fun _ => ?_
  refine (moves_settleFamilyThreads hpolyselect _ _).bind fun _ => ?_
  refine (moves_settleFamilyThreads hsieve _ _).bind fun _ => ?_
  exact (moves_readAs? _ _).bind fun _ => (moves_readAs? _ _).bind fun _ => moves_pure _

end

theorem moves_writes_settleFamilyThreads (requested : Option Nat) (server : Nat) (family : Key) :
    Moves (Writes (· = family)) (settleFamilyThreads requested server family) :=
  moves_settleFamilyThreads (fun v => moves_writes_store (by rfl) v) requested server

theorem moves_writes_settleThreads (server : Option ThreadRequest) (clients : Option Nat) :
    Moves (Writes ThreadKey) (settleThreads server clients surroundings) :=
  moves_settleThreads (fun _ v hk _ => moves_writes_store hk v) server clients

theorem moves_grows_settleThreads (server : Option ThreadRequest) (clients : Option Nat) :
    Moves Grows (settleThreads server clients surroundings) :=
  moves_settleThreads (fun _ v _ hk => moves_grows_store hk v) server clients

/-! ## What is stored in the end -/

/-- The thread counts are where a later run finds them: the server's is visible, and each
family has one of its own. -/
structure ThreadsStored (h : Hierarchy) (counts : ThreadCounts) : Prop where
  server : h.count? serverThreadsKey = some counts.server
  polyselect : h.count? polyselectThreadsKey = some counts.polyselect
  ownPolyselect : (h.value? polyselectThreadsKey).isSome
  sieve : h.count? sieveThreadsKey = some counts.sieve
  ownSieve : (h.value? sieveThreadsKey).isSome

/-- The number of cores is stored for the server. -/
def CoresKept (cores : Except RunError Nat) (h : Hierarchy) : Prop :=
  ∃ n, cores = .ok n ∧ h.value? serverThreadsKey = some (numeral n)

/-- What settling the server's count would store is stored: the count of the flag, or the number
of cores, where that is asked for or no count is seen. -/
def ServerKept (cores : Except RunError Nat) (h : Hierarchy) : Option ThreadRequest → Prop
  | some (.count n) => h.value? serverThreadsKey = some (numeral n)
  | some .all => CoresKept cores h
  | none => (h.count? serverThreadsKey).getD 0 = 0 → CoresKept cores h

/-- What settling a family's count would store is stored. -/
def FamilyKept (h : Hierarchy) (family : Key) : Option Nat → Prop
  | some n => h.value? family = some (numeral n)
  | none => (h.value? family).isSome

/-- Nothing is left to be stored about the thread counts. -/
structure ThreadsKept (cores : Except RunError Nat) (requested : Option ThreadRequest)
    (clients : Option Nat) (h : Hierarchy) : Prop where
  server : ServerKept cores h requested
  polyselect : FamilyKept h polyselectThreadsKey clients
  sieve : FamilyKept h sieveThreadsKey clients

theorem FamilyKept.isSome {h : Hierarchy} {family : Key} {clients : Option Nat}
    (hk : FamilyKept h family clients) : (h.value? family).isSome := by
  cases clients with
  | none => exact hk
  | some n =>
    have hv : h.value? family = some (numeral n) := hk
    rw [hv]
    rfl

theorem FamilyKept.congr {h h' : Hierarchy} {family : Key} {clients : Option Nat}
    (hk : FamilyKept h family clients) (hvalue : h'.value? family = h.value? family) :
    FamilyKept h' family clients := by
  cases clients with
  | none =>
    show (h'.value? family).isSome
    rw [hvalue]
    exact hk
  | some n => exact hvalue.trans hk

theorem ServerKept.congr {cores : Except RunError Nat} {h h' : Hierarchy}
    {requested : Option ThreadRequest} (hk : ServerKept cores h requested)
    (hvalue : h'.value? serverThreadsKey = h.value? serverThreadsKey)
    (hcount : h'.count? serverThreadsKey = h.count? serverThreadsKey) :
    ServerKept cores h' requested := by
  have hcores : CoresKept cores h → CoresKept cores h' := by
    rintro ⟨n, hn, hv⟩
    exact ⟨n, hn, hvalue.trans hv⟩
  cases requested with
  | none => exact fun hzero => hcores (hk (by rwa [← hcount]))
  | some request =>
    cases request with
    | count n => exact hvalue.trans hk
    | all => exact hcores hk

theorem storeAllCores_ok (h : (storeAllCores surroundings).runOn s = (.ok (), s')) :
    CoresKept (physicalCores surroundings s.files) s'.params := by
  rw [storeAllCores, runOn_bind_of_ok (runOn_get _)] at h
  split at h
  · exact absurd h (by simp)
  · rename_i n hcores
    rw [runOn_bind_of_ok (runOn_note _ _)] at h
    obtain ⟨-, rfl⟩ := Prod.mk.inj h
    exact ⟨n, hcores, by simp⟩

theorem isSome_get?_of_value? {h : Hierarchy} {k : Key} (hk : (h.value? k).isSome) :
    (h.get? k).isSome := by
  obtain ⟨v, hv⟩ := Option.isSome_iff_exists.1 hk
  rw [get?_of_value? hv]
  rfl

theorem CoresKept.isSome_get? {cores : Except RunError Nat} {h : Hierarchy}
    (hk : CoresKept cores h) : (h.get? serverThreadsKey).isSome := by
  obtain ⟨n, -, hv⟩ := hk
  exact isSome_get?_of_value? (by rw [hv]; rfl)

theorem settleServerThreads_ok {requested : Option ThreadRequest}
    (h : (settleServerThreads requested surroundings).runOn s = (.ok (), s')) :
    (s'.params.get? serverThreadsKey).isSome
      ∧ ServerKept (physicalCores surroundings s.files) s'.params requested := by
  obtain ⟨current, s₁, hread, h⟩ := bind_ok h
  obtain ⟨hcurrent, -, rfl⟩ := readCount?_ok hread
  split at h
  · obtain ⟨-, rfl⟩ := Prod.mk.inj h
    exact ⟨isSome_get?_of_value? (by simp), value?_set_self s.params _ _⟩
  · have hcores := storeAllCores_ok h
    exact ⟨hcores.isSome_get?, hcores⟩
  · dsimp only at h
    split at h
    · have hcores := storeAllCores_ok h
      exact ⟨hcores.isSome_get?, fun _ => hcores⟩
    · -- a count that is not zero was seen
      rename_i hzero
      obtain ⟨-, rfl⟩ := pure_ok h
      rw [hcurrent] at hzero
      refine ⟨?_, fun hseen => absurd hseen hzero⟩
      rw [Hierarchy.count?] at hzero
      cases hv : s.params.get? serverThreadsKey with
      | none => rw [hv] at hzero; exact absurd rfl hzero
      | some v => simp [hv]

theorem settleFamilyThreads_ok {requested : Option Nat} {server : Nat} {family : Key}
    (h : (settleFamilyThreads requested server family).runOn s = (.ok (), s')) :
    FamilyKept s'.params family requested := by
  have hnote : ∀ s₁ : Session, FamilyKept s₁.params family requested →
      (read? family >>= fun v => note (.familyThreads family.text (v.getD ""))).runOn s₁ =
        (.ok (), s') → FamilyKept s'.params family requested := by
    intro s₁ hs₁ hrun
    rw [runOn_bind_of_ok (runOn_read? _ _)] at hrun
    obtain ⟨-, rfl⟩ := Prod.mk.inj hrun
    exact hs₁
  cases requested with
  | some n =>
    obtain ⟨⟨⟩, s₁, hstore, h⟩ := bind_ok h
    obtain ⟨-, rfl⟩ := Prod.mk.inj hstore
    refine hnote _ ?_ h
    exact value?_set_self s.params family (numeral n)
  | none =>
    rw [settleFamilyThreads, runOn_bind_of_ok (runOn_get _)] at h
    split at h
    · obtain ⟨⟨⟩, s₁, hstore, h⟩ := bind_ok h
      obtain ⟨-, rfl⟩ := Prod.mk.inj hstore
      exact hnote _ (by simp [FamilyKept]) h
    · rename_i horigin
      exact hnote _ (origin?_eq_self_iff.1 (by simpa using horigin)) h

/-- **Every thread count is stored**, and there is nothing left to be stored. -/
theorem settleThreads_ok {requested : Option ThreadRequest} {clients : Option Nat}
    {counts : ThreadCounts}
    (h : (settleThreads requested clients surroundings).runOn s = (.ok counts, s')) :
    ThreadsStored s'.params counts
      ∧ ThreadsKept (physicalCores surroundings s.files) requested clients s'.params := by
  obtain ⟨⟨⟩, s₁, hserver, h⟩ := bind_ok h
  obtain ⟨n, s₂, hn, h⟩ := bind_ok h
  obtain ⟨⟨⟩, s₃, hpolyselect, h⟩ := bind_ok h
  obtain ⟨⟨⟩, s₄, hsieve, h⟩ := bind_ok h
  obtain ⟨p, s₅, hp, h⟩ := bind_ok h
  obtain ⟨q, s₆, hq, h⟩ := bind_ok h
  obtain ⟨rfl, rfl⟩ := pure_ok h
  obtain ⟨rfl, hnsome, rfl⟩ := readCount?_ok hn
  obtain ⟨rfl, hpsome, rfl⟩ := readCount?_ok hp
  obtain ⟨rfl, hqsome, rfl⟩ := readCount?_ok hq
  simp only [Session.noting_params] at hpsome hqsome ⊢
  have hwp := (moves_writes_settleFamilyThreads _ _ _).step hpolyselect
  have hws := (moves_writes_settleFamilyThreads _ _ _).step hsieve
  obtain ⟨hseen, hkept⟩ := settleServerThreads_ok hserver
  -- neither family's key is a source of the server's, and they are no sources of each other
  have hcount : s₄.params.count? serverThreadsKey = s₁.params.count? serverThreadsKey := by
    rw [hws.count? (by decide +kernel), hwp.count? (by decide +kernel)]
    rfl
  have hvalue : s₄.params.value? serverThreadsKey = s₁.params.value? serverThreadsKey := by
    rw [hws.params _ (by decide), hwp.params _ (by decide)]
    rfl
  have hkeptp : FamilyKept s₄.params polyselectThreadsKey clients :=
    (settleFamilyThreads_ok hpolyselect).congr (hws.params _ (by decide))
  have hkepts : FamilyKept s₄.params sieveThreadsKey clients := settleFamilyThreads_ok hsieve
  refine ⟨⟨?_, ?_, hkeptp.isSome, ?_, hkepts.isSome⟩, hkept.congr hvalue hcount, hkeptp, hkepts⟩
  · rw [hcount]
    exact eq_some_getD (hnsome hseen)
  · exact eq_some_getD (hpsome (isSome_get?_of_value? hkeptp.isSome))
  · exact eq_some_getD (hqsome (isSome_get?_of_value? hkepts.isSome))

/-! ## Settling again -/

section
variable {h : Hierarchy} {files : FileSystem} {requested : Option ThreadRequest}
  {clients : Option Nat}

theorem storeAllCores_again (hk : CoresKept (physicalCores surroundings files) h) :
    Answers (storeAllCores surroundings) h files () := by
  obtain ⟨n, hcores, hv⟩ := hk
  refine answers_get_bind fun s _ hfiles => ?_
  rw [hfiles, hcores]
  exact (answers_note _).bind (answers_store hv)

theorem settleServerThreads_again {n : Nat} (hn : h.count? serverThreadsKey = some n)
    (hk : ServerKept (physicalCores surroundings files) h requested) :
    Answers (settleServerThreads requested surroundings) h files () := by
  refine (answers_readCount?_of_some hn).bind ?_
  cases requested with
  | some request =>
    cases request with
    | count m => exact answers_store hk
    | all => exact storeAllCores_again hk
  | none =>
    dsimp only
    split
    · rename_i hzero
      exact storeAllCores_again (hk (by rwa [hn]))
    · exact answers_pure ()

/-- A family's count is noted, and nothing else is done about it. -/
theorem answers_noteFamily (h : Hierarchy) (files : FileSystem) (family : Key) :
    Answers (read? family >>= fun v => note (.familyThreads family.text (v.getD ""))) h files () :=
  (answers_read? family).bind (answers_note _)

theorem settleFamilyThreads_again (server : Nat) {family : Key} (hk : FamilyKept h family clients) :
    Answers (settleFamilyThreads clients server family) h files () := by
  cases clients with
  | some n => exact (answers_store hk).bind (answers_noteFamily h files family)
  | none =>
    refine answers_get_bind fun s hs _ => ?_
    rw [hs, if_neg (by simpa using origin?_eq_self_iff.2 hk)]
    exact answers_noteFamily h files family

/-- **Settling again changes nothing.** Where all counts are stored and nothing is left to be
stored, settling answers the counts and stores nothing. -/
theorem settleThreads_again {counts : ThreadCounts} (hc : ThreadsStored h counts)
    (hk : ThreadsKept (physicalCores surroundings files) requested clients h) :
    Answers (settleThreads requested clients surroundings) h files counts := by
  refine (settleServerThreads_again hc.server hk.server).bind ?_
  refine (answers_readCount?_of_some hc.server).bind ?_
  refine (settleFamilyThreads_again _ hk.polyselect).bind ?_
  refine (settleFamilyThreads_again _ hk.sieve).bind ?_
  refine (answers_readCount?_of_some hc.polyselect).bind ?_
  exact (answers_readCount?_of_some hc.sieve).bind (answers_pure _)

/-- Without flags there is nothing left to be stored, unless the server's count is zero. -/
theorem ThreadsStored.kept {counts : ThreadCounts} (hc : ThreadsStored h counts)
    (hzero : counts.server ≠ 0) (cores : Except RunError Nat) : ThreadsKept cores none none h := by
  refine ⟨fun hnone => ?_, hc.ownPolyselect, hc.ownSieve⟩
  rw [hc.server] at hnone
  exact absurd hnone hzero

end

end SieveRun
