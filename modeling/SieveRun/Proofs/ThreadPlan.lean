import SieveRun.Proofs.Independence
import SieveRun.Proofs.Spelling
import SieveRun.Proofs.Threads

/-!
# Which thread counts are settled

What the counts come to can be said without a session. The server's count is a function of the
flag, of the count that a read sees, and of the number of cores (`plannedServer`); a family's
is a function of the flag for clients, of the value at the family's own key, and of the server's
count (`plannedFamily`). Settling the counts stores these numbers and nothing else
(`settleThreads_planned`).

It fails in three ways. The count that is seen for the server is interpreted before anything is
stored, and the cores are counted before; a family's own value is only interpreted in the end,
when the counts are read back.
-/

namespace SieveRun

open Stage Hierarchy Text

variable {s s' t : Session} {surroundings : Surroundings} {requested : Option ThreadRequest}
  {clients : Option Nat} {family : Key} {n server : Nat} {e : RunError} {v : String}

/-! ## What the counts come to -/

/-- The server's count: the one of the flag, else the one that is seen, where zero counts as
none, else the number of cores, which is also what `all` asks for. -/
def plannedServer (cores : Except RunError Nat) :
    Option ThreadRequest → Option Nat → Except RunError Nat
  | some (.count n), _ => .ok n
  | some .all, _ => cores
  | none, seen => if seen.getD 0 = 0 then cores else .ok (seen.getD 0)

/-- A family's count: the one of the flag, else the one that its own value spells, else the
server's, but at most two. A value that spells no count leaves it without one. -/
def plannedFamily (server : Nat) : Option Nat → Option String → Option Nat
  | some n, _ => some n
  | none, some v => Text.count? v.toList
  | none, none => some (min server inheritedThreads)

/-- A read of the key sees nothing, or a count. -/
def Hierarchy.ReadsCount (h : Hierarchy) (k : Key) : Prop :=
  ∀ v, h.get? k = some v → (Text.count? v.toList).isSome = true

theorem not_readsCount_iff {h : Hierarchy} {k : Key} :
    ¬ h.ReadsCount k ↔ ∃ v, h.get? k = some v ∧ Text.count? v.toList = none := by
  simp [Hierarchy.ReadsCount]

theorem count?_of_value? {h : Hierarchy} {k : Key} (hv : h.value? k = some v) :
    h.count? k = Text.count? v.toList := by
  rw [Hierarchy.count?, get?_of_value? hv]
  rfl

theorem count?_set_numeral (h : Hierarchy) (k : Key) (hn : n < countLimit) :
    (h.set k (numeral n)).count? k = some n :=
  (count?_of_value? (value?_set_self h k _)).trans (count?_numeral hn)

/-! ## The server -/

theorem runOn_storeAllCores (s : Session) :
    (storeAllCores surroundings).runOn s =
      match physicalCores surroundings s.files with
      | .error e => (.error e, s)
      | .ok cores =>
        (.ok (), (s.withParams (s.params.set serverThreadsKey (numeral cores))).noting
          [.coresCounted serverThreadsKey.text cores,
            .stored serverThreadsKey.text (numeral cores)]) := by
  rw [storeAllCores, runOn_bind_of_ok (runOn_get s)]
  cases physicalCores surroundings s.files with
  | error e => rfl
  | ok cores =>
    dsimp only
    rw [runOn_bind_of_ok (runOn_note _ s), runOn_store]
    simp

/-- What is stored for the server once the count that is seen is known. -/
def storeServerThreads (surroundings : Surroundings) (seen : Option Nat) :
    Option ThreadRequest → Stage Unit
  | some (.count n) => store serverThreadsKey (numeral n)
  | some .all => storeAllCores surroundings
  | none => if seen.getD 0 = 0 then storeAllCores surroundings else pure ()

/-- The count that is seen is read first, whatever the flag says. -/
theorem settleServerThreads_eq (requested : Option ThreadRequest) :
    settleServerThreads requested surroundings =
      (readCount? serverThreadsKey >>= fun seen =>
        storeServerThreads surroundings seen requested) := by
  cases requested with
  | none => rfl
  | some request => cases request <;> rfl

theorem runOn_settleServerThreads (requested : Option ThreadRequest)
    (surroundings : Surroundings) (hread : s.params.ReadsCount serverThreadsKey) :
    ∃ events, (settleServerThreads requested surroundings).runOn s =
      (storeServerThreads surroundings (s.params.count? serverThreadsKey) requested).runOn
        (s.noting events) := by
  have hanswers : Answers (readCount? serverThreadsKey) s.params s.files
      (s.params.count? serverThreadsKey) := answers_readAs? hread
  obtain ⟨events, hseen⟩ := hanswers s rfl rfl
  exact ⟨events, by rw [settleServerThreads_eq, runOn_bind_of_ok hseen]⟩

/-- Where the cores are needed and cannot be counted, nothing is stored. -/
theorem settleServerThreads_refused (hread : s.params.ReadsCount serverThreadsKey)
    (hplan : plannedServer (physicalCores surroundings s.files) requested
      (s.params.count? serverThreadsKey) = .error e) :
    ∃ events, (settleServerThreads requested surroundings).runOn s =
      (.error e, s.noting events) := by
  obtain ⟨events, hrun⟩ := runOn_settleServerThreads requested surroundings hread
  refine ⟨events, hrun.trans ?_⟩
  have hcores : physicalCores surroundings s.files = .error e →
      (storeAllCores surroundings).runOn (s.noting events) = (.error e, s.noting events) := by
    intro herror
    rw [runOn_storeAllCores, Session.noting_files, herror]
  cases requested with
  | some request =>
    cases request with
    | count n => exact absurd hplan (by simp [plannedServer])
    | all => exact hcores hplan
  | none =>
    rw [plannedServer] at hplan
    rw [storeServerThreads]
    split at hplan
    · rename_i hzero
      rw [if_pos hzero]
      exact hcores hplan
    · exact absurd hplan (by simp)

/-- Otherwise the count that was planned is seen in the end. -/
theorem settleServerThreads_planned (hread : s.params.ReadsCount serverThreadsKey)
    (hplan : plannedServer (physicalCores surroundings s.files) requested
      (s.params.count? serverThreadsKey) = .ok n) (hn : n < countLimit) :
    ∃ s', (settleServerThreads requested surroundings).runOn s = (.ok (), s')
      ∧ s'.params.count? serverThreadsKey = some n := by
  obtain ⟨events, hrun⟩ := runOn_settleServerThreads requested surroundings hread
  rw [hrun]
  have hcores : physicalCores surroundings s.files = .ok n →
      ∃ s', (storeAllCores surroundings).runOn (s.noting events) = (.ok (), s')
        ∧ s'.params.count? serverThreadsKey = some n := by
    intro hok
    rw [runOn_storeAllCores, Session.noting_files, hok]
    exact ⟨_, rfl, count?_set_numeral _ _ hn⟩
  cases requested with
  | some request =>
    cases request with
    | count m =>
      obtain rfl := Except.ok.inj hplan
      exact ⟨_, runOn_store _ _ _, count?_set_numeral _ _ hn⟩
    | all => exact hcores hplan
  | none =>
    rw [plannedServer] at hplan
    rw [storeServerThreads]
    split at hplan
    · rename_i hzero
      rw [if_pos hzero]
      exact hcores hplan
    · -- the count that is seen is left as it is
      rename_i hseen
      rw [if_neg hseen]
      refine ⟨_, runOn_pure _ _, ?_⟩
      rw [Session.noting_params, ← Except.ok.inj hplan]
      refine eq_some_getD ?_
      cases hcount : s.params.count? serverThreadsKey with
      | some m => rfl
      | none => exact absurd (by rw [hcount]; rfl) hseen

/-! ## A family -/

/-- The two task families. -/
def familyKeys : List Key := [polyselectThreadsKey, sieveThreadsKey]

/-- A count that is given is stored, whatever was there. -/
theorem takes_settleFamilyThreads_some (n server : Nat) (family : Key) {h : Hierarchy}
    {files : FileSystem} :
    Takes (settleFamilyThreads (some n) server family) h files () (h.set family (numeral n)) :=
  (takes_store _ _).bind (answers_noteFamily _ _ family).takes

/-- A family ends with a value of its own, which spells the count that was planned for it. -/
theorem settleFamilyThreads_planned (hclients : ∀ n, clients = some n → n < countLimit)
    (server : Nat) (family : Key) :
    ∃ s' v, (settleFamilyThreads clients server family).runOn s = (.ok (), s')
      ∧ s'.params.value? family = some v
      ∧ Text.count? v.toList = plannedFamily server clients (s.params.value? family) := by
  cases clients with
  | some n =>
    obtain ⟨events, hrun⟩ := takes_settleFamilyThreads_some n server family s rfl rfl
    exact ⟨_, _, hrun, value?_set_self _ _ _, count?_numeral (hclients n rfl)⟩
  | none =>
    rw [settleFamilyThreads, runOn_bind_of_ok (runOn_get s)]
    cases hown : s.params.value? family with
    | some v =>
      have horigin : s.params.origin? family = some family :=
        origin?_eq_self_iff.2 (by rw [hown]; rfl)
      obtain ⟨events, hnote⟩ := answers_noteFamily _ _ family s rfl rfl
      rw [if_neg (by simpa using horigin)]
      exact ⟨_, v, hnote, hown, rfl⟩
    | none =>
      have horigin : s.params.origin? family ≠ some family := by
        rw [Ne, origin?_eq_self_iff, hown]
        simp
      have hsmall : min server inheritedThreads < countLimit :=
        Nat.lt_of_le_of_lt (Nat.min_le_right _ _) (by decide)
      rw [if_pos horigin]
      -- from the store on, it is as if the count had been given
      obtain ⟨events, hrun⟩ :=
        takes_settleFamilyThreads_some (min server inheritedThreads) server family s rfl rfl
      exact ⟨_, _, hrun, value?_set_self _ _ _, count?_numeral hsmall⟩

/-! ## All counts -/

/-- The counts as they are read back in the end. -/
def readBackThreads (server : Nat) : Stage ThreadCounts := do
  let polyselect := (← readCount? polyselectThreadsKey).getD 0
  let sieve := (← readCount? sieveThreadsKey).getD 0
  pure ⟨server, polyselect, sieve⟩

/-- What is stored before the counts are read back: the server's count is seen, and each family
has a value of its own, which spells the count that was planned for it or no count at all. -/
structure ThreadsPlaced (clients : Option Nat) (server : Nat) (s s' : Session) : Prop where
  seen : s'.params.count? serverThreadsKey = some server
  families : ∀ family ∈ familyKeys, ∃ v, s'.params.value? family = some v
    ∧ Text.count? v.toList = plannedFamily server clients (s.params.value? family)
  others : Writes ThreadKey s s'

/-- Once the server's count is known, all that can still fail is to read the counts back. -/
theorem settleThreads_placed (hread : s.params.ReadsCount serverThreadsKey)
    (hplan : plannedServer (physicalCores surroundings s.files) requested
      (s.params.count? serverThreadsKey) = .ok server) (hserver : server < countLimit)
    (hclients : ∀ n, clients = some n → n < countLimit) :
    ∃ s', (settleThreads requested clients surroundings).runOn s =
        (readBackThreads server).runOn s'
      ∧ ThreadsPlaced clients server s s' := by
  obtain ⟨s₁, hrun₁, hcount⟩ := settleServerThreads_planned hread hplan hserver
  obtain ⟨events, hrun₂⟩ :=
    answers_readCount?_of_some hcount s₁ rfl rfl
  obtain ⟨s₃, v, hrun₃, hv, hvcount⟩ :=
    settleFamilyThreads_planned (s := s₁.noting events) hclients server polyselectThreadsKey
  obtain ⟨s₄, w, hrun₄, hw, hwcount⟩ :=
    settleFamilyThreads_planned (s := s₃) hclients server sieveThreadsKey
  have hwrites₁ : Writes (· = serverThreadsKey) s s₁ :=
    (moves_settleServerThreads (fun v => moves_writes_store (by rfl) v) requested).step hrun₁
  have hwrites₃ := (moves_writes_settleFamilyThreads _ _ _).step hrun₃
  have hwrites₄ := (moves_writes_settleFamilyThreads _ _ _).step hrun₄
  refine ⟨s₄, ?_, ?_, ?_, ?_⟩
  · exact (runOn_bind_of_ok hrun₁).trans ((runOn_bind_of_ok hrun₂).trans
      ((runOn_bind_of_ok hrun₃).trans (runOn_bind_of_ok hrun₄)))
  · rw [hwrites₄.count? (by decide +kernel), hwrites₃.count? (by decide +kernel)]
    exact hcount
  · intro family hfamily
    rcases List.mem_pair.1 hfamily with rfl | rfl
    · refine ⟨v, ?_, ?_⟩
      · rw [hwrites₄.params _ (by decide), hv]
      · rw [hvcount, Session.noting_params, hwrites₁.params _ (by decide)]
    · refine ⟨w, hw, ?_⟩
      rw [hwcount, hwrites₃.params _ (by decide), Session.noting_params,
        hwrites₁.params _ (by decide)]
  · refine ⟨fun k hk => ?_, ?_, ?_⟩
    · rw [hwrites₄.params k fun he => hk (.inr (.inr he)),
        hwrites₃.params k fun he => hk (.inr (.inl he)), Session.noting_params,
        hwrites₁.params k fun he => hk (.inl he)]
    · rw [hwrites₄.files, hwrites₃.files, Session.noting_files, hwrites₁.files]
    · rw [hwrites₄.scratch, hwrites₃.scratch, Session.noting_scratch, hwrites₁.scratch]

theorem plannedServer_lt {cores : Except RunError Nat} {seen : Option Nat}
    (hrequested : ∀ n, requested = some (.count n) → n < countLimit)
    (hcores : ∀ n, cores = .ok n → n < countLimit) (hseen : ∀ n, seen = some n → n < countLimit)
    (hplan : plannedServer cores requested seen = .ok server) : server < countLimit := by
  cases requested with
  | some request =>
    cases request with
    | count n =>
      obtain rfl := Except.ok.inj hplan
      exact hrequested n rfl
    | all => exact hcores server hplan
  | none =>
    rw [plannedServer] at hplan
    split at hplan
    · exact hcores server hplan
    · rename_i hne
      obtain rfl := Except.ok.inj hplan
      cases hcount : seen with
      | some m => exact hseen m hcount
      | none => rw [hcount] at hne; exact absurd rfl hne

/-- No count was planned for a family: its own value spells none, and no flag replaces it. -/
def FamilyMisspelt (clients : Option Nat) (h : Hierarchy) : Prop :=
  clients = none ∧ ∃ family ∈ familyKeys, ∃ v,
    h.value? family = some v ∧ Text.count? v.toList = none

theorem plannedFamily_eq_none_iff {own : Option String} :
    plannedFamily server clients own = none ↔
      clients = none ∧ ∃ v, own = some v ∧ Text.count? v.toList = none := by
  cases clients with
  | some n => simp [plannedFamily]
  | none =>
    cases own with
    | some v => simp [plannedFamily]
    | none => simp [plannedFamily]

theorem familyMisspelt_iff (server : Nat) {h : Hierarchy} :
    FamilyMisspelt clients h ↔
      ∃ family ∈ familyKeys, plannedFamily server clients (h.value? family) = none := by
  constructor
  · rintro ⟨hclients, family, hfamily, hv⟩
    exact ⟨family, hfamily, plannedFamily_eq_none_iff.2 ⟨hclients, hv⟩⟩
  · rintro ⟨family, hfamily, hnone⟩
    obtain ⟨hclients, hv⟩ := plannedFamily_eq_none_iff.1 hnone
    exact ⟨hclients, family, hfamily, hv⟩

/-- What is settled: the counts that were planned are answered, each is read at its key in the
end, both families' at their own, and nothing else was written. -/
structure ThreadsSettled (clients : Option Nat) (server : Nat) (s s' : Session)
    (counts : ThreadCounts) : Prop where
  server : counts.server = server
  polyselect : plannedFamily counts.server clients (s.params.value? polyselectThreadsKey) =
    some counts.polyselect
  sieve : plannedFamily counts.server clients (s.params.value? sieveThreadsKey) =
    some counts.sieve
  stored : ThreadsStored s'.params counts
  own : ∀ family ∈ familyKeys, s'.params.origin? family = some family
  others : Writes ThreadKey s s'

section
variable (hplaced : ThreadsPlaced clients server s s')
include hplaced

/-- The value of a family for which a count was planned is read as that count. -/
theorem answers_family {files : FileSystem} (hfamily : family ∈ familyKeys)
    (hplan : plannedFamily server clients (s.params.value? family) = some n) :
    Answers (readCount? family) s'.params files (some n) := by
  obtain ⟨v, hv, hcount⟩ := hplaced.families family hfamily
  exact answers_readCount?_of_some ((count?_of_value? hv).trans (hcount.trans hplan))

/-- The value of a family for which none was planned is refused. -/
theorem runOn_family_refused {t : Session} (hfamily : family ∈ familyKeys)
    (hplan : plannedFamily server clients (s.params.value? family) = none)
    (ht : t.params = s'.params) :
    ∃ v s'', (readCount? family).runOn t = (.error (.params (.invalid family.text v)), s'') := by
  obtain ⟨v, hv, hcount⟩ := hplaced.families family hfamily
  refine ⟨v, _, runOn_readAs?_of_none ?_ (hcount.trans hplan)⟩
  rw [ht]
  exact get?_of_value? hv

/-- A family for which no count was planned is found out when the counts are read back. -/
theorem readBackThreads_misspelt (hbad : FamilyMisspelt clients s.params) :
    ∃ key v, ((readBackThreads server).runOn s').1 = .error (.params (.invalid key v)) := by
  obtain ⟨family, hfamily, hplan⟩ := (familyMisspelt_iff server).1 hbad
  cases hpolyselect : plannedFamily server clients (s.params.value? polyselectThreadsKey) with
  | none =>
    obtain ⟨v, s'', hrun⟩ := runOn_family_refused hplaced (by decide) hpolyselect rfl
    exact ⟨_, v, congrArg Prod.fst (runOn_bind_of_error hrun)⟩
  | some p =>
    -- polynomial selection is read, so it is sieving that is refused
    obtain ⟨events, hrun⟩ := answers_family hplaced (by decide) hpolyselect s' rfl rfl
    rcases List.mem_pair.1 hfamily with rfl | rfl
    · exact absurd (hpolyselect.symm.trans hplan) (by simp)
    · obtain ⟨v, s'', hrun'⟩ :=
        runOn_family_refused hplaced (t := s'.noting events) (by decide) hplan rfl
      have herror : (readBackThreads server).runOn s' = _ :=
        (runOn_bind_of_ok hrun).trans (runOn_bind_of_error hrun')
      exact ⟨_, v, congrArg Prod.fst herror⟩

/-- Where a count was planned for both, they are read back. -/
theorem readBackThreads_settled (hgood : ¬ FamilyMisspelt clients s.params) :
    ∃ counts events, (readBackThreads server).runOn s' = (.ok counts, s'.noting events)
      ∧ ThreadsSettled clients server s (s'.noting events) counts := by
  have hplanned : ∀ family ∈ familyKeys, ∃ n,
      plannedFamily server clients (s.params.value? family) = some n := by
    intro family hfamily
    refine Option.ne_none_iff_exists'.1 fun hnone => hgood ?_
    exact (familyMisspelt_iff server).2 ⟨family, hfamily, hnone⟩
  obtain ⟨p, hp⟩ := hplanned polyselectThreadsKey (by decide)
  obtain ⟨q, hq⟩ := hplanned sieveThreadsKey (by decide)
  have hanswers : Answers (readBackThreads server) s'.params s'.files ⟨server, p, q⟩ :=
    (answers_family hplaced (by decide) hp).bind
      ((answers_family hplaced (by decide) hq).bind (answers_pure _))
  obtain ⟨events, hrun⟩ := hanswers s' rfl rfl
  have hown : ∀ family ∈ familyKeys, (s'.params.value? family).isSome := by
    intro family hfamily
    obtain ⟨v, hv, -⟩ := hplaced.families family hfamily
    rw [hv]
    rfl
  have hcount : ∀ family ∈ familyKeys, ∀ n,
      plannedFamily server clients (s.params.value? family) = some n →
        s'.params.count? family = some n := by
    intro family hfamily n hn
    obtain ⟨v, hv, hvcount⟩ := hplaced.families family hfamily
    exact (count?_of_value? hv).trans (hvcount.trans hn)
  refine ⟨⟨server, p, q⟩, events, hrun, rfl, hp, hq, ?_, ?_, ?_⟩
  · exact ⟨hplaced.seen, hcount _ (by decide) p hp, hown _ (by decide), hcount _ (by decide) q hq,
      hown _ (by decide)⟩
  · intro family hfamily
    exact origin?_eq_self_iff.2 (hown family hfamily)
  · exact StepRelation.trans hplaced.others (StepRelation.noting _ _)

end

/-- A count that cannot be read is refused before anything is done. -/
theorem settleThreads_unreadable (hv : s.params.get? serverThreadsKey = some v)
    (hcount : Text.count? v.toList = none) :
    ∃ events, (settleThreads requested clients surroundings).runOn s =
      (.error (.params (.invalid serverThreadsKey.text v)), s.noting events) := by
  have hserver : (settleServerThreads requested surroundings).runOn s =
      (.error (.params (.invalid serverThreadsKey.text v)),
        s.noting (readNotes s.params serverThreadsKey)) := by
    rw [settleServerThreads_eq]
    exact runOn_bind_of_error (runOn_readAs?_of_none hv hcount)
  exact ⟨_, runOn_bind_of_error hserver⟩

/-- **What settling the thread counts does.** A count that is seen for the server and cannot be
read is refused, and so is a run that needs the number of cores and cannot have it; then
nothing is stored. Otherwise the run is refused exactly when a family's own value takes part and
spells no count, and a run that is not refused settles the counts that were planned. -/
theorem settleThreads_planned (requested : Option ThreadRequest) (clients : Option Nat)
    (surroundings : Surroundings) (s : Session)
    (hrequested : ∀ n, requested = some (.count n) → n < countLimit)
    (hclients : ∀ n, clients = some n → n < countLimit)
    (hcores : ∀ n, physicalCores surroundings s.files = .ok n → n < countLimit) :
    (∀ v, s.params.get? serverThreadsKey = some v → Text.count? v.toList = none →
      ∃ events, (settleThreads requested clients surroundings).runOn s =
        (.error (.params (.invalid serverThreadsKey.text v)), s.noting events))
    ∧ (s.params.ReadsCount serverThreadsKey →
      (∀ e, plannedServer (physicalCores surroundings s.files) requested
          (s.params.count? serverThreadsKey) = .error e →
        ∃ events, (settleThreads requested clients surroundings).runOn s =
          (.error e, s.noting events))
      ∧ ∀ server, plannedServer (physicalCores surroundings s.files) requested
          (s.params.count? serverThreadsKey) = .ok server →
        ((∃ key v, ((settleThreads requested clients surroundings).runOn s).1 =
            .error (.params (.invalid key v))) ↔ FamilyMisspelt clients s.params)
        ∧ (¬ FamilyMisspelt clients s.params →
          ∃ counts s', (settleThreads requested clients surroundings).runOn s = (.ok counts, s')
            ∧ ThreadsSettled clients server s s' counts)) := by
  refine ⟨fun v hv hcount => settleThreads_unreadable hv hcount, fun hread => ⟨?_, ?_⟩⟩
  · intro e hplan
    obtain ⟨events, hrun⟩ := settleServerThreads_refused hread hplan
    exact ⟨events, runOn_bind_of_error hrun⟩
  · intro server hplan
    have hseen : ∀ n, s.params.count? serverThreadsKey = some n → n < countLimit := by
      intro n hn
      obtain ⟨v, -, hv⟩ := Option.bind_eq_some_iff.1 hn
      exact lt_of_count? hv
    have hserver := plannedServer_lt hrequested hcores hseen hplan
    obtain ⟨s', hrun, hplaced⟩ := settleThreads_placed hread hplan hserver hclients
    rw [hrun]
    refine ⟨⟨fun hbad => ?_, fun hbad => readBackThreads_misspelt hplaced hbad⟩, fun hgood => ?_⟩
    · by_contra hgood
      obtain ⟨counts, events, hsettled, -⟩ := readBackThreads_settled hplaced hgood
      obtain ⟨key, v, herror⟩ := hbad
      rw [hsettled] at herror
      exact absurd herror (by simp)
    · obtain ⟨counts, events, hsettled, hcounts⟩ := readBackThreads_settled hplaced hgood
      exact ⟨counts, _, hsettled, hcounts⟩

/-- Where the server's count is inherited from. -/
def outerThreadsKey : Key := ⟨[], "threads"⟩

/-- A session with these parameters and no files. -/
def sessionWith (parameters : List (Key × String)) : Session :=
  (Session.ofFiles ⟨[], []⟩).withParams (Hierarchy.empty.setAll parameters)

/-- Eight threads are stored outside of the tasks, and sieving has five of its own. -/
def partlyCounted : Session := sessionWith [(outerThreadsKey, "8"), (sieveThreadsKey, "+5")]

/-- Of the eight threads that are inherited, polynomial selection gets two. -/
theorem partlyCounted_settled :
    ∃ counts s', (settleThreads none none { fakeCores := some "3" }).runOn partlyCounted =
        (.ok counts, s')
      ∧ counts = ⟨8, 2, 5⟩
      ∧ ThreadsSettled none 8 partlyCounted s' counts := by
  have hcores : ∀ n, physicalCores { fakeCores := some "3" } partlyCounted.files = .ok n →
      n < countLimit := by
    intro n hn
    have hthree : Except.ok 3 = Except.ok n := Eq.trans (by decide +kernel) hn
    rw [← Except.ok.inj hthree]
    decide
  have hread : partlyCounted.params.ReadsCount serverThreadsKey := by
    intro v hv
    have height : some "8" = some v := Eq.trans (by decide +kernel) hv
    rw [← Option.some.inj height]
    decide +kernel
  have hgood : ¬ FamilyMisspelt none partlyCounted.params := by
    rw [familyMisspelt_iff 8]
    decide +kernel
  have htwo : plannedFamily 8 none (partlyCounted.params.value? polyselectThreadsKey) = some 2 := by
    decide +kernel
  have hfive : plannedFamily 8 none (partlyCounted.params.value? sieveThreadsKey) = some 5 := by
    decide +kernel
  obtain ⟨-, hall⟩ := settleThreads_planned none none { fakeCores := some "3" } partlyCounted
    (by simp) (by simp) hcores
  obtain ⟨counts, s', hrun, hsettled⟩ := ((hall hread).2 8 (by decide +kernel)).2 hgood
  refine ⟨counts, s', hrun, ?_, hsettled⟩
  obtain ⟨server, polyselect, sieve⟩ := counts
  obtain rfl : server = 8 := hsettled.server
  obtain rfl : 2 = polyselect := Option.some.inj (htwo.symm.trans hsettled.polyselect)
  obtain rfl : 5 = sieve := Option.some.inj (hfive.symm.trans hsettled.sieve)
  rfl

end SieveRun
