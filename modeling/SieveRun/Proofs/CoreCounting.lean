import Mathlib.Data.Finset.Sort
import SieveRun.Proofs.Cutting
import SieveRun.Workers.Cores

/-!
# Counting cores from the facts of a listing

A processor listing is read line by line, and what is counted in the end depends on three things
alone (`CoreFacts`): how many lines state a processor, which sockets are named, and which numbers of
cores are stated. The first is a number and the others are sets. So the order of the lines does not
matter, nor does it that every logical processor repeats what is said about its socket
(`CoreFacts.of_perm`, `CoreFacts.repeated`).

The lists that stand for the two sets are shown to be those sets first: the sockets by their number
(`length_eraseDups`), and the core counts in increasing order (`numberSet_eq_sort`).
-/

namespace SieveRun.Cores

open Text

/-! ## Lists that stand for sets -/

section
variable {α : Type} [BEq α] [LawfulBEq α]

theorem nodup_eraseDups (l : List α) : l.eraseDups.Nodup := by
  induction h : l.length using Nat.strongRecOn generalizing l with
  | ind n ih =>
    cases l with
    | nil => exact List.nodup_nil
    | cons a l =>
      have hshorter := List.length_filter_le (fun b => !b == a) l
      rw [List.length_cons] at h
      rw [List.eraseDups_cons, List.nodup_cons]
      refine ⟨fun hmem => ?_, ih _ (by omega) _ rfl⟩
      -- what comes later is not the first one again
      have hlater := (List.mem_filter.1 (List.mem_eraseDups.1 hmem)).2
      simp at hlater

theorem length_eraseDups [DecidableEq α] (l : List α) : l.eraseDups.length = l.toFinset.card := by
  have hsame : l.eraseDups.toFinset = l.toFinset := by
    ext a
    rw [List.mem_toFinset, List.mem_toFinset, List.mem_eraseDups]
  rw [← hsame, List.toFinset_card_of_nodup (nodup_eraseDups l)]

end

theorem mem_putNumber {n m : Nat} {ns : List Nat} : m ∈ putNumber n ns ↔ m = n ∨ m ∈ ns := by
  induction ns with
  | nil => simp [putNumber]
  | cons a ns ih =>
    rw [putNumber]
    split
    · simp
    · split
      · rename_i heq
        simp [heq]
      · rw [List.mem_cons, ih, List.mem_cons]
        exact or_left_comm

theorem pairwise_putNumber {n : Nat} {ns : List Nat} (h : ns.Pairwise (· < ·)) :
    (putNumber n ns).Pairwise (· < ·) := by
  induction ns with
  | nil => exact List.pairwise_singleton _ _
  | cons a ns ih =>
    obtain ⟨hfirst, hrest⟩ := List.pairwise_cons.1 h
    rw [putNumber]
    split
    · rename_i hlt
      refine List.pairwise_cons.2 ⟨fun b hb => ?_, h⟩
      rcases List.mem_cons.1 hb with rfl | hb
      · exact hlt
      · exact Nat.lt_trans hlt (hfirst b hb)
    · split
      · exact h
      · refine List.pairwise_cons.2 ⟨fun b hb => ?_, ih hrest⟩
        rcases mem_putNumber.1 hb with rfl | hb
        · omega
        · exact hfirst b hb

theorem mem_numberSet {m : Nat} {ns : List Nat} : m ∈ numberSet ns ↔ m ∈ ns := by
  induction ns with
  | nil => rfl
  | cons n ns ih =>
    show m ∈ putNumber n (numberSet ns) ↔ _
    rw [mem_putNumber, ih, List.mem_cons]

theorem pairwise_numberSet (ns : List Nat) : (numberSet ns).Pairwise (· < ·) := by
  induction ns with
  | nil => exact List.Pairwise.nil
  | cons n ns ih => exact pairwise_putNumber ih

/-- Core counts are listed as a set is: each of them once, in increasing order. -/
theorem numberSet_eq_sort (ns : List Nat) : numberSet ns = ns.toFinset.sort := by
  have hsame : (numberSet ns).toFinset = ns.toFinset := by
    ext m
    rw [List.mem_toFinset, List.mem_toFinset, mem_numberSet]
  have hincreasing := pairwise_numberSet ns
  have hnodup : (numberSet ns).Nodup := hincreasing.imp fun hlt => Nat.ne_of_lt hlt
  rw [← hsame]
  exact ((List.toFinset_sort _ hnodup).2 (hincreasing.imp fun hlt => Nat.le_of_lt hlt)).symm

/-! ## What a line states -/

/-- A line states a value for a key: they stand around its first colon or, if it has none, around
its first equals sign. Blanks around either do not count. -/
inductive StatesFact : List Char → List Char → List Char → Prop
  | colon {before after : List Char} : ':' ∉ before →
      StatesFact (before ++ ':' :: after) (trim before) (trim after)
  | equals {before after : List Char} : ':' ∉ before ++ '=' :: after → '=' ∉ before →
      StatesFact (before ++ '=' :: after) (trim before) (trim after)

theorem fact?_eq_some_iff {line key value : List Char} :
    fact? line = some (key, value) ↔ StatesFact line key value := by
  unfold fact?
  constructor
  · intro h
    obtain ⟨⟨before, after⟩, hcut, hsides⟩ := Option.map_eq_some_iff.1 h
    obtain ⟨rfl, rfl⟩ := Prod.mk.inj hsides
    cases hcolon : cut ':' line with
    | some parts =>
      rw [hcolon, Option.some_or] at hcut
      obtain rfl := Option.some.inj hcut
      obtain ⟨rfl, hbefore⟩ := cut_eq_some_iff.1 hcolon
      exact .colon hbefore
    | none =>
      rw [hcolon, Option.none_or] at hcut
      obtain ⟨rfl, hbefore⟩ := cut_eq_some_iff.1 hcut
      exact .equals (cut_eq_none_iff.1 hcolon) hbefore
  · intro h
    cases h with
    | @colon before after hbefore =>
      rw [cut_eq_some_iff.2 ⟨rfl, hbefore⟩]
      rfl
    | @equals before after hline hbefore =>
      rw [cut_eq_none_iff.2 hline, cut_eq_some_iff.2 ⟨rfl, hbefore⟩]
      rfl

/-- The line states some value for the key. -/
def StatesKey (key : String) (line : List Char) : Prop :=
  ∃ value, StatesFact line key.toList value

theorem any_fact?_iff {key : String} {line : List Char} :
    ((fact? line).any fun f => f.1 == key.toList) = true ↔ StatesKey key line := by
  unfold StatesKey
  cases h : fact? line with
  | none =>
    rw [Option.any_none]
    refine iff_of_false (by simp) ?_
    rintro ⟨value, hstates⟩
    rw [fact?_eq_some_iff.2 hstates] at h
    exact absurd h (by simp)
  | some f =>
    obtain ⟨k, v⟩ := f
    rw [Option.any_some, beq_iff_eq]
    constructor
    · rintro rfl
      exact ⟨v, fact?_eq_some_iff.1 h⟩
    · rintro ⟨value, hstates⟩
      rw [fact?_eq_some_iff.2 hstates] at h
      exact (Prod.mk.inj (Option.some.inj h)).1.symm

instance (key : String) : DecidablePred (StatesKey key) := fun _ =>
  decidable_of_iff _ any_fact?_iff

theorem mem_values {key : String} {listing : String} {value : List Char} :
    value ∈ values key (facts listing) ↔
      ∃ line ∈ lines listing.toList, StatesFact line key.toList value := by
  unfold values facts
  constructor
  · intro h
    obtain ⟨⟨k, v⟩, hfact, rfl⟩ := List.mem_map.1 h
    obtain ⟨hmem, hkey⟩ := List.mem_filter.1 hfact
    obtain ⟨line, hline, hline'⟩ := List.mem_filterMap.1 hmem
    obtain rfl : k = key.toList := by simpa using hkey
    exact ⟨line, hline, fact?_eq_some_iff.1 hline'⟩
  · rintro ⟨line, hline, hstates⟩
    refine List.mem_map.2 ⟨(key.toList, value), List.mem_filter.2 ⟨?_, by simp⟩, rfl⟩
    exact List.mem_filterMap.2 ⟨line, hline, fact?_eq_some_iff.2 hstates⟩

/-- As many values are stated for a key as lines state one. -/
theorem length_values (key listing : String) :
    (values key (facts listing)).length = (lines listing.toList).countP (StatesKey key ·) := by
  unfold values facts
  rw [List.length_map]
  induction lines listing.toList with
  | nil => rfl
  | cons line ls ih =>
    rw [List.countP_cons, ← ih]
    have hkey : ((fact? line).any fun f => f.1 == key.toList) = true ↔ StatesKey key line :=
      any_fact?_iff
    cases h : fact? line with
    | none =>
      rw [List.filterMap_cons_none h]
      rw [h, Option.any_none] at hkey
      have hno : ¬ StatesKey key line := fun hstates => absurd (hkey.2 hstates) (by simp)
      simp [hno]
    | some f =>
      rw [List.filterMap_cons_some h, List.filter_cons]
      rw [h, Option.any_some] at hkey
      by_cases hstates : StatesKey key line
      · simp [hkey.2 hstates, hstates]
      · have hother : (f.1 == key.toList) = false := by
          rw [Bool.eq_false_iff]
          exact fun heq => hstates (hkey.1 heq)
        simp [hother, hstates]

/-! ## What a listing states -/

/-- What lines state about cores: the number of lines on a processor, the sockets that are named,
and the core counts that can be read. -/
structure CoreFacts (ls : List (List Char)) (processors : Nat) (sockets : Finset (List Char))
    (counts : Finset Nat) : Prop where
  processors : processors = ls.countP (StatesKey "processor" ·)
  sockets : ∀ socket, socket ∈ sockets ↔
    ∃ line ∈ ls, StatesFact line "physical id".toList socket
  counts : ∀ n, n ∈ counts ↔
    ∃ line ∈ ls, ∃ value, StatesFact line "cpu cores".toList value ∧ count? value = some n

/-- What the facts come to: the sockets times the cores of one, if both are known and all sockets
have as many; without sockets or core counts, the processors. -/
def coresFrom (processors sockets : Nat) : List Nat → Except RunError Nat
  | [] => .ok (max processors 1)
  | [perSocket] =>
    if sockets = 0 then .ok (max processors 1) else .ok (max (min (sockets * perSocket) maxCount) 1)
  | counts =>
    if sockets = 0 then .ok (max processors 1) else .error (.disagreement (.coresPerSocket counts))

theorem coresFrom_no_sockets (processors : Nat) (counts : List Nat) :
    coresFrom processors 0 counts = .ok (max processors 1) := by
  rcases counts with _ | ⟨n, _ | ⟨m, rest⟩⟩ <;> rfl

theorem coresFrom_single {sockets : Nat} (h : sockets ≠ 0) (processors perSocket : Nat) :
    coresFrom processors sockets [perSocket] =
      .ok (max (min (sockets * perSocket) maxCount) 1) := by
  rw [coresFrom, if_neg h]

theorem coresFrom_several {sockets : Nat} {counts : List Nat} (h : sockets ≠ 0)
    (hseveral : 2 ≤ counts.length) (processors : Nat) :
    coresFrom processors sockets counts = .error (.disagreement (.coresPerSocket counts)) := by
  rcases counts with _ | ⟨n, _ | ⟨m, rest⟩⟩
  · exact absurd hseveral (by simp)
  · exact absurd hseveral (by simp)
  · unfold coresFrom
    exact if_neg h

namespace CoreFacts

variable {ls ls' : List (List Char)} {listing : String} {processors n : Nat}
  {sockets : Finset (List Char)} {counts : Finset Nat} {line value : List Char}

theorem of_listing (listing : String) :
    CoreFacts (lines listing.toList) (values "processor" (facts listing)).length
      (values "physical id" (facts listing)).toFinset
      ((values "cpu cores" (facts listing)).filterMap count?).toFinset where
  processors := length_values _ _
  sockets socket := by rw [List.mem_toFinset, mem_values]
  counts n := by
    rw [List.mem_toFinset, List.mem_filterMap]
    constructor
    · rintro ⟨value, hvalue, hn⟩
      obtain ⟨line, hline, hstates⟩ := mem_values.1 hvalue
      exact ⟨line, hline, value, hstates, hn⟩
    · rintro ⟨line, hline, value, hstates, hn⟩
      exact ⟨value, mem_values.2 ⟨line, hline, hstates⟩, hn⟩

/-- **The count is a function of the facts.** -/
theorem count_eq (h : CoreFacts (lines listing.toList) processors sockets counts) :
    Cores.count listing = coresFrom processors sockets.card counts.sort := by
  have hlisting := of_listing listing
  obtain rfl := h.processors.trans hlisting.processors.symm
  obtain rfl : sockets = (values "physical id" (facts listing)).toFinset :=
    Finset.ext fun socket => (h.sockets socket).trans (hlisting.sockets socket).symm
  obtain rfl : counts = ((values "cpu cores" (facts listing)).filterMap count?).toFinset :=
    Finset.ext fun n => (h.counts n).trans (hlisting.counts n).symm
  have hsockets : (Cores.sockets (facts listing)).length =
      (values "physical id" (facts listing)).toFinset.card := length_eraseDups _
  have hcounts : coreCounts (facts listing) =
      ((values "cpu cores" (facts listing)).filterMap count?).toFinset.sort := numberSet_eq_sort _
  rw [← hsockets, ← hcounts]
  unfold Cores.count
  dsimp only
  rcases coreCounts (facts listing) with _ | ⟨perSocket, _ | ⟨other, rest⟩⟩
  · rfl
  · simp only [coresFrom, List.length_eq_zero_iff]
  · simp only [coresFrom, List.length_eq_zero_iff]

/-- The order of the lines does not matter. -/
theorem of_perm (h : CoreFacts ls processors sockets counts) (hperm : ls'.Perm ls) :
    CoreFacts ls' processors sockets counts where
  processors := h.processors.trans (hperm.countP_eq _).symm
  sockets socket := by
    rw [h.sockets]
    simp only [hperm.mem_iff]
  counts n := by
    rw [h.counts]
    simp only [hperm.mem_iff]

/-- A line that states no processor may be repeated. -/
theorem repeated (h : CoreFacts ls processors sockets counts) (hline : line ∈ ls)
    (hother : ¬ StatesKey "processor" line) :
    CoreFacts (line :: ls) processors sockets counts := by
  have hmem : ∀ l, l ∈ line :: ls ↔ l ∈ ls := by
    intro l
    rw [List.mem_cons, or_iff_right_of_imp]
    rintro rfl
    exact hline
  refine ⟨?_, fun socket => ?_, fun n => ?_⟩
  · rw [List.countP_cons_of_neg (by simpa using hother)]
    exact h.processors
  · rw [h.sockets]
    simp only [hmem]
  · rw [h.counts]
    simp only [hmem]

end CoreFacts

/-- A line states a value for one key at most. -/
theorem StatesKey.unique {key key' : String} {line : List Char} (h : StatesKey key line)
    (h' : StatesKey key' line) : key.toList = key'.toList := by
  obtain ⟨value, hvalue⟩ := h
  obtain ⟨value', hvalue'⟩ := h'
  have hfact := fact?_eq_some_iff.2 hvalue
  rw [fact?_eq_some_iff.2 hvalue'] at hfact
  exact (Prod.mk.inj (Option.some.inj hfact)).1.symm

theorem not_processor {key : String} {line : List Char} (h : StatesKey key line)
    (hkey : key.toList ≠ "processor".toList) : ¬ StatesKey "processor" line :=
  fun hprocessor => hkey (h.unique hprocessor)

/-- **Cores are counted from the set of facts.** In a listing of fewer than 2³² lines let there be
so many lines on processors, these sockets and these core counts. Without sockets or core counts
the processors are counted. Two core counts or more are an error, which lists them in increasing
order. A single one is multiplied by the number of sockets, as far as 32 bits go. No count is less
than one.

Another listing with these facts gives the same. So does one with the same lines in another order,
or with a line on a socket or its cores once more. -/
theorem cores_counted_from_facts {listing : String}
    (hfew : (lines listing.toList).length < countLimit) :
    ∃ processors sockets counts, CoreFacts (lines listing.toList) processors sockets counts
      ∧ processors < countLimit
      ∧ (sockets = ∅ ∨ counts = ∅ → Cores.count listing = .ok (max processors 1))
      ∧ (sockets ≠ ∅ → 2 ≤ counts.card →
          Cores.count listing = .error (.disagreement (.coresPerSocket counts.sort)))
      ∧ (∀ perSocket, sockets ≠ ∅ → counts = {perSocket} →
          Cores.count listing = .ok (max (min (sockets.card * perSocket) maxCount) 1))
      ∧ (∀ other : String, CoreFacts (lines other.toList) processors sockets counts →
          Cores.count other = Cores.count listing)
      ∧ (∀ other : String, (lines other.toList).Perm (lines listing.toList) →
          Cores.count other = Cores.count listing)
      ∧ ∀ (other : String) (line : List Char), line ∈ lines listing.toList →
          StatesKey "physical id" line ∨ StatesKey "cpu cores" line →
          (lines other.toList).Perm (line :: lines listing.toList) →
          Cores.count other = Cores.count listing := by
  obtain ⟨processors, sockets, counts, hfacts⟩ : ∃ processors sockets counts,
      CoreFacts (lines listing.toList) processors sockets counts := ⟨_, _, _, .of_listing listing⟩
  have hcount := hfacts.count_eq
  have hsame : ∀ other : String, CoreFacts (lines other.toList) processors sockets counts →
      Cores.count other = Cores.count listing :=
    fun other hother => hother.count_eq.trans hcount.symm
  refine ⟨processors, sockets, counts, hfacts, ?_, fun hnone => ?_, fun hsome htwo => ?_,
    fun perSocket hsome hone => ?_, hsame, fun other hperm => hsame other (hfacts.of_perm hperm),
    fun other line hline hkey hperm => ?_⟩
  · -- there are no more lines on processors than lines
    have hle := List.countP_le_length (p := fun line => decide (StatesKey "processor" line))
      (l := lines listing.toList)
    rw [hfacts.processors]
    omega
  · rw [hcount]
    rcases hnone with rfl | rfl
    · exact coresFrom_no_sockets processors _
    · rw [Finset.sort_empty]
      rfl
  · have hnonzero : sockets.card ≠ 0 := fun hzero => hsome (Finset.card_eq_zero.1 hzero)
    have hseveral : 2 ≤ counts.sort.length := by rwa [Finset.length_sort]
    exact hcount.trans (coresFrom_several hnonzero hseveral processors)
  · have hnonzero : sockets.card ≠ 0 := fun hzero => hsome (Finset.card_eq_zero.1 hzero)
    rw [hcount, hone, Finset.sort_singleton, coresFrom_single hnonzero]
  · have hother : ¬ StatesKey "processor" line := by
      rcases hkey with hkey | hkey
      · exact not_processor hkey (by decide)
      · exact not_processor hkey (by decide)
    exact hsame other ((hfacts.repeated hline hother).of_perm hperm)

/-- Two sockets with four cores each, and three logical processors; both separators are in use. -/
def twoSockets : String :=
  "processor\t: 0\nphysical id\t: 0\ncpu cores\t: 4\n\nprocessor = 1\nphysical id = 1\n" ++
    "processor: 2\ncpu cores: +4\nmodel = a:b\n"

theorem twoSockets_counted :
    (lines twoSockets.toList).length < countLimit ∧ Cores.count twoSockets = .ok 8
      ∧ ∀ other : String,
        (lines other.toList).Perm (lines twoSockets.toList)
            ∨ (lines other.toList).Perm ("physical id = 1".toList :: lines twoSockets.toList) →
          Cores.count other = .ok 8 := by
  have hfew : (lines twoSockets.toList).length < countLimit := by decide +kernel
  have hcount : Cores.count twoSockets = .ok 8 := by decide +kernel
  obtain ⟨-, -, -, -, -, -, -, -, -, hperm, hrepeated⟩ := cores_counted_from_facts hfew
  have hstates : StatesKey "physical id" "physical id = 1".toList := by decide +kernel
  refine ⟨hfew, hcount, fun other hother => ?_⟩
  rcases hother with hother | hother
  · rw [hperm other hother, hcount]
  · rw [hrepeated other _ (by decide +kernel) (.inl hstates) hother, hcount]

end SieveRun.Cores
