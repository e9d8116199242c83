import SieveRun.Proofs.Inheritance
import Mathlib.Order.Bounds.Basic

/-!
# Where a read is answered

A read of a key may be answered at several depths: by the leaf of the key inside its first `d`
namespaces, for any `d` up to all of them (`Key.cutTo`). The depths at which something is stored
(`Hierarchy.storedDepths`) say all about the read. It is answered at the greatest of them, and it
sees nothing exactly when there is none (`origin?_eq_some_iff`, `origin?_eq_none_iff`).

A write stores at one key, so it adds one depth to those reads that may be answered by that key,
and none to any other. That is the whole effect of a write on reads (`reads_after_set`): a read is
taken over by the key that is written when nothing deeper answers it, and else it stays.
-/

namespace SieveRun

namespace Key

/-- The leaf of the key inside the first `depth` of its namespaces. -/
def cutTo (k : Key) (depth : Nat) : Key := ⟨k.path.take depth, k.leaf⟩

variable {k : Key} {d e : Nat}

theorem length_cutTo (hd : d ≤ k.path.length) : (k.cutTo d).path.length = d :=
  List.length_take_of_le hd

theorem cutTo_cutTo (k : Key) (hle : e ≤ d) : (k.cutTo d).cutTo e = k.cutTo e := by
  simp only [cutTo, List.take_take, Nat.min_eq_left hle]

theorem cutTo_inj (hd : d ≤ k.path.length) (he : e ≤ k.path.length) :
    k.cutTo d = k.cutTo e ↔ d = e := by
  constructor
  · intro h
    rw [← length_cutTo hd, h, length_cutTo he]
  · rintro rfl
    rfl

theorem sources_eq_map (k : Key) :
    k.sources = (List.range (k.path.length + 1)).reverse.map k.cutTo := rfl

end Key

/-! ## The deepest of several -/

/-- Searching downwards finds the greatest number below a bound that passes. -/
theorem find?_downwards_eq_some_iff {test : Nat → Bool} {n d : Nat} :
    (List.range n).reverse.find? test = some d ↔ IsGreatest {d | d < n ∧ test d = true} d := by
  induction n with
  | zero => simp [IsGreatest]
  | succ n ih =>
    rw [List.range_succ, List.reverse_append, List.reverse_singleton, List.singleton_append]
    cases hn : test n with
    | true =>
      rw [List.find?_cons_of_pos hn, Option.some.injEq]
      have hgreatest : IsGreatest {d | d < n + 1 ∧ test d = true} n :=
        ⟨⟨Nat.lt_succ_self n, hn⟩, fun e he => Nat.lt_succ_iff.1 he.1⟩
      exact ⟨fun h => h ▸ hgreatest, fun h => hgreatest.unique h⟩
    | false =>
      have hsame : {d | d < n + 1 ∧ test d = true} = {d | d < n ∧ test d = true} := by
        ext e
        refine and_congr_left fun he => ?_
        have hne : e ≠ n := fun h => by rw [h, hn] at he; exact absurd he (by simp)
        show e < n + 1 ↔ e < n
        omega
      rw [List.find?_cons_of_neg (by simp [hn]), ih, hsame]

namespace Hierarchy

variable {h : Hierarchy} {k q o : Key} {v w : String} {d : Nat}

/-- The depths at which a read of the key may be answered. -/
def storedDepths (h : Hierarchy) (q : Key) : Set Nat :=
  {d | d ≤ q.path.length ∧ (h.value? (q.cutTo d)).isSome}

/-- **Where a read is answered**: at the greatest depth at which something is stored. -/
theorem origin?_eq_some_iff :
    h.origin? q = some o ↔ ∃ d, IsGreatest (h.storedDepths q) d ∧ o = q.cutTo d := by
  have hdepths : {d | d < q.path.length + 1 ∧ (h.contains ∘ q.cutTo) d = true} =
      h.storedDepths q := by
    ext d
    exact and_congr_left fun _ => Nat.lt_succ_iff
  rw [origin?, Key.sources_eq_map, List.find?_map, Option.map_eq_some_iff]
  refine exists_congr fun d => ?_
  rw [find?_downwards_eq_some_iff, hdepths]
  exact and_congr_right fun _ => eq_comm

theorem origin?_eq_none_iff : h.origin? q = none ↔ h.storedDepths q = ∅ := by
  rw [origin?, List.find?_eq_none, Key.sources_eq_map, Set.eq_empty_iff_forall_notMem]
  constructor
  · intro hnone d hd
    refine hnone (q.cutTo d) (List.mem_map.2 ⟨d, ?_, rfl⟩) hd.2
    simpa using Nat.lt_succ_iff.2 hd.1
  · intro hempty source hs
    obtain ⟨d, hd, rfl⟩ := List.mem_map.1 hs
    exact fun hstored => hempty d ⟨Nat.lt_succ_iff.1 (by simpa using hd), hstored⟩

/-- A read sees what is stored where it is answered. -/
theorem get?_of_origin? (ho : h.origin? q = some o) :
    h.get? q = h.value? o ∧ (h.value? o).isSome := by
  have hstored : h.contains o = true := List.find?_some ho
  refine ⟨?_, hstored⟩
  rw [get?, ho]
  rfl

theorem get?_eq_none_iff : h.get? q = none ↔ h.origin? q = none := by
  cases ho : h.origin? q with
  | none => simp [get?, ho]
  | some o =>
    obtain ⟨hget, hsome⟩ := get?_of_origin? ho
    rw [hget, ← Option.not_isSome_iff_eq_none]
    simp [hsome]

/-! ## A write -/

theorem storedDepths_set_cutTo (h : Hierarchy) (v : String) (hd : d ≤ q.path.length) :
    (h.set (q.cutTo d) v).storedDepths q = insert d (h.storedDepths q) := by
  ext e
  rw [Set.mem_insert_iff]
  constructor
  · rintro ⟨he, hstored⟩
    by_cases hed : e = d
    · exact .inl hed
    · rw [value?_set_ne h v fun hkey => hed ((Key.cutTo_inj he hd).1 hkey)] at hstored
      exact .inr ⟨he, hstored⟩
  · rintro (rfl | ⟨he, hstored⟩)
    · exact ⟨hd, by rw [value?_set_self]; rfl⟩
    · refine ⟨he, ?_⟩
      rw [value?_set]
      split
      · rfl
      · exact hstored

/-- A read of `q` is left to the key `k`: it may be answered there, and it is answered by nothing
deeper. -/
def LeftTo (h : Hierarchy) (q k : Key) : Prop :=
  ∃ d ≤ q.path.length, k = q.cutTo d ∧ ∀ o, h.origin? q = some o → o.path.length ≤ d

theorem mem_upperBounds_of_origin? {d : Nat}
    (hd : ∀ o, h.origin? q = some o → o.path.length ≤ d) : d ∈ upperBounds (h.storedDepths q) := by
  cases ho : h.origin? q with
  | none =>
    rw [origin?_eq_none_iff.1 ho]
    exact fun e he => he.elim
  | some o =>
    obtain ⟨e, he, rfl⟩ := origin?_eq_some_iff.1 ho
    have hle := hd _ ho
    rw [Key.length_cutTo he.1.1] at hle
    exact fun f hf => (he.2 hf).trans hle

/-- A read that is left to the key that is written is answered there. -/
theorem origin?_set_of_leftTo (hleft : h.LeftTo q k) (v : String) :
    (h.set k v).origin? q = some k := by
  obtain ⟨d, hd, rfl, hnone⟩ := hleft
  refine origin?_eq_some_iff.2 ⟨d, ?_, rfl⟩
  rw [storedDepths_set_cutTo h v hd]
  refine ⟨Set.mem_insert d _, fun e he => ?_⟩
  rcases he with rfl | he
  · exact Nat.le_refl _
  · exact mem_upperBounds_of_origin? hnone he

/-- Any other read is answered where it was, by what it was answered by. -/
theorem origin?_set_of_not_leftTo (hleft : ¬ h.LeftTo q k) (v : String) :
    (h.set k v).origin? q = h.origin? q ∧ (h.set k v).get? q = h.get? q := by
  by_cases hk : ∃ d ≤ q.path.length, k = q.cutTo d
  · -- the key could answer, so something deeper does
    obtain ⟨d, hd, rfl⟩ := hk
    have hdeeper : ∃ o, h.origin? q = some o ∧ d < o.path.length := by
      by_contra hnone
      refine hleft ⟨d, hd, rfl, fun o ho => ?_⟩
      exact Nat.not_lt.1 fun hlt => hnone ⟨o, ho, hlt⟩
    obtain ⟨o, ho, hlt⟩ := hdeeper
    obtain ⟨e, he, rfl⟩ := origin?_eq_some_iff.1 ho
    rw [Key.length_cutTo he.1.1] at hlt
    have hgreatest : IsGreatest ((h.set (q.cutTo d) v).storedDepths q) e := by
      rw [storedDepths_set_cutTo h v hd]
      refine ⟨Set.mem_insert_of_mem d he.1, fun f hf => ?_⟩
      rcases hf with rfl | hf
      · exact hlt.le
      · exact he.2 hf
    have ho' := origin?_eq_some_iff.2 ⟨e, hgreatest, rfl⟩
    refine ⟨ho'.trans ho.symm, ?_⟩
    have hne : q.cutTo e ≠ q.cutTo d := by
      rw [Ne, Key.cutTo_inj he.1.1 hd]
      omega
    rw [(get?_of_origin? ho').1, (get?_of_origin? ho).1, value?_set_ne h v hne]
  · have hsources : ∀ source ∈ q.sources, (h.set k v).value? source = h.value? source := by
      intro source hs
      obtain ⟨d, hd, rfl⟩ := List.mem_map.1 hs
      refine value?_set_ne h v fun he => hk ⟨d, ?_, he.symm⟩
      exact Nat.lt_succ_iff.1 (by simpa using hd)
    exact ⟨origin?_congr hsources, get?_congr hsources⟩

/-- A read that is left to a key was answered where that key was. -/
theorem origin?_of_leftTo (hleft : h.LeftTo q k) : h.origin? q = h.origin? k := by
  obtain ⟨d, hd, rfl, hnone⟩ := hleft
  have hbound := mem_upperBounds_of_origin? hnone
  have hdepths : h.storedDepths (q.cutTo d) = h.storedDepths q := by
    ext e
    constructor
    · rintro ⟨he, hstored⟩
      rw [Key.length_cutTo hd] at he
      rw [Key.cutTo_cutTo q he] at hstored
      exact ⟨he.trans hd, hstored⟩
    · intro he
      refine ⟨(Key.length_cutTo hd).symm ▸ hbound he, ?_⟩
      rw [Key.cutTo_cutTo q (hbound he)]
      exact he.2
  cases ho : h.origin? q with
  | none => rw [origin?_eq_none_iff.2 (hdepths.trans (origin?_eq_none_iff.1 ho))]
  | some o =>
    obtain ⟨e, he, rfl⟩ := origin?_eq_some_iff.1 ho
    rw [← Key.cutTo_cutTo q (hbound he.1)]
    exact (origin?_eq_some_iff.2 ⟨e, hdepths ▸ he, rfl⟩).symm

theorem LeftTo.mem_sources (hleft : h.LeftTo q k) : k ∈ q.sources := by
  obtain ⟨d, hd, rfl, -⟩ := hleft
  rw [Key.sources_eq_map]
  exact List.mem_map.2 ⟨d, by simpa using Nat.lt_succ_iff.2 hd, rfl⟩

/-- A read sees what it saw, unless it was left to the key that is written: then it saw what a
read of that key saw. -/
theorem get?_set_cases (h : Hierarchy) (k : Key) (v : String) (q : Key) :
    (h.set k v).get? q = h.get? q ∨ k ∈ q.sources ∧ h.get? q = h.get? k := by
  by_cases hleft : h.LeftTo q k
  · right
    refine ⟨hleft.mem_sources, ?_⟩
    rw [get?, get?, origin?_of_leftTo hleft]
  · exact .inl (origin?_set_of_not_leftTo hleft v).2

/-- No read that saw a value is left to a key where nothing was seen. -/
theorem not_leftTo_of_unseen (hk : h.get? k = none) (ho : h.origin? q = some o) :
    ¬ h.LeftTo q k := by
  intro hleft
  rw [get?_eq_none_iff, ← origin?_of_leftTo hleft, ho] at hk
  exact absurd hk (by simp)

/-! ## The law -/

/-- Where a read of the key is answered, and by what: at the greatest depth at which something is
stored, by the value that is stored there; or nowhere, if nothing is. -/
inductive ReadsFrom (h : Hierarchy) (q : Key) : Option Key → Option String → Prop
  | stored {d : Nat} {v : String} : IsGreatest (h.storedDepths q) d →
      h.value? (q.cutTo d) = some v → ReadsFrom h q (some (q.cutTo d)) (some v)
  | nothing : h.storedDepths q = ∅ → ReadsFrom h q none none

theorem readsFrom (h : Hierarchy) (q : Key) : ReadsFrom h q (h.origin? q) (h.get? q) := by
  cases ho : h.origin? q with
  | none =>
    rw [get?_eq_none_iff.2 ho]
    exact .nothing (origin?_eq_none_iff.1 ho)
  | some o =>
    obtain ⟨hget, hstored⟩ := get?_of_origin? ho
    obtain ⟨d, hd, rfl⟩ := origin?_eq_some_iff.1 ho
    obtain ⟨v, hv⟩ := Option.isSome_iff_exists.1 hstored
    rw [hget, hv]
    exact .stored hd hv

/-- **The effect of a write on reads.** A read that is left to the key that is written is answered
by it from then on, with the value that is written. Any other read is answered where it was and
sees what it saw. And at all times a read is answered at the greatest depth at which something
is stored. -/
theorem reads_after_set (h : Hierarchy) (k : Key) (v : String) (q : Key) :
    (h.LeftTo q k → (h.set k v).origin? q = some k ∧ (h.set k v).get? q = some v)
      ∧ (¬ h.LeftTo q k → (h.set k v).origin? q = h.origin? q ∧ (h.set k v).get? q = h.get? q)
      ∧ h.ReadsFrom q (h.origin? q) (h.get? q) := by
  refine ⟨fun hleft => ?_, fun hleft => origin?_set_of_not_leftTo hleft v, readsFrom h q⟩
  have ho := origin?_set_of_leftTo hleft v
  refine ⟨ho, ?_⟩
  rw [(get?_of_origin? ho).1, value?_set_self]

/-- Of two reads that inherit from the root, one is taken over by a key in between, and the other
has something deeper. -/
theorem reads_after_set_between :
    let h := (empty.set ⟨[], "threads"⟩ "8").set ⟨["tasks", "sieve"], "threads"⟩ "2"
    let h' := h.set ⟨["tasks"], "threads"⟩ "4"
    (h'.origin? ⟨["tasks", "polyselect"], "threads"⟩ = some ⟨["tasks"], "threads"⟩
        ∧ h'.get? ⟨["tasks", "polyselect"], "threads"⟩ = some "4")
      ∧ h'.origin? ⟨["tasks", "sieve", "las"], "threads"⟩ = some ⟨["tasks", "sieve"], "threads"⟩
      ∧ h'.get? ⟨["tasks", "sieve", "las"], "threads"⟩ = some "2" := by
  intro h h'
  have houter : h.origin? ⟨["tasks", "polyselect"], "threads"⟩ = some ⟨[], "threads"⟩ := by
    decide +kernel
  have hinner : h.origin? ⟨["tasks", "sieve", "las"], "threads"⟩ =
      some ⟨["tasks", "sieve"], "threads"⟩ := by decide +kernel
  obtain ⟨htaken, -⟩ := reads_after_set h ⟨["tasks"], "threads"⟩ "4"
    ⟨["tasks", "polyselect"], "threads"⟩
  obtain ⟨-, hstays, -⟩ := reads_after_set h ⟨["tasks"], "threads"⟩ "4"
    ⟨["tasks", "sieve", "las"], "threads"⟩
  refine ⟨htaken ⟨1, by decide, rfl, fun o ho => ?_⟩, ?_⟩
  · obtain rfl := Option.some.inj (houter.symm.trans ho)
    decide
  · obtain ⟨horigin, hget⟩ := hstays fun ⟨d, _, hkey, hnone⟩ => by
      have htwo := hnone _ hinner
      have hone := congrArg (fun k : Key => k.path.length) hkey
      simp only [Key.cutTo, List.length_take, List.length_cons, List.length_nil] at htwo hone
      omega
    exact ⟨horigin.trans hinner, hget.trans (by decide +kernel)⟩

end Hierarchy

end SieveRun
