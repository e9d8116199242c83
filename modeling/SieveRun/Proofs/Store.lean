import SieveRun.Hierarchy.Basic
import Mathlib.Data.List.Find
import Mathlib.Data.List.Sort

/-!
# What a hierarchy stores

The entries are a sorted list, but nothing outside this file should have to know. A
hierarchy is what `value?` answers: a write changes the answer at one key (`value?_set`),
and two hierarchies with the same answers are the same one (`eq_of_value?`), which is what
the order on the entries is for.

Reading with inheritance is then a walk over the keys that may answer, deepest first
(`get?_eq_findSome?`), and merging a list of assignments stores the last value of each key
(`value?_setAll`).
-/

namespace SieveRun

/-! ## The entries as a finite map -/

theorem lookup_cons_eq_ite (k : Key) (e : Key × String) (es : List (Key × String)) :
    (e :: es).lookup k = if k = e.1 then some e.2 else es.lookup k := by
  rw [List.lookup_cons]
  by_cases h : k = e.1
  · simp [h]
  · simp [h, beq_false_of_ne h]

theorem lookup_putEntry (k k' : Key) (v : String) (es : List (Key × String)) :
    (putEntry k v es).lookup k' = if k' = k then some v else es.lookup k' := by
  induction es with
  | nil => rw [putEntry, lookup_cons_eq_ite]
  | cons e es ih =>
    unfold putEntry
    split
    · rw [lookup_cons_eq_ite]
    · rename_i heq
      obtain rfl := Std.LawfulEqOrd.eq_of_compare heq
      rw [lookup_cons_eq_ite, lookup_cons_eq_ite]
      by_cases h : k' = e.1 <;> simp [h]
    · rename_i hgt
      rw [lookup_cons_eq_ite, lookup_cons_eq_ite, ih]
      by_cases h : k' = e.1
      · -- the entry in front has another key than `k`, or the order would say so
        have hne : e.1 ≠ k := by
          intro he
          subst he
          simp at hgt
        simp [h, hne]
      · simp [h]

namespace Increasing

variable {es fs : List (Key × String)}

theorem nodup (h : Increasing es) : es.Nodup := by
  refine List.Pairwise.imp ?_ h
  intro a b hlt heq
  subst heq
  simp at hlt

/-- Where keys do not repeat, looking a key up finds every entry. -/
theorem lookup_eq_some_iff (h : Increasing es) {k : Key} {v : String} :
    es.lookup k = some v ↔ (k, v) ∈ es := by
  induction es with
  | nil => simp
  | cons e es ih =>
    obtain ⟨hhead, htail⟩ := List.pairwise_cons.1 h
    rw [lookup_cons_eq_ite, List.mem_cons]
    by_cases hk : k = e.1
    · subst hk
      -- the entries behind have greater keys
      have hnot : (e.1, v) ∉ es := fun hmem => by simpa using hhead _ hmem
      rw [if_pos rfl]
      simp only [Option.some.injEq, hnot, or_false]
      exact ⟨fun hv => by rw [← hv], fun he => by rw [← he]⟩
    · have hne : (k, v) ≠ e := fun he => hk (by rw [← he])
      rw [if_neg hk]
      simp [hne, ih htail]

/-- The order leaves no choice how to list the entries. -/
theorem eq_of_perm (hes : Increasing es) (hfs : Increasing fs) (hperm : es.Perm fs) : es = fs := by
  refine hperm.eq_of_pairwise (fun a b _ _ hab hba => ?_) hes hfs
  exact absurd (Std.OrientedCmp.gt_of_lt hab) (by rw [hba]; simp)

theorem eq_of_mem_iff (hes : Increasing es) (hfs : Increasing fs) (h : ∀ e, e ∈ es ↔ e ∈ fs) :
    es = fs :=
  hes.eq_of_perm hfs ((List.perm_ext_iff_of_nodup hes.nodup hfs.nodup).2 h)

theorem eq_of_lookup (hes : Increasing es) (hfs : Increasing fs)
    (h : ∀ k, es.lookup k = fs.lookup k) : es = fs :=
  hes.eq_of_mem_iff hfs fun e => by
    rw [← hes.lookup_eq_some_iff, ← hfs.lookup_eq_some_iff, h]

end Increasing

namespace Hierarchy

variable {h h' : Hierarchy} {k k' : Key} {v : String}

theorem mem_entries_iff : (k, v) ∈ h.entries ↔ h.value? k = some v :=
  h.increasing.lookup_eq_some_iff.symm

theorem eq_of_value? (he : ∀ k, h.value? k = h'.value? k) : h = h' :=
  ext (h.increasing.eq_of_lookup h'.increasing he)

@[simp] theorem value?_empty (k : Key) : empty.value? k = none := rfl

theorem value?_set (h : Hierarchy) (k k' : Key) (v : String) :
    (h.set k v).value? k' = if k' = k then some v else h.value? k' :=
  lookup_putEntry k k' v h.entries

@[simp] theorem value?_set_self (h : Hierarchy) (k : Key) (v : String) :
    (h.set k v).value? k = some v := by rw [value?_set, if_pos rfl]

theorem value?_set_ne (h : Hierarchy) (v : String) (hk : k' ≠ k) :
    (h.set k v).value? k' = h.value? k' := by rw [value?_set, if_neg hk]

/-- Storing what is stored changes nothing. -/
theorem set_of_value? (hv : h.value? k = some v) : h.set k v = h := by
  refine eq_of_value? fun q => ?_
  rw [value?_set]
  split
  · rename_i hq
    rw [hq, hv]
  · rfl

theorem value?_removeUnder (h : Hierarchy) (space : List String) (k : Key) :
    (h.removeUnder space).value? k = if k.isUnder space then none else h.value? k := by
  refine Option.ext fun v => ?_
  rw [← mem_entries_iff]
  by_cases hk : k.isUnder space <;> simp [removeUnder, hk, ← mem_entries_iff]

/-- What was removed is not there to be removed again. -/
theorem removeUnder_removeUnder (h : Hierarchy) (space : List String) :
    (h.removeUnder space).removeUnder space = h.removeUnder space := by
  refine eq_of_value? fun k => ?_
  rw [value?_removeUnder, value?_removeUnder]
  split <;> rfl

/-! ## Reading with inheritance -/

/-- A read is answered by the first of its sources that holds a value. -/
theorem get?_eq_findSome? (h : Hierarchy) (k : Key) :
    h.get? k = k.sources.findSome? h.value? := by
  unfold get? origin?
  induction k.sources with
  | nil => rfl
  | cons s ss ih =>
    rw [List.find?_cons, List.findSome?_cons]
    cases hs : h.value? s with
    | some v => simp [contains, hs]
    | none => simpa [contains, hs] using ih

theorem get?_congr (hv : ∀ s ∈ k.sources, h.value? s = h'.value? s) : h.get? k = h'.get? k := by
  rw [get?_eq_findSome?, get?_eq_findSome?]
  revert hv
  induction k.sources with
  | nil => exact fun _ => rfl
  | cons s ss ih =>
    intro hv
    rw [List.findSome?_cons, List.findSome?_cons, hv s List.mem_cons_self,
      ih fun t ht => hv t (List.mem_cons_of_mem _ ht)]

theorem origin?_congr (hv : ∀ s ∈ k.sources, h.value? s = h'.value? s) :
    h.origin? k = h'.origin? k :=
  List.find?_congr fun s hs => by rw [contains, contains, hv s hs]

/-- The key itself is the first source. -/
theorem sources_eq_cons (k : Key) :
    k.sources = k :: ((List.range k.path.length).reverse.map fun depth =>
      ⟨k.path.take depth, k.leaf⟩) := by
  simp [Key.sources, List.range_succ]

theorem get?_of_value? (hv : h.value? k = some v) : h.get? k = some v := by
  rw [get?_eq_findSome?, sources_eq_cons, List.findSome?_cons, hv]

theorem origin?_eq_self_iff : h.origin? k = some k ↔ (h.value? k).isSome := by
  constructor
  · intro ho
    have : h.contains k = true := List.find?_some ho
    exact this
  · intro hv
    rw [origin?, sources_eq_cons, List.find?_cons_of_pos (by simpa [contains] using hv)]

end Hierarchy

/-! ## Merging assignments -/

/-- The last value that the assignments give to a key. -/
def Assignment.last? (k : Key) (as : List (Key × String)) : Option String := as.reverse.lookup k

namespace Assignment

variable {k : Key} {v : String} {as bs : List (Key × String)}

@[simp] theorem last?_nil (k : Key) : last? k [] = none := rfl

theorem last?_append (k : Key) (as bs : List (Key × String)) :
    last? k (as ++ bs) = (last? k bs).or (last? k as) := by
  rw [last?, List.reverse_append, List.lookup_append]
  rfl

theorem last?_cons (k : Key) (a : Key × String) (as : List (Key × String)) :
    last? k (a :: as) = (last? k as).or (if k = a.1 then some a.2 else none) := by
  rw [← List.singleton_append, last?_append]
  show (last? k as).or ([a].lookup k) = _
  rw [lookup_cons_eq_ite]
  rfl

theorem mem_of_last? (h : last? k as = some v) : (k, v) ∈ as := by
  induction as with
  | nil => simp at h
  | cons a as ih =>
    rw [last?_cons, Option.or_eq_some_iff] at h
    rcases h with h | ⟨-, h⟩
    · exact List.mem_cons_of_mem _ (ih h)
    · split at h
      · rename_i hk
        obtain rfl := Option.some.inj h
        simp [hk]
      · simp at h

theorem last?_eq_none_iff : last? k as = none ↔ ∀ v, (k, v) ∉ as := by
  induction as with
  | nil => simp
  | cons a as ih =>
    obtain ⟨key, v⟩ := a
    rw [last?_cons, Option.or_eq_none_iff, ih]
    by_cases hk : k = key
    · simp only [hk, if_true, reduceCtorEq, and_false, false_iff, not_forall, not_not]
      exact ⟨v, List.mem_cons_self⟩
    · simp [hk]

/-- The last assignment of a key is the one that none of the same key follows. -/
theorem last?_of_split (before : List (Key × String)) (hafter : ∀ w, (k, w) ∉ bs) :
    last? k (before ++ (k, v) :: bs) = some v := by
  rw [last?_append, last?_cons, last?_eq_none_iff.2 hafter]
  simp

/-- Where keys do not repeat, every assignment is the last one of its key. -/
theorem last?_of_increasing (h : Increasing as) : last? k as = as.lookup k := by
  refine Option.ext fun v => ?_
  constructor
  · exact fun hl => h.lookup_eq_some_iff.2 (mem_of_last? hl)
  · intro hl
    rw [h.lookup_eq_some_iff] at hl
    induction as with
    | nil => simp at hl
    | cons a as ih =>
      obtain ⟨hhead, htail⟩ := List.pairwise_cons.1 h
      rw [last?_cons, Option.or_eq_some_iff]
      rcases List.mem_cons.1 hl with rfl | hl
      · -- no later assignment has the same key
        right
        refine ⟨?_, by simp⟩
        cases hk : last? k as with
        | none => rfl
        | some w => simpa using hhead _ (mem_of_last? hk)
      · exact .inl (ih htail hl)

end Assignment

/-- Merging stores the last value of each key and leaves the other keys alone. -/
theorem Hierarchy.value?_setAll (h : Hierarchy) (as : List (Key × String)) (k : Key) :
    (h.setAll as).value? k = (Assignment.last? k as).or (h.value? k) := by
  induction as generalizing h with
  | nil => rfl
  | cons a as ih =>
    show ((h.set a.1 a.2).setAll as).value? k = _
    rw [ih, value?_set, Assignment.last?_cons]
    by_cases hk : k = a.1 <;> cases Assignment.last? k as <;> simp [hk]

theorem Hierarchy.setAll_append (h : Hierarchy) (as bs : List (Key × String)) :
    h.setAll (as ++ bs) = (h.setAll as).setAll bs := List.foldl_append

/-! ## Well-formed keys -/

/-- Every stored key is well-formed. -/
def Hierarchy.WellFormed (h : Hierarchy) : Prop :=
  ∀ k v, h.value? k = some v → k.isWellFormed = true

namespace Hierarchy

theorem wellFormed_iff {h : Hierarchy} :
    h.WellFormed ↔ ∀ e ∈ h.entries, e.1.isWellFormed = true :=
  ⟨fun hw e he => hw e.1 e.2 (mem_entries_iff.1 he),
    fun hall _ _ hv => hall _ (mem_entries_iff.2 hv)⟩

theorem wellFormed_empty : empty.WellFormed := by
  intro k v hv
  simp at hv

theorem WellFormed.set {h : Hierarchy} (hw : h.WellFormed) {k : Key}
    (hk : k.isWellFormed = true) (v : String) : (h.set k v).WellFormed := by
  intro k' v' hv
  rw [value?_set] at hv
  split at hv
  · rename_i he
    rw [he]
    exact hk
  · exact hw k' v' hv

theorem WellFormed.setAll {h : Hierarchy} (hw : h.WellFormed) {as : List (Key × String)}
    (has : ∀ a ∈ as, a.1.isWellFormed = true) : (h.setAll as).WellFormed := by
  induction as generalizing h with
  | nil => exact hw
  | cons a as ih =>
    obtain ⟨ha, has⟩ := List.forall_mem_cons.1 has
    exact ih (hw.set ha a.2) has

theorem WellFormed.removeUnder {h : Hierarchy} (hw : h.WellFormed) (space : List String) :
    (h.removeUnder space).WellFormed := by
  intro k v hv
  rw [value?_removeUnder] at hv
  split at hv
  · simp at hv
  · exact hw k v hv

end Hierarchy

end SieveRun
