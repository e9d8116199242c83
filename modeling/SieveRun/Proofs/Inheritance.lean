import SieveRun.Proofs.Store
import Mathlib.Data.List.Induction

/-!
# Inheritance, one namespace at a time

A read looks at the key itself and then leaves the innermost namespace (`sources_concat`,
`get?_concat`). Said this way a read is a recursion on the path of its key, taken from the inner
end.

Removing a namespace is the case in point. A read from outside of it is answered as
before, since no key inside is among its sources. A read from inside loses all sources that lie
there, and these are the first ones (`sources_of_isUnder`), so it is left with what a read in the
enclosing namespace saw (`origin?_removeUnder`, `get?_removeUnder`).
-/

namespace SieveRun

namespace Hierarchy

/-- At the root there is nowhere to inherit from. -/
theorem get?_root (h : Hierarchy) (leaf : String) : h.get? ⟨[], leaf⟩ = h.value? ⟨[], leaf⟩ := by
  have hsources : Key.sources ⟨[], leaf⟩ = [⟨[], leaf⟩] := rfl
  rw [get?_eq_findSome?, hsources, List.findSome?_singleton]

/-- The further sources of a key are those of the key outside of its innermost namespace. -/
theorem sources_concat (path : List String) (name leaf : String) :
    Key.sources ⟨path ++ [name], leaf⟩ = ⟨path ++ [name], leaf⟩ :: Key.sources ⟨path, leaf⟩ := by
  rw [sources_eq_cons]
  refine congrArg (_ :: ·) ?_
  rw [Key.sources, List.length_append, List.length_singleton]
  refine List.map_congr_left fun depth hd => ?_
  have hle : depth ≤ path.length := by simpa [Nat.lt_succ_iff] using hd
  rw [List.take_append_of_le_length hle]

/-- What is not stored at the key itself is read outside of its innermost namespace. -/
theorem get?_concat (h : Hierarchy) (path : List String) (name leaf : String) :
    h.get? ⟨path ++ [name], leaf⟩ = (h.value? ⟨path ++ [name], leaf⟩).or (h.get? ⟨path, leaf⟩) := by
  rw [get?_eq_findSome?, sources_concat, List.findSome?_cons, get?_eq_findSome?]
  cases h.value? ⟨path ++ [name], leaf⟩ <;> rfl

theorem self_mem_sources (k : Key) : k ∈ k.sources := by
  rw [sources_eq_cons]
  exact List.mem_cons_self

/-! ## Removing a namespace -/

theorem isUnder_iff {space : List String} {k : Key} :
    k.isUnder space = true ↔ space <+: k.path := List.isPrefixOf_iff_prefix

theorem not_isUnder_dropLast {space : List String} (hspace : space ≠ []) (leaf : String) :
    ¬ Key.isUnder space ⟨space.dropLast, leaf⟩ = true := by
  intro hu
  have hlength := (isUnder_iff.1 hu).length_le
  have hpos := List.length_pos_iff.2 hspace
  rw [List.length_dropLast] at hlength
  omega

/-- Where a source lies inside of a namespace, the key does too. -/
theorem isUnder_of_mem_sources {space : List String} {k source : Key} (hs : source ∈ k.sources)
    (hu : source.isUnder space = true) : k.isUnder space = true := by
  obtain ⟨depth, -, rfl⟩ := List.mem_map.1 hs
  exact isUnder_iff.2 ((isUnder_iff.1 hu).trans (List.take_prefix depth k.path))

/-- The sources of a key inside of a namespace are first some that lie inside as well, and then
those of the same leaf right outside. -/
theorem sources_of_isUnder {space : List String} (hspace : space ≠ []) {k : Key}
    (hk : k.isUnder space = true) :
    ∃ deep, k.sources = deep ++ Key.sources ⟨space.dropLast, k.leaf⟩
      ∧ ∀ source ∈ deep, source.isUnder space = true := by
  obtain ⟨path, leaf⟩ := k
  obtain ⟨more, rfl⟩ := isUnder_iff.1 hk
  clear hk
  -- one namespace more is one source more in front
  induction more using List.reverseRecOn with
  | nil =>
    obtain ⟨outer, name, rfl⟩ := (List.eq_nil_or_concat' space).resolve_left hspace
    refine ⟨[⟨outer ++ [name], leaf⟩], ?_, ?_⟩
    · rw [List.append_nil, sources_concat, List.dropLast_concat]
      rfl
    · intro source hs
      rw [List.mem_singleton.1 hs]
      exact isUnder_iff.2 (List.prefix_refl _)
  | append_singleton more name ih =>
    obtain ⟨deep, hsources, hinside⟩ := ih
    refine ⟨⟨space ++ (more ++ [name]), leaf⟩ :: deep, ?_, ?_⟩
    · rw [← List.append_assoc, sources_concat, hsources]
      rfl
    · refine List.forall_mem_cons.2 ⟨?_, hinside⟩
      exact isUnder_iff.2 (List.prefix_append _ _)

/-- What answers a read from outside of the namespace is not removed. -/
theorem value?_removeUnder_of_mem_sources (h : Hierarchy) {space : List String} {k source : Key}
    (hk : ¬ k.isUnder space = true) (hs : source ∈ k.sources) :
    (h.removeUnder space).value? source = h.value? source := by
  rw [value?_removeUnder, if_neg fun hu => hk (isUnder_of_mem_sources hs hu)]

/-- **Where reads are answered after a namespace is removed.** -/
theorem origin?_removeUnder (h : Hierarchy) {space : List String} (hspace : space ≠ []) (k : Key) :
    (h.removeUnder space).origin? k =
      if k.isUnder space then h.origin? ⟨space.dropLast, k.leaf⟩ else h.origin? k := by
  split
  · rename_i hk
    obtain ⟨deep, hsources, hinside⟩ := sources_of_isUnder hspace hk
    have hdeep : deep.find? (h.removeUnder space).contains = none := by
      refine List.find?_eq_none.2 fun source hs => ?_
      rw [contains, value?_removeUnder, if_pos (hinside source hs)]
      simp
    rw [origin?, hsources, List.find?_append, hdeep, Option.none_or]
    exact origin?_congr fun source hs =>
      value?_removeUnder_of_mem_sources h (not_isUnder_dropLast hspace k.leaf) hs
  · rename_i hk
    exact origin?_congr fun source hs => value?_removeUnder_of_mem_sources h hk hs

/-- **Reads after a namespace is removed.** -/
theorem get?_removeUnder (h : Hierarchy) {space : List String} (hspace : space ≠ []) (k : Key) :
    (h.removeUnder space).get? k =
      if k.isUnder space then h.get? ⟨space.dropLast, k.leaf⟩ else h.get? k := by
  rw [get?, origin?_removeUnder h hspace]
  split
  · exact Option.bind_congr fun source hs =>
      value?_removeUnder_of_mem_sources h (not_isUnder_dropLast hspace k.leaf)
        (List.mem_of_find?_eq_some hs)
  · rename_i hk
    exact Option.bind_congr fun source hs =>
      value?_removeUnder_of_mem_sources h hk (List.mem_of_find?_eq_some hs)

end Hierarchy

end SieveRun
