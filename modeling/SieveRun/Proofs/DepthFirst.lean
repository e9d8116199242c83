import SieveRun.Proofs.Namespaces
import SieveRun.Proofs.TreeOrder
import Mathlib.Data.List.Dedup
import Mathlib.Data.List.Sort

/-!
# The entries as a depth-first walk

The entries of a hierarchy stand in tree order. Read as a walk, that order visits a namespace by
listing its leaves and then visiting its children one after the other, both by name
(`under_eq_walk`). So the entries inside of a namespace stand together, at whatever depth
(`under_infix`): one more namespace down is one child's part of a list whose entries stand together
already.

The walk is settled by its members. Both sides of it are in tree order and hold the same entries,
and an order leaves no choice how to list them (`Increasing.eq_of_mem_iff`).
-/

namespace SieveRun

open Text

namespace Hierarchy

variable {h : Hierarchy} {space : List String} {name : String} {e : Key × String}

/-- Tree order on entries. -/
def inTreeOrder (a b : Key × String) : Bool := (compare a.1 b.1).isLE

/-- The entries at the leaves of a namespace itself. -/
def leaves (h : Hierarchy) (space : List String) : List (Key × String) :=
  h.entries.filter fun e => decide (e.1.path = space)

/-- The names of the namespaces right inside of a namespace, as the entries bring them up. -/
def children (h : Hierarchy) (space : List String) : List String :=
  ((h.under space).filterMap fun e => e.1.path[space.length]?).dedup

/-! ## What a namespace holds -/

theorem under_root (h : Hierarchy) : h.under [] = h.entries := List.filter_eq_self.2 fun _ _ => rfl

theorem mem_leaves : e ∈ h.leaves space ↔ e ∈ h.entries ∧ e.1.path = space := by
  rw [leaves, List.mem_filter, decide_eq_true_iff]

theorem concat_prefix_iff {path : List String} :
    space ++ [name] <+: path ↔ space <+: path ∧ path[space.length]? = some name := by
  constructor
  · rintro ⟨more, rfl⟩
    exact ⟨by simp, by simp⟩
  · rintro ⟨⟨more, rfl⟩, hname⟩
    cases more with
    | nil => simp at hname
    | cons next more =>
      obtain rfl : next = name := by simpa using hname
      exact ⟨more, by simp⟩

/-- A child is a namespace with something in it. -/
theorem mem_children : name ∈ h.children space ↔ ∃ e, e ∈ h.under (space ++ [name]) := by
  simp only [children, List.mem_dedup, List.mem_filterMap, mem_under, concat_prefix_iff, and_assoc]

theorem mem_under_iff_leaf_or_child : e ∈ h.under space ↔
    e ∈ h.leaves space ∨ ∃ name ∈ h.children space, e ∈ h.under (space ++ [name]) := by
  rw [mem_under, mem_leaves]
  constructor
  · rintro ⟨he, more, hpath⟩
    cases more with
    | nil => exact .inl ⟨he, by rw [← hpath, List.append_nil]⟩
    | cons name more =>
      have hin : e ∈ h.under (space ++ [name]) :=
        mem_under.2 ⟨he, more, by rw [← hpath, List.append_assoc]; rfl⟩
      exact .inr ⟨name, mem_children.2 ⟨e, hin⟩, hin⟩
  · rintro (⟨he, rfl⟩ | ⟨name, -, hin⟩)
    · exact ⟨he, List.prefix_refl _⟩
    · obtain ⟨he, hleads⟩ := mem_under.1 hin
      exact ⟨he, (List.prefix_append _ _).trans hleads⟩

/-! ## The walk -/

theorem increasing_under (h : Hierarchy) (space : List String) : Increasing (h.under space) :=
  h.increasing.filter _

/-- The order of the entries is that of the children they lie in. -/
theorem children_increasing (h : Hierarchy) (space : List String) :
    (h.children space).Pairwise fun a b => compare a b = .lt := by
  have hle : ((h.under space).filterMap fun e => e.1.path[space.length]?).Pairwise
      fun a b => (compare a b).isLE = true := by
    refine List.pairwise_filterMap.2 ((h.increasing_under space).imp_of_mem ?_)
    intro e f he hf hlt a ha b hb
    obtain ⟨rest, hrest⟩ := Key.compare_of_children (concat_prefix_iff.2 ⟨(mem_under.1 he).2, ha⟩)
      (concat_prefix_iff.2 ⟨(mem_under.1 hf).2, hb⟩)
    rw [hlt] at hrest
    cases hab : compare a b with
    | lt => rfl
    | eq => rfl
    | gt => simp [hab] at hrest
  -- and no child is named twice
  refine ((hle.sublist (List.dedup_sublist _)).and (List.nodup_dedup _)).imp ?_
  rintro a b ⟨hle, hne⟩
  cases hab : compare a b with
  | lt => rfl
  | eq => exact absurd (Std.LawfulEqOrd.eq_of_compare hab) hne
  | gt => simp [hab] at hle

/-- **One step of the walk**: the leaves of a namespace, then its children. -/
theorem under_eq_walk (h : Hierarchy) (space : List String) :
    h.under space =
      h.leaves space ++ (h.children space).flatMap fun name => h.under (space ++ [name]) := by
  refine (h.increasing_under space).eq_of_mem_iff ?_ fun e => ?_
  · refine List.pairwise_append.2 ⟨h.increasing.filter _, List.pairwise_flatMap.2 ⟨?_, ?_⟩, ?_⟩
    · exact fun name _ => h.increasing_under _
    · refine (h.children_increasing space).imp fun {a b} hab e he f hf => ?_
      obtain ⟨rest, hrest⟩ := Key.compare_of_children (mem_under.1 he).2 (mem_under.1 hf).2
      rw [hrest, hab]
      rfl
    · intro e he f hf
      obtain ⟨name, -, hf⟩ := List.mem_flatMap.1 hf
      obtain rfl := (mem_leaves.1 he).2
      exact Key.compare_of_path_prefix e.1.leaf (mem_under.1 hf).2
  · rw [mem_under_iff_leaf_or_child, List.mem_append, List.mem_flatMap]

/-- The entries inside of a namespace stand together. -/
theorem under_infix (h : Hierarchy) (space : List String) : h.under space <:+: h.entries := by
  induction space using List.reverseRecOn with
  | nil => exact ⟨[], [], by simp [under_root]⟩
  | append_singleton space name ih =>
    refine List.IsInfix.trans ?_ ih
    by_cases hname : name ∈ h.children space
    · obtain ⟨before, after, hsplit⟩ := List.append_of_mem hname
      have hwalk := under_eq_walk h space
      rw [hsplit, List.flatMap_append, List.flatMap_cons, ← List.append_assoc,
        ← List.append_assoc] at hwalk
      exact ⟨_, _, hwalk.symm⟩
    · have hnil : h.under (space ++ [name]) = [] :=
        List.eq_nil_iff_forall_not_mem.2 fun e he => hname (mem_children.2 ⟨e, he⟩)
      rw [hnil]
      exact List.nil_infix

/-- What stands outside of the block of a namespace lies outside of the namespace. -/
theorem not_isUnder_of_split {before after : List (Key × String)}
    (hsplit : h.entries = before ++ h.under space ++ after) (he : e ∈ before ++ after) :
    ¬ e.1.isUnder space = true := by
  intro hu
  -- as many entries lie inside as the block has
  have hcount : (h.under space).length =
      ((before ++ after).filter fun e => e.1.isUnder space).length + (h.under space).length := by
    have hself : (h.under space).filter (fun e => e.1.isUnder space) = h.under space :=
      List.filter_eq_self.2 fun e he => (List.mem_filter.1 he).2
    conv_lhs => rw [under, hsplit]
    rw [List.filter_append, List.filter_append, hself, List.filter_append]
    simp only [List.length_append]
    omega
  have hmem : e ∈ (before ++ after).filter fun e => e.1.isUnder space := List.mem_filter.2 ⟨he, hu⟩
  have hpos := List.length_pos_of_mem hmem
  omega

/-! ## Arranging entries -/

/-- Entries arranged in tree order stand as they do in the hierarchy, whichever order they had. -/
theorem mergeSort_inTreeOrder {stored es : List (Key × String)} (hes : Increasing es)
    (hperm : stored.Perm es) : stored.mergeSort inTreeOrder = es := by
  have hsorted : (stored.mergeSort inTreeOrder).Pairwise fun a b => inTreeOrder a b = true :=
    List.pairwise_mergeSort (fun _ _ _ => Std.TransCmp.isLE_trans)
      (fun a b => by
        unfold inTreeOrder
        rw [Std.OrientedOrd.eq_swap (a := b.1)]
        cases compare a.1 b.1 <;> rfl)
      stored
  have hall := (List.mergeSort_perm stored inTreeOrder).trans hperm
  refine hall.eq_of_pairwise (fun a b ha hb hab hba => ?_) hsorted (hes.imp ?_)
  · have hkey : a.1 = b.1 := Std.LawfulEqOrd.eq_of_compare (Std.OrientedCmp.isLE_antisymm hab hba)
    have hva := hes.lookup_eq_some_iff.2 (hall.subset ha)
    have hvb := hes.lookup_eq_some_iff.2 hb
    rw [hkey, hvb] at hva
    exact Prod.ext hkey (Option.some.inj hva).symm
  · intro a b hlt
    rw [inTreeOrder, hlt]
    rfl

/-! ## Printing -/

/-- The entries inside of a namespace as lines. -/
def textUnder (h : Hierarchy) (space : List String) : String :=
  String.join ((h.under space).map entryText)

theorem textUnder_root (h : Hierarchy) : h.textUnder [] = h.text := by
  rw [textUnder, under_root, text]

/-- One line for each entry, in their order. -/
theorem textUnder_eq_lines (h : Hierarchy) (space : List String) :
    h.textUnder space =
      String.join ((h.under space).map fun e => e.1.text ++ " = " ++ e.2 ++ "\n") := rfl

theorem text_eq_lines (h : Hierarchy) :
    h.text = String.join (h.entries.map fun e => e.1.text ++ " = " ++ e.2 ++ "\n") := by
  rw [← textUnder_root, textUnder_eq_lines, under_root]

theorem textUnder_eq_walk (h : Hierarchy) (space : List String) :
    h.textUnder space = String.join ((h.leaves space).map entryText)
      ++ String.join ((h.children space).map fun name => h.textUnder (space ++ [name])) := by
  unfold textUnder
  rw [under_eq_walk, ← String.toList_inj]
  simp [String.toList_join, String.toList_append, List.flatMap_map, List.flatMap_assoc]

/-! ## Names in byte order -/

theorem WellFormed.isName_of_mem {h : Hierarchy} (hw : h.WellFormed) (he : e ∈ h.entries)
    (hname : name ∈ e.1.names) : Key.isName name = true :=
  Key.isWellFormed_iff.1 (wellFormed_iff.1 hw e he) name hname

theorem leaves_byBytes (hw : h.WellFormed) (space : List String) :
    (h.leaves space).Pairwise fun a b => utf8 a.1.leaf < utf8 b.1.leaf := by
  have hincreasing : Increasing (h.leaves space) := h.increasing.filter _
  refine hincreasing.imp_of_mem fun {a b} ha hb hlt => ?_
  obtain ⟨ha, hpa⟩ := mem_leaves.1 ha
  obtain ⟨hb, hpb⟩ := mem_leaves.1 hb
  refine Key.utf8_lt (hw.isName_of_mem ha (by simp [Key.names]))
    (hw.isName_of_mem hb (by simp [Key.names])) ?_
  have hka : a.1 = ⟨space, a.1.leaf⟩ := by rw [← hpa]
  have hkb : b.1 = ⟨space, b.1.leaf⟩ := by rw [← hpb]
  rwa [hka, hkb, Key.compare_of_path_eq] at hlt

theorem children_byBytes (hw : h.WellFormed) (space : List String) :
    (h.children space).Pairwise fun a b => utf8 a < utf8 b := by
  have hisName : ∀ name ∈ h.children space, Key.isName name = true := by
    intro name hname
    obtain ⟨e, he⟩ := mem_children.1 hname
    obtain ⟨he, hleads⟩ := mem_under.1 he
    exact hw.isName_of_mem he (List.mem_append_left _ (hleads.subset (by simp)))
  exact (h.children_increasing space).imp_of_mem fun ha hb hlt =>
    Key.utf8_lt (hisName _ ha) (hisName _ hb) hlt

end Hierarchy

open Hierarchy

/-- The entries of a hierarchy visit a namespace depth first. -/
structure DepthFirst (h : Hierarchy) (space : List String) : Prop where
  /-- The namespace is one block of the entries. -/
  block : ∃ before after, h.entries = before ++ h.under space ++ after
    ∧ ∀ e ∈ before ++ after, ¬ e.1.isUnder space = true
  /-- In the block the leaves come first and then the blocks of the children. -/
  walk : h.under space =
    h.leaves space ++ (h.children space).flatMap fun name => h.under (space ++ [name])
  mem_leaves_iff : ∀ e, e ∈ h.leaves space ↔ e ∈ h.entries ∧ e.1.path = space
  mem_children_iff : ∀ name, name ∈ h.children space ↔
    ∃ e ∈ h.entries, space ++ [name] <+: e.1.path
  leavesByBytes : (h.leaves space).Pairwise fun a b => utf8 a.1.leaf < utf8 b.1.leaf
  childrenByBytes : (h.children space).Pairwise fun a b => utf8 a < utf8 b
  /-- Every entry of the block is printed as one line. -/
  lines : h.textUnder space =
    String.join ((h.under space).map fun e => e.1.text ++ " = " ++ e.2 ++ "\n")
  /-- Printing goes the same way. -/
  printed : h.textUnder space =
    String.join ((h.leaves space).map fun e => e.1.text ++ " = " ++ e.2 ++ "\n")
      ++ String.join ((h.children space).map fun name => h.textUnder (space ++ [name]))

theorem Hierarchy.depthFirst {h : Hierarchy} (hw : h.WellFormed) (space : List String) :
    DepthFirst h space where
  block := by
    obtain ⟨before, after, hsplit⟩ := h.under_infix space
    exact ⟨before, after, hsplit.symm, fun _ he => not_isUnder_of_split hsplit.symm he⟩
  walk := h.under_eq_walk space
  mem_leaves_iff _ := mem_leaves
  mem_children_iff name := by
    simp only [mem_children, mem_under]
  leavesByBytes := leaves_byBytes hw space
  childrenByBytes := children_byBytes hw space
  lines := h.textUnder_eq_lines space
  printed := h.textUnder_eq_walk space

/-- **The entries are a depth-first walk of the tree of keys.** Every stored pair stands there once,
in tree order, whichever order they were kept in. That order is linear, and it ranks keys by their
marked names. The root holds all entries, and there as in every namespace the entries inside are one
block: first the leaves by their bytes, then the blocks of the children by theirs. That order is
printed, one line with key and value for each entry. What is found in a namespace by the beginning
of its text is its block, and arranging it changes nothing. -/
theorem entries_walked_depth_first (h : Hierarchy) (hw : h.WellFormed) :
    (∀ k v, (k, v) ∈ h.entries ↔ h.value? k = some v) ∧ h.entries.Nodup
      ∧ (h.entries.Pairwise fun a b => compare a.1 b.1 = .lt)
      ∧ (∀ stored : List (Key × String), stored.Perm h.entries →
          stored.mergeSort inTreeOrder = h.entries)
      ∧ (∀ k k' : Key, compare k k' = List.compareLex Key.compareMarked k.marked k'.marked)
      ∧ (∀ k k' : Key, compare k k' = .eq ↔ k = k')
      ∧ (∀ k k' : Key, compare k' k = (compare k k').swap)
      ∧ (∀ k₁ k₂ k₃ : Key, compare k₁ k₂ = .lt → compare k₂ k₃ = .lt → compare k₁ k₃ = .lt)
      ∧ h.under [] = h.entries ∧ h.textUnder [] = h.text
      ∧ h.text = String.join (h.entries.map fun e => e.1.text ++ " = " ++ e.2 ++ "\n")
      ∧ (∀ space, DepthFirst h space)
      ∧ ∀ ns : Key, ns.isWellFormed = true →
          (∀ e, e ∈ h.under ns.names ↔ e ∈ h.entries ∧ ∃ rest, e.1.text = ns.text ++ "." ++ rest)
          ∧ ∀ found : List (Key × String), found.Perm (h.under ns.names) →
              found.mergeSort inTreeOrder = h.under ns.names := by
  refine ⟨fun _ _ => mem_entries_iff, h.increasing.nodup, h.increasing,
    fun _ => mergeSort_inTreeOrder h.increasing, Key.compare_eq_marked,
    fun _ _ => Std.LawfulEqOrd.compare_eq_iff_eq, fun _ _ => Std.OrientedOrd.eq_swap,
    fun _ _ _ => Std.TransCmp.lt_trans, h.under_root, h.textUnder_root, h.text_eq_lines,
    depthFirst hw, ?_⟩
  refine fun ns hns => ⟨fun e => ?_, fun _ => mergeSort_inTreeOrder (h.increasing_under ns.names)⟩
  rw [mem_under]
  refine and_congr_right fun he => ?_
  rw [← Key.inside_iff_text hns (wellFormed_iff.1 hw e he), Key.inside_iff_isUnder, isUnder_iff]

/-- A tree where the namespace of the tasks has a leaf `sieve` and a child `sieve`, and a leaf that
sorts behind the child. -/
def sieveTasks : Hierarchy :=
  Hierarchy.empty.setAll [(⟨["tasks", "sieve"], "threads"⟩, "2"), (⟨["tasks"], "threads"⟩, "4"),
    (⟨["tasks"], "sieve"⟩, "on"), (⟨[], "N"⟩, "90"), (⟨["tasks", "Linalg"], "threads"⟩, "8")]

theorem sieveTasks_walked :
    sieveTasks.under ["tasks"] = sieveTasks.leaves ["tasks"]
        ++ (sieveTasks.under ["tasks", "Linalg"] ++ sieveTasks.under ["tasks", "sieve"])
      ∧ sieveTasks.under ["tasks"] =
        [(⟨["tasks"], "sieve"⟩, "on"), (⟨["tasks"], "threads"⟩, "4"),
          (⟨["tasks", "Linalg"], "threads"⟩, "8"), (⟨["tasks", "sieve"], "threads"⟩, "2")]
      ∧ sieveTasks.text = "N = 90\ntasks.sieve = on\ntasks.threads = 4\n" ++
          "tasks.Linalg.threads = 8\ntasks.sieve.threads = 2\n"
      ∧ ∃ rest, Key.text ⟨["tasks"], "sieve"⟩ = Key.text ⟨[], "tasks"⟩ ++ "." ++ rest := by
  have hw : sieveTasks.WellFormed := wellFormed_iff.2 (by decide +kernel)
  obtain ⟨-, -, -, -, -, -, -, -, -, -, hlines, hwalk, hfound⟩ :=
    entries_walked_depth_first sieveTasks hw
  have hchildren : sieveTasks.children ["tasks"] = ["Linalg", "sieve"] := by decide +kernel
  have hblock := (hwalk ["tasks"]).walk
  rw [hchildren] at hblock
  have hin : (⟨["tasks"], "sieve"⟩, "on") ∈ sieveTasks.under (Key.names ⟨[], "tasks"⟩) := by
    decide +kernel
  exact ⟨by simpa using hblock, by decide +kernel, hlines.trans (by decide +kernel),
    (((hfound ⟨[], "tasks"⟩ (by decide +kernel)).1 _).1 hin).2⟩

end SieveRun
