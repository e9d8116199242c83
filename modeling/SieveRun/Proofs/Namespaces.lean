import SieveRun.Proofs.Inheritance
import SieveRun.Proofs.Keys
import SieveRun.Proofs.Stage

/-!
# Namespaces

A key names a namespace too: the keys inside of it are those whose names go on after its own
(`Key.Inside`). On texts that is a test of how the text begins, since a well-formed name holds no
dot: a key lies inside of `tasks.sieve` exactly when its text goes on after `tasks.sieve.`
(`inside_ofText_iff`). So `tasks.sieves` and the key `tasks.sieve` itself lie outside.

Removing a namespace takes the entries inside and no others, and it does to reads what it has to:
a read from inside is left with what is inherited from outside (`namespaceRemoved_removeUnder`).
-/

namespace SieveRun

open Stage Text

namespace Key

variable {ns k : Key}

theorem dropLast_names (k : Key) : k.names.dropLast = k.path := by simp [names]

/-- The key lies in the namespace `ns`: its names go on after the names of `ns`. -/
def Inside (ns k : Key) : Prop := ∃ rest, rest ≠ [] ∧ k.names = ns.names ++ rest

theorem inside_iff_isUnder : Inside ns k ↔ k.isUnder ns.names = true := by
  rw [Hierarchy.isUnder_iff]
  constructor
  · rintro ⟨rest, hrest, hnames⟩
    -- the last of the names that follow is the leaf
    obtain ⟨more, leaf, rfl⟩ := (List.eq_nil_or_concat' rest).resolve_left hrest
    rw [names, ← List.append_assoc] at hnames
    exact ⟨more, (List.append_inj_left' hnames rfl).symm⟩
  · rintro ⟨more, hpath⟩
    refine ⟨more ++ [k.leaf], by simp, ?_⟩
    rw [names, ← hpath, List.append_assoc]

theorem not_inside_self (ns : Key) : ¬ Inside ns ns := by
  rintro ⟨rest, hrest, hnames⟩
  exact hrest (List.self_eq_append_right.1 hnames)

theorem namesOfText_append_dot (a b : String) :
    namesOfText (a ++ "." ++ b) = namesOfText a ++ namesOfText b := by
  have hlist : (a ++ "." ++ b).toList = a.toList ++ '.' :: b.toList := by
    simp [String.toList_append]
  rw [namesOfText, hlist, pieces_append_cons, List.map_append]
  rfl

/-- **Inside is a matter of how a text begins.** -/
theorem inside_ofText_iff (hns : ns.isWellFormed = true) (t : String) :
    Inside ns (ofText t) ↔ ∃ rest, t = ns.text ++ "." ++ rest := by
  have hnames : namesOfText ns.text = ns.names := by
    conv_rhs => rw [← ofText_text hns, ofText, names_ofNames (namesOfText_ne_nil _)]
  rw [Inside, ofText, names_ofNames (namesOfText_ne_nil t)]
  constructor
  · rintro ⟨rest, hrest, ht⟩
    refine ⟨(ofNames rest).text, String.toList_inj.1 ?_⟩
    conv_lhs => rw [← text_ofText t, ofText, ht]
    rw [text_toList, names_ofNames (by simp [hrest])]
    simp only [String.toList_append, text_toList, names_ofNames hrest, List.map_append]
    rw [join_append (by simp [names_ne_nil]) (by simp [hrest])]
    simp
  · rintro ⟨rest, rfl⟩
    refine ⟨namesOfText rest, namesOfText_ne_nil rest, ?_⟩
    rw [namesOfText_append_dot, hnames]

/-- And so it is for well-formed keys. -/
theorem inside_iff_text (hns : ns.isWellFormed = true) (hk : k.isWellFormed = true) :
    Inside ns k ↔ ∃ rest, k.text = ns.text ++ "." ++ rest := by
  rw [← inside_ofText_iff hns, ofText_text hk]

end Key

/-! ## Removal -/

/-- What becomes of a hierarchy when the namespace `ns` is removed from it, and which keys are
handed out as removed. -/
structure NamespaceRemoved (h : Hierarchy) (ns : Key) (removed : List Key) (h' : Hierarchy) :
    Prop where
  once : removed.Nodup
  inTreeOrder : removed.Pairwise fun a b => compare a b = .lt
  mem_iff : ∀ k, k ∈ removed ↔ (h.value? k).isSome ∧ Key.Inside ns k
  gone : ∀ k ∈ removed, h'.value? k = none
  kept : ∀ k, ¬ Key.Inside ns k → h'.value? k = h.value? k
  /-- Nothing is found inside any more. -/
  emptied : h'.under ns.names = []
  outside : ∀ q, ¬ Key.Inside ns q → h'.origin? q = h.origin? q ∧ h'.get? q = h.get? q
  /-- A read from inside is the read of the same leaf right outside. -/
  inside : ∀ q, Key.Inside ns q →
    h'.origin? q = h.origin? ⟨ns.path, q.leaf⟩ ∧ h'.get? q = h.get? ⟨ns.path, q.leaf⟩

theorem Stage.runOn_removeUnder (space : List String) (s : Session) :
    (removeUnder space).runOn s =
      (.ok ((s.params.under space).map Prod.fst), s.withParams (s.params.removeUnder space)) := rfl

namespace Hierarchy

variable {h : Hierarchy} {ns k : Key} {v : String} {space : List String}

theorem mem_under {e : Key × String} : e ∈ h.under space ↔ e ∈ h.entries ∧ space <+: e.1.path := by
  rw [under, List.mem_filter, isUnder_iff]

theorem mem_under_iff : (k, v) ∈ h.under space ↔ h.value? k = some v ∧ k.isUnder space = true := by
  rw [mem_under, mem_entries_iff, isUnder_iff]

theorem mem_keys_under_iff :
    k ∈ (h.under space).map Prod.fst ↔ (h.value? k).isSome ∧ k.isUnder space = true := by
  rw [List.mem_map, Option.isSome_iff_exists]
  constructor
  · rintro ⟨⟨key, v⟩, hmem, rfl⟩
    obtain ⟨hv, hk⟩ := mem_under_iff.1 hmem
    exact ⟨⟨v, hv⟩, hk⟩
  · rintro ⟨⟨v, hv⟩, hk⟩
    exact ⟨(k, v), mem_under_iff.2 ⟨hv, hk⟩, rfl⟩

theorem pairwise_keys_under (h : Hierarchy) (space : List String) :
    ((h.under space).map Prod.fst).Pairwise fun a b => compare a b = .lt :=
  List.pairwise_map.2 (h.increasing.filter _)

theorem under_removeUnder (h : Hierarchy) (space : List String) :
    (h.removeUnder space).under space = [] := by
  refine List.eq_nil_iff_forall_not_mem.2 fun ⟨k, v⟩ hmem => ?_
  obtain ⟨hv, hk⟩ := mem_under_iff.1 hmem
  rw [value?_removeUnder, if_pos hk] at hv
  exact absurd hv (by simp)

/-- Removing the entries inside removes the namespace. -/
theorem namespaceRemoved_removeUnder (h : Hierarchy) (ns : Key) :
    NamespaceRemoved h ns ((h.under ns.names).map Prod.fst) (h.removeUnder ns.names) where
  once := by
    refine (h.pairwise_keys_under ns.names).imp ?_
    rintro a b hlt rfl
    exact absurd hlt (by simp)
  inTreeOrder := h.pairwise_keys_under ns.names
  mem_iff k := by rw [mem_keys_under_iff, Key.inside_iff_isUnder]
  gone k hk := by rw [value?_removeUnder, if_pos (mem_keys_under_iff.1 hk).2]
  kept k hk := by rw [value?_removeUnder, if_neg fun hu => hk (Key.inside_iff_isUnder.2 hu)]
  emptied := under_removeUnder h ns.names
  outside q hq := by
    have hu : ¬ q.isUnder ns.names = true := fun hu => hq (Key.inside_iff_isUnder.2 hu)
    rw [origin?_removeUnder h (ns.names_ne_nil), get?_removeUnder h (ns.names_ne_nil), if_neg hu,
      if_neg hu]
    exact ⟨rfl, rfl⟩
  inside q hq := by
    have hu : q.isUnder ns.names = true := Key.inside_iff_isUnder.1 hq
    rw [origin?_removeUnder h (ns.names_ne_nil), get?_removeUnder h (ns.names_ne_nil), if_pos hu,
      if_pos hu, Key.dropLast_names]
    exact ⟨rfl, rfl⟩

end Hierarchy

open Hierarchy

/-- **Removing a namespace is exact.** It succeeds and changes nothing but parameters. Of these it
removes the ones inside and hands out their keys in tree order. What is stored elsewhere is kept, at
the namespace's own name too. Reads from outside are answered as before, and a read from inside is
answered as a read of the same leaf right outside was. Whether a key lies inside shows in its text,
which then goes on after the text of the namespace and a dot. -/
theorem namespace_removed (s : Session) (hw : s.params.WellFormed) {ns : Key}
    (hns : ns.isWellFormed = true) :
    ∃ removed h', (removeUnder ns.names).runOn s = (.ok removed, s.withParams h')
      ∧ NamespaceRemoved s.params ns removed h'
      ∧ h'.value? ns = s.params.value? ns
      ∧ (∀ t : String, Key.Inside ns (Key.ofText t) ↔ ∃ rest, t = ns.text ++ "." ++ rest)
      ∧ ∀ k v, s.params.value? k = some v →
          (k ∈ removed ↔ ∃ rest, k.text = ns.text ++ "." ++ rest) := by
  have hremoved := s.params.namespaceRemoved_removeUnder ns
  refine ⟨_, _, runOn_removeUnder ns.names s, hremoved, hremoved.kept ns (Key.not_inside_self ns),
    Key.inside_ofText_iff hns, fun k v hv => ?_⟩
  rw [hremoved.mem_iff, ← Key.inside_iff_text hns (hw k v hv), hv]
  exact and_iff_right rfl

/-- Clients under a namespace that is a key as well, with a neighbour of a longer name. -/
def clientsAndNeighbours : Hierarchy :=
  Hierarchy.empty.setAll [(⟨["slaves"], "nrclients"⟩, "2"),
    (⟨["slaves", "node"], "nrclients"⟩, "3"), (⟨[], "slaves"⟩, "on"),
    (⟨["slavesite"], "nrclients"⟩, "5"), (⟨[], "nrclients"⟩, "1")]

theorem clients_removed :
    ∃ removed h', (removeUnder ["slaves"]).runOn ((Session.ofFiles ⟨[], []⟩).withParams
          clientsAndNeighbours) = (.ok removed, (Session.ofFiles ⟨[], []⟩).withParams h')
      ∧ removed = [⟨["slaves"], "nrclients"⟩, ⟨["slaves", "node"], "nrclients"⟩]
      ∧ h'.value? ⟨[], "slaves"⟩ = some "on"
      ∧ h'.value? ⟨["slavesite"], "nrclients"⟩ = some "5"
      ∧ h'.get? ⟨["slaves", "node"], "nrclients"⟩ = some "1" := by
  have hw : clientsAndNeighbours.WellFormed := wellFormed_iff.2 (by decide +kernel)
  have hns : Key.isWellFormed ⟨[], "slaves"⟩ = true := by decide +kernel
  obtain ⟨removed, h', hrun, hremoved, hself, -⟩ := namespace_removed
    ((Session.ofFiles ⟨[], []⟩).withParams clientsAndNeighbours) hw hns
  have hkeys := Except.ok.inj (congrArg Prod.fst (hrun.symm.trans (runOn_removeUnder _ _)))
  refine ⟨removed, h', hrun, hkeys.trans (by decide +kernel), hself.trans (by decide +kernel), ?_,
    ?_⟩
  · refine (hremoved.kept _ fun hin => ?_).trans (by decide +kernel)
    exact absurd (Key.inside_iff_isUnder.1 hin) (by decide +kernel)
  · refine (hremoved.inside _ (Key.inside_iff_isUnder.2 (by decide +kernel))).2.trans ?_
    decide +kernel

end SieveRun
