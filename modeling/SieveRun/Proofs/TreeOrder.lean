import SieveRun.Proofs.Keys
import SieveRun.Proofs.Spelling

/-!
# Tree order

Tree order compares keys name by name, with every name marked by whether it is a namespace or the
leaf, and the mark counts first (`compare_eq_marked`). So one word ranks differently as a leaf and
as a namespace, and of two keys in one namespace the leaf comes first.

Two facts make a namespace a block of the order. Names that two keys share at the front do not
count (`compareInTree_append`), and neither does what stands behind the first difference
(`compare_of_children`). Among well-formed names the order is that of their bytes (`utf8_lt`).
-/

namespace SieveRun

open Text

namespace Key

variable {k k' : Key} {space : List String}

/-! ## Marked names -/

/-- The names of a key, the namespaces marked with one and the leaf with zero. -/
def marked (k : Key) : List (Nat × String) := k.path.map (fun name => (1, name)) ++ [(0, k.leaf)]

/-- The mark decides first. -/
def compareMarked (x y : Nat × String) : Ordering := (compare x.1 y.1).then (compare x.2 y.2)

theorem compareMarked_same (mark : Nat) (a b : String) :
    compareMarked (mark, a) (mark, b) = compare a b := by
  simp [compareMarked]

theorem compareInTree_eq_marked (p q : List String) (l m : String) :
    compareInTree p l q m = List.compareLex compareMarked (marked ⟨p, l⟩) (marked ⟨q, m⟩) := by
  fun_induction compareInTree p l q m with
  | case1 l m =>
    show _ = List.compareLex compareMarked [(0, l)] [(0, m)]
    rw [List.compareLex_cons_cons, compareMarked_same, List.compareLex_nil_nil, Ordering.then_eq]
  | case2 => rfl
  | case3 => rfl
  | case4 a p l b q m ih =>
    show _ = List.compareLex compareMarked ((1, a) :: marked ⟨p, l⟩) ((1, b) :: marked ⟨q, m⟩)
    rw [List.compareLex_cons_cons, compareMarked_same, ih]

/-- Tree order is the lexicographic order of the marked names. -/
theorem compare_eq_marked (k k' : Key) :
    compare k k' = List.compareLex compareMarked k.marked k'.marked :=
  compareInTree_eq_marked k.path k'.path k.leaf k'.leaf

/-! ## Namespaces in tree order -/

/-- Namespaces that both keys lie in do not count. -/
theorem compareInTree_append (p q r : List String) (l m : String) :
    compareInTree (p ++ q) l (p ++ r) m = compareInTree q l r m := by
  induction p with
  | nil => rfl
  | cons a p ih =>
    rw [List.cons_append, List.cons_append, compareInTree, ih, Std.ReflOrd.compare_self,
      Ordering.eq_then]

theorem compare_of_path_eq (space : List String) (l m : String) :
    compare (⟨space, l⟩ : Key) ⟨space, m⟩ = compare l m := by
  have h := compareInTree_append space [] [] l m
  rwa [List.append_nil] at h

/-- A leaf of a namespace comes before all that lies in a child of the namespace. -/
theorem compare_of_path_prefix {name : String} (l : String) (hk : space ++ [name] <+: k.path) :
    compare (⟨space, l⟩ : Key) k = .lt := by
  obtain ⟨more, hpath⟩ := hk
  show compareInTree space l k.path k.leaf = .lt
  have h := compareInTree_append space [] (name :: more) l k.leaf
  rwa [List.append_nil, List.append_cons, hpath] at h

/-- The children of a namespace are compared before what lies in them. -/
theorem compare_of_children {a b : String} (hk : space ++ [a] <+: k.path)
    (hk' : space ++ [b] <+: k'.path) : ∃ rest, compare k k' = (compare a b).then rest := by
  obtain ⟨p, hp⟩ := hk
  obtain ⟨q, hq⟩ := hk'
  refine ⟨compareInTree p k.leaf q k'.leaf, ?_⟩
  show compareInTree k.path k.leaf k'.path k'.leaf = _
  rw [← hp, ← hq, List.append_assoc, List.append_assoc, compareInTree_append]
  rfl

/-! ## Byte order -/

theorem utf8EncodeChar_of_isNameChar {c : Char} (h : isNameChar c = true) :
    String.utf8EncodeChar c = [c.val.toUInt8] :=
  utf8EncodeChar_of_toNat_lt (Nat.lt_of_le_of_lt (isNameChar_toNat h).2 (by decide))

theorem toUInt8_lt {c d : Char} (hc : isNameChar c = true) (hd : isNameChar d = true)
    (hlt : c < d) : c.val.toUInt8 < d.val.toUInt8 := by
  have hc' : c.val.toNat ≤ 0x7A := (isNameChar_toNat hc).2
  have hd' : d.val.toNat ≤ 0x7A := (isNameChar_toNat hd).2
  rw [Char.lt_def, UInt32.lt_iff_toNat_lt] at hlt
  rw [UInt8.lt_iff_toNat_lt, UInt32.toNat_toUInt8, UInt32.toNat_toUInt8]
  omega

/-- The induction follows the first difference of the two names. -/
theorem encoded_lt {cs ds : List Char} (hcs : ∀ c ∈ cs, isNameChar c = true)
    (hds : ∀ d ∈ ds, isNameChar d = true) (hlt : cs < ds) :
    cs.flatMap String.utf8EncodeChar < ds.flatMap String.utf8EncodeChar := by
  induction hlt with
  | nil =>
    rw [List.flatMap_cons, utf8EncodeChar_of_isNameChar (hds _ List.mem_cons_self)]
    exact List.Lex.nil
  | @cons c cs ds _ ih =>
    obtain ⟨hc, hcs⟩ := List.forall_mem_cons.1 hcs
    obtain ⟨-, hds⟩ := List.forall_mem_cons.1 hds
    rw [List.flatMap_cons, List.flatMap_cons, utf8EncodeChar_of_isNameChar hc]
    exact List.Lex.cons (ih hcs hds)
  | @rel c cs d ds hcd =>
    have hc := hcs c List.mem_cons_self
    have hd := hds d List.mem_cons_self
    rw [List.flatMap_cons, List.flatMap_cons, utf8EncodeChar_of_isNameChar hc,
      utf8EncodeChar_of_isNameChar hd]
    exact List.Lex.rel (toUInt8_lt hc hd hcd)

/-- Of two well-formed names the lesser is the one with the lesser bytes. -/
theorem utf8_lt {a b : String} (ha : isName a = true) (hb : isName b = true)
    (hlt : compare a b = .lt) : utf8 a < utf8 b := by
  have hlt : a < b := compareOfLessAndEq_eq_lt.1 hlt
  rw [← String.ofList_toList (s := a), ← String.ofList_toList (s := b), utf8_ofList, utf8_ofList]
  exact encoded_lt (isName_iff.1 ha).2 (isName_iff.1 hb).2 (String.lt_iff.1 hlt)

end Key

end SieveRun
