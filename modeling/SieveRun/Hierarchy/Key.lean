import SieveRun.Text.Decimal
import SieveRun.Text.Pieces

/-!
# Parameter keys

A key such as `tasks.sieve.threads` names a leaf, `threads`, inside nested namespaces,
`tasks` and `sieve`. Any text reads as a key: its pieces between dots are the names
(`Key.ofText`, undone by `Key.text`). A key is *well-formed* when every name is a nonempty
run of ASCII letters, digits, underscores and hyphens; only such keys can be assigned.

Keys are compared in *tree order*: walking down from the root, the leaves of a namespace
come before its child namespaces, and each of the two groups is in the order of the names.
The order is linear and ties are equal keys, which is what the instances at the end say.
-/

namespace SieveRun

open Text

/-- A dotted key: the namespaces from the outside in, and the leaf. -/
structure Key where
  path : List String
  leaf : String
  deriving DecidableEq, Repr

namespace Key

/-- All names of the key, outermost namespace first and leaf last. -/
def names (k : Key) : List String := k.path ++ [k.leaf]

/-- The key with these names; the last one is the leaf. -/
def ofNames (names : List String) : Key := ⟨names.dropLast, names.getLast?.getD ""⟩

/-- The names in a dotted text. -/
def namesOfText (text : String) : List String := (pieces '.' text.toList).map String.ofList

/-- The key that a text spells. -/
def ofText (text : String) : Key := ofNames (namesOfText text)

/-- The names with dots between them. -/
def text (k : Key) : String := String.ofList (join '.' (k.names.map String.toList))

/-- A character of a well-formed name. -/
def isNameChar (c : Char) : Bool :=
  (decide ('A' ≤ c) && decide (c ≤ 'Z')) || (decide ('a' ≤ c) && decide (c ≤ 'z')) ||
    isDigit c || c == '_' || c == '-'

/-- A well-formed name. -/
def isName (name : String) : Bool := name ≠ "" && name.toList.all isNameChar

/-- Every name of the key is well-formed. -/
def isWellFormed (k : Key) : Bool := k.names.all isName

/-- The well-formed key that a text spells, if it spells one. -/
def parse? (text : String) : Option Key :=
  if (ofText text).isWellFormed then some (ofText text) else none

/-- The keys that a read of `k` consults, deepest first: the leaf in ever shorter leading
runs of the namespaces. -/
def sources (k : Key) : List Key :=
  (List.range (k.path.length + 1)).reverse.map fun depth => ⟨k.path.take depth, k.leaf⟩

/-- The key lies in a namespace, however deep. -/
def isUnder (space : List String) (k : Key) : Bool := space.isPrefixOf k.path

/-- Tree order on the names of two keys. -/
def compareInTree : List String → String → List String → String → Ordering
  | [], l, [], m => compare l m
  | [], _, _ :: _, _ => .lt
  | _ :: _, _, [], _ => .gt
  | a :: p, l, b :: q, m => (compare a b).then (compareInTree p l q m)

instance : Ord Key := ⟨fun k k' => compareInTree k.path k.leaf k'.path k'.leaf⟩

/-! ## Tree order is a linear order -/

theorem compareInTree_swap (p q : List String) (l m : String) :
    compareInTree p l q m = (compareInTree q m p l).swap := by
  fun_induction compareInTree p l q m with
  | case1 l m => simpa [compareInTree] using Std.OrientedOrd.eq_swap
  | case2 => rfl
  | case3 => rfl
  | case4 a p l b q m ih =>
    rw [compareInTree, Ordering.swap_then, ← ih, ← Std.OrientedOrd.eq_swap]

theorem compareInTree_self (p : List String) (l : String) : compareInTree p l p l = .eq := by
  induction p with
  | nil => simp [compareInTree]
  | cons a p ih => simp [compareInTree, ih]

theorem eq_of_compareInTree {p q : List String} {l m : String} (h : compareInTree p l q m = .eq) :
    p = q ∧ l = m := by
  fun_induction compareInTree p l q m with
  | case1 l m => exact ⟨rfl, Std.LawfulEqOrd.eq_of_compare h⟩
  | case2 => simp at h
  | case3 => simp at h
  | case4 a p l b q m ih =>
    obtain ⟨hab, hrest⟩ := Ordering.then_eq_eq.1 h
    obtain ⟨rfl, rfl⟩ := ih hrest
    exact ⟨by rw [Std.LawfulEqOrd.eq_of_compare hab], rfl⟩

theorem compareInTree_isLE_trans {p q r : List String} {l m n : String}
    (h₁ : (compareInTree p l q m).isLE = true) (h₂ : (compareInTree q m r n).isLE = true) :
    (compareInTree p l r n).isLE = true := by
  induction p generalizing q r with
  | nil =>
    cases r with
    | cons c r => rfl
    | nil =>
      cases q with
      | nil => exact Std.TransOrd.isLE_trans h₁ h₂
      | cons b q => simp [compareInTree] at h₂
  | cons a p ih =>
    cases q with
    | nil => simp [compareInTree] at h₁
    | cons b q =>
      cases r with
      | nil => simp [compareInTree] at h₂
      | cons c r =>
        simp only [compareInTree] at h₁ h₂ ⊢
        cases hab : compare a b <;> simp only [hab, Ordering.then] at h₁
        · cases hbc : compare b c <;> simp only [hbc, Ordering.then] at h₂
          · rw [Std.TransCmp.lt_trans hab hbc]; rfl
          · rw [Std.LawfulEqOrd.eq_of_compare hbc] at hab
            rw [hab]; rfl
          · simp at h₂
        · rw [Std.LawfulEqOrd.eq_of_compare hab]
          cases hbc : compare b c <;> simp only [hbc, Ordering.then] at h₂ ⊢
          · rfl
          · exact ih h₁ h₂
          · simp at h₂
        · simp at h₁

instance : Std.OrientedOrd Key where
  eq_swap := compareInTree_swap _ _ _ _

instance : Std.TransOrd Key where
  isLE_trans := compareInTree_isLE_trans

instance : Std.LawfulEqOrd Key where
  compare_self := compareInTree_self _ _
  eq_of_compare {k k'} h := by
    obtain ⟨hp, hl⟩ := eq_of_compareInTree h
    cases k
    cases k'
    simp_all

/-! ## Spelling -/

theorem namesOfText_ne_nil (text : String) : namesOfText text ≠ [] := by
  simp [namesOfText, pieces_ne_nil]

theorem names_ofNames {names : List String} (h : names ≠ []) : (ofNames names).names = names := by
  simp only [ofNames, Key.names]
  rw [List.getLast?_eq_some_getLast h]
  exact List.dropLast_concat_getLast h

/-- Reading a text as a key loses nothing. -/
theorem text_ofText (t : String) : (ofText t).text = t := by
  have h : (String.toList ∘ String.ofList) = id := by funext l; simp
  rw [ofText, text, names_ofNames (namesOfText_ne_nil t), namesOfText, List.map_map, h, List.map_id,
    join_pieces, String.ofList_toList]

end Key

end SieveRun
