import SieveRun.Hierarchy.Key

/-!
# The parameter hierarchy

Values stored under dotted keys. A read of a key that holds no value of its own inherits the
value of the same leaf in the nearest enclosing namespace that has one: of the keys that
agree with the wanted one except that namespaces are missing at the end of its path, the
deepest stored one answers (`origin?`, `get?`).

The entries are kept in tree order, so two hierarchies that store the same are equal and
printing walks the entries as they stand. What a hierarchy holds is seen through `value?`.
-/

namespace SieveRun

/-- Entries in tree order, each key once. -/
def Increasing (entries : List (Key × String)) : Prop :=
  entries.Pairwise fun a b => compare a.1 b.1 = .lt

/-- Entries with a value stored under `k`, in place of the one that was there. -/
def putEntry (k : Key) (v : String) : List (Key × String) → List (Key × String)
  | [] => [(k, v)]
  | e :: es =>
    match compare k e.1 with
    | .lt => (k, v) :: e :: es
    | .eq => (k, v) :: es
    | .gt => e :: putEntry k v es

theorem mem_putEntry {k : Key} {v : String} {e : Key × String} {es : List (Key × String)}
    (h : e ∈ putEntry k v es) : e = (k, v) ∨ e ∈ es := by
  induction es with
  | nil => simpa [putEntry] using h
  | cons f es ih =>
    rw [putEntry] at h
    split at h
    · simpa using h
    · rcases List.mem_cons.1 h with h | h
      · exact .inl h
      · exact .inr (List.mem_cons_of_mem _ h)
    · rcases List.mem_cons.1 h with h | h
      · exact .inr (by simp [h])
      · exact (ih h).imp_right (List.mem_cons_of_mem _)

theorem Increasing.put {es : List (Key × String)} (h : Increasing es) (k : Key) (v : String) :
    Increasing (putEntry k v es) := by
  induction es with
  | nil => simp [Increasing, putEntry]
  | cons e es ih =>
    obtain ⟨hhead, htail⟩ := List.pairwise_cons.1 h
    rw [putEntry]
    split
    · rename_i hlt
      refine List.pairwise_cons.2 ⟨?_, h⟩
      intro f hf
      rcases List.mem_cons.1 hf with rfl | hf
      · exact hlt
      · exact Std.TransCmp.lt_trans hlt (hhead f hf)
    · rename_i heq
      obtain rfl := Std.LawfulEqOrd.eq_of_compare heq
      exact List.pairwise_cons.2 ⟨hhead, htail⟩
    · rename_i hgt
      refine List.pairwise_cons.2 ⟨?_, ih htail⟩
      intro f hf
      rcases mem_putEntry hf with rfl | hf
      · exact Std.OrientedCmp.lt_of_gt hgt
      · exact hhead f hf

/-- Values under dotted keys, each key at most once. -/
structure Hierarchy where
  entries : List (Key × String)
  increasing : Increasing entries

namespace Hierarchy

/-- Nothing is stored. -/
def empty : Hierarchy := ⟨[], List.Pairwise.nil⟩

instance : Inhabited Hierarchy := ⟨empty⟩

/-- Two hierarchies with the same entries are the same. -/
@[ext] theorem ext {h h' : Hierarchy} (he : h.entries = h'.entries) : h = h' := by
  cases h
  cases h'
  simp_all

/-- The value stored at exactly this key. -/
def value? (h : Hierarchy) (k : Key) : Option String := h.entries.lookup k

/-- A value is stored at exactly this key. -/
def contains (h : Hierarchy) (k : Key) : Bool := (h.value? k).isSome

/-- The stored key that a read of `k` takes its value from. -/
def origin? (h : Hierarchy) (k : Key) : Option Key := k.sources.find? h.contains

/-- The value that a read of `k` sees, inherited or not. -/
def get? (h : Hierarchy) (k : Key) : Option String := (h.origin? k).bind h.value?

/-- With a value stored at exactly this key. -/
def set (h : Hierarchy) (k : Key) (v : String) : Hierarchy :=
  ⟨putEntry k v h.entries, h.increasing.put k v⟩

/-- With all the assignments stored, later ones over earlier ones. -/
def setAll (h : Hierarchy) (assignments : List (Key × String)) : Hierarchy :=
  assignments.foldl (fun h a => h.set a.1 a.2) h

/-- The entries inside a namespace, in tree order. -/
def under (h : Hierarchy) (space : List String) : List (Key × String) :=
  h.entries.filter fun e => e.1.isUnder space

/-- Without the entries inside a namespace. -/
def removeUnder (h : Hierarchy) (space : List String) : Hierarchy :=
  ⟨h.entries.filter fun e => !e.1.isUnder space, h.increasing.filter _⟩

/-- Nothing is stored here. -/
def isEmpty (h : Hierarchy) : Bool := h.entries.isEmpty

/-- One entry as a line. -/
def entryText (e : Key × String) : String := e.1.text ++ " = " ++ e.2 ++ "\n"

/-- All entries as lines, in tree order. -/
def text (h : Hierarchy) : String := String.join (h.entries.map entryText)

end Hierarchy

end SieveRun
