import SieveRun.Proofs.Changes
import SieveRun.Proofs.Printing

/-!
# Printing what was loaded

A hierarchy that was filled from files alone holds no value at random: each one was once the
part of a line behind its equals sign, up to the comment and without outer blanks (`Inline`).
That is almost what printing preserves. The line that is printed has a blank after the equals
sign, and the line that was read may have had none: there `a.k=#b` had a value, and in
`a.k = #b` it is a comment.

Nothing else goes wrong. The printed text can always be read, no key is lost, and the values
that come back changed are those with a `#` in front, which come back empty (`reloaded`).
-/

namespace SieveRun

open Stage Text Assignment Hierarchy

variable {h : Hierarchy} {s s' : Session} {files : FileSystem} {file : Path} {k : Key} {v : String}
  {as : List (Key × String)}

/-! ## Values that come from lines -/

/-- A value as a line of a file can hold it. -/
structure Inline (v : String) : Prop where
  trimmed : trim v.toList = v.toList
  oneLine : '\n' ∉ v.toList
  /-- No comment opens in it, except that a `#` may stand in front. -/
  noLaterComment : beforeComment false v.toList = v.toList

theorem inline_of_ofText {text : String} (hread : ofText text = .ok as) :
    ∀ a ∈ as, Inline a.2 := by
  intro a ha
  obtain ⟨line, -, hline⟩ := (mem_iff_exists_line hread).1 ha
  obtain ⟨before, after, -, hvalue⟩ := value_eq_of_line hline
  refine ⟨?_, ofText_oneLine hread a ha, ?_⟩
  · rw [hvalue, trim_trim]
  · rw [hvalue]
    exact beforeComment_false_of_infix (beforeComment_beforeComment false after) (trim_within _)

/-- What a value reads back as from the line that it is printed on. -/
def reloaded (v : String) : String := if v.toList.head? = some '#' then "" else v

theorem Inline.readBack_eq (hv : Inline v) :
    String.ofList (readBack v.toList) = reloaded v := by
  rw [readBack, withoutReturn_eq_self hv.trimmed, beforeComment_true_eq_ite, reloaded,
    hv.noLaterComment]
  split
  · rfl
  · rw [hv.trimmed, String.ofList_toList]

theorem reloaded_eq_self_iff : reloaded v = v ↔ v.toList.head? ≠ some '#' := by
  rw [reloaded]
  split
  · rename_i hhash
    simp only [hhash, ne_eq, not_true_eq_false, iff_false]
    intro hv
    rw [← hv] at hhash
    simp at hhash
  · rename_i hhash
    simp [hhash]

/-! ## Hierarchies that come from files -/

/-- A hierarchy that merging files into an empty one leads to, whatever the files are. -/
inductive Loaded : Hierarchy → Prop
  | empty : Loaded .empty
  | merge {s s' : Session} {file : Path} (before : Loaded s.params)
      (run : (mergeFile file).runOn s = (.ok (), s')) : Loaded s'.params

/-- What files keep of a hierarchy: well-formed keys, and values that fit on their lines. -/
structure FromLines (h : Hierarchy) : Prop where
  wellFormed : h.WellFormed
  inline : ∀ k v, h.value? k = some v → Inline v

theorem fromLines_empty : FromLines .empty :=
  ⟨wellFormed_empty, fun k v hv => absurd hv (by simp)⟩

theorem FromLines.setAll (hh : FromLines h) (hkeys : ∀ a ∈ as, a.1.isWellFormed = true)
    (hvalues : ∀ a ∈ as, Inline a.2) : FromLines (h.setAll as) := by
  refine ⟨fun k v hv => ?_, fun k v hv => ?_⟩
  all_goals
    rw [value?_setAll, Option.or_eq_some_iff] at hv
    rcases hv with hlast | ⟨-, hstored⟩
  · exact hkeys _ (mem_of_last? hlast)
  · exact hh.wellFormed k v hstored
  · exact hvalues _ (mem_of_last? hlast)
  · exact hh.inline k v hstored

/-- One more file. -/
theorem FromLines.merge (hh : FromLines s.params)
    (run : (mergeFile file).runOn s = (.ok (), s')) : FromLines s'.params := by
  obtain ⟨as, events, hread, rfl⟩ := mergeFile_ok run
  obtain ⟨text, htext⟩ := ofText_of_assignmentsIn hread
  exact hh.setAll (assignmentsIn_wellFormed hread) (inline_of_ofText htext)

/-- Any number of files. -/
theorem Loaded.fromLines (hl : Loaded h) : FromLines h := by
  induction hl with
  | empty => exact fromLines_empty
  | merge _ run ih => exact ih.merge run

/-! ## Printed and read again -/

theorem lookup_map_value (f : String → String) (es : List (Key × String)) (k : Key) :
    (es.map fun e => (e.1, f e.2)).lookup k = (es.lookup k).map f := by
  induction es with
  | nil => rfl
  | cons e es ih =>
    rw [List.map_cons, lookup_cons_eq_ite, lookup_cons_eq_ite, ih]
    split <;> rfl

/-- The text of such a hierarchy can be read, and every key comes back. -/
theorem FromLines.ofText_text (hh : FromLines h) :
    ofText h.text = .ok (h.entries.map fun e => (e.1, reloaded e.2)) := by
  have hinline : ∀ e ∈ h.entries, Inline e.2 := fun e he => hh.inline _ _ (mem_entries_iff.1 he)
  rw [Hierarchy.ofText_text hh.wellFormed fun e he => (hinline e he).oneLine]
  refine congrArg _ (List.map_congr_left fun e he => ?_)
  rw [(hinline e he).readBack_eq]

/-- **What was loaded, printed and loaded again.** A hierarchy that files were merged into is
printed, and its text is read as a file into an empty hierarchy. That succeeds and brings every
key back, with its value unless that begins with a `#`. So the hierarchy survives exactly when
none of its values does. -/
theorem Loaded.printed_reads_back (hl : Loaded h) (hempty : s.params = .empty)
    (hfile : s.files.find? file = some (.file (utf8 h.text))) :
    ∃ s', (mergeFile file).runOn s = (.ok (), s')
      ∧ (∀ k, s'.params.value? k = (h.value? k).map reloaded)
      ∧ (s'.params = h ↔ ∀ k v, h.value? k = some v → v.toList.head? ≠ some '#') := by
  have hread : assignmentsIn s.files file = .ok (h.entries.map fun e => (e.1, reloaded e.2)) := by
    rw [assignmentsIn_of_find? hfile, hl.fromLines.ofText_text]
    rfl
  have hvalue : ∀ k, (s.params.setAll (h.entries.map fun e => (e.1, reloaded e.2))).value? k =
      (h.value? k).map reloaded := by
    intro k
    rw [value?_setAll, hempty, value?_empty, Option.or_none,
      last?_of_increasing (h.increasing.mapValues reloaded), lookup_map_value]
    rfl
  refine ⟨_, runOn_mergeFile_of_ok hread, hvalue, ?_⟩
  simp only [← reloaded_eq_self_iff]
  constructor
  · intro hsame k v hv
    have hback := hvalue k
    rw [show s.params.setAll _ = h from hsame, hv] at hback
    exact (Option.some.inj hback).symm
  · intro hkept
    refine eq_of_value? fun k => (hvalue k).trans ?_
    cases hv : h.value? k with
    | none => rfl
    | some v => rw [Option.map_some, hkept k v hv]

/-- A session without parameters, and with one file named `f`. -/
def oneFile (text : String) : Session := .ofFiles ⟨[([utf8 "f"], .file (utf8 text))], []⟩

theorem find?_oneFile (text : String) :
    (oneFile text).files.find? (.ofText "f") = some (.file (utf8 text)) := by
  rfl

/-- Any text that can be read may be the next file. -/
theorem Loaded.setAll (hl : Loaded h) {text : String} (hread : ofText text = .ok as) :
    Loaded (h.setAll as) := by
  have hfile : assignmentsIn ((oneFile text).withParams h).files (.ofText "f") = .ok as := by
    rw [Session.withParams_files, assignmentsIn_of_find? (find?_oneFile text), hread]
    rfl
  exact .merge hl (runOn_mergeFile_of_ok hfile)

/-- The parameters of two files, merged. -/
def mergedTwice : Hierarchy :=
  (Hierarchy.empty.setAll [(⟨["tasks"], "name"⟩, "c5#a"), (⟨[], "k"⟩, "1")]).setAll
    [(⟨[], "k"⟩, "2")]

theorem mergedTwice_reads_back :
    Loaded mergedTwice
      ∧ ∃ s', (mergeFile (.ofText "f")).runOn (oneFile mergedTwice.text) = (.ok (), s')
        ∧ s'.params = mergedTwice := by
  have hfirst : ofText "tasks.name=c5#a # b\nk = 1\n" =
      .ok [(⟨["tasks"], "name"⟩, "c5#a"), (⟨[], "k"⟩, "1")] := by decide +kernel
  have hsecond : ofText "k =2" = .ok [(⟨[], "k"⟩, "2")] := by decide +kernel
  have hl : Loaded mergedTwice := (Loaded.empty.setAll hfirst).setAll hsecond
  obtain ⟨s', hrun, -, hsame⟩ := hl.printed_reads_back rfl (find?_oneFile _)
  refine ⟨hl, s', hrun, hsame.2 fun k v hv => ?_⟩
  have hvalues : ∀ e ∈ mergedTwice.entries, e.2.toList.head? ≠ some '#' := by decide +kernel
  exact hvalues _ (mem_entries_iff.2 hv)

/-- The parameters of the file `a.k=#b`. -/
def hashInFront : Hierarchy := Hierarchy.empty.setAll [(⟨["a"], "k"⟩, "#b")]

/-- They print as `a.k = #b`, where the value is a comment. -/
theorem hashInFront_emptied :
    Loaded hashInFront
      ∧ ∃ s', (mergeFile (.ofText "f")).runOn (oneFile hashInFront.text) = (.ok (), s')
        ∧ s'.params = Hierarchy.empty.set ⟨["a"], "k"⟩ ""
        ∧ s'.params ≠ hashInFront := by
  have hload : ofText "a.k=#b" = .ok [(⟨["a"], "k"⟩, "#b")] := by decide +kernel
  have hreload : assignmentsIn (oneFile hashInFront.text).files (.ofText "f") =
      .ok [(⟨["a"], "k"⟩, "")] := by decide +kernel
  refine ⟨Loaded.empty.setAll hload, _, runOn_mergeFile_of_ok hreload, rfl, fun hsame => ?_⟩
  have hvalue := congrArg (Hierarchy.value? · ⟨["a"], "k"⟩) hsame
  exact absurd hvalue (by decide +kernel)

end SieveRun
