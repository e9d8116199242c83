import SieveRun.Proofs.Files
import SieveRun.Proofs.Reading
import SieveRun.Proofs.Spelling
import SieveRun.Proofs.Stage
import SieveRun.Proofs.Store

/-!
# What a printed hierarchy reads back as

A hierarchy prints one entry a line. As long as no value runs over its line, the lines are
independent: each reads back as the same key and as what is left of its value after the
comment and the outer blanks are gone (`ofText_text`). So a hierarchy survives printing when
every value survives on its own (`Printable`).

The converse needs an argument, because a value with a line feed in it prints as several
lines, and these could in principle restore what other lines lose. They cannot restore the
value itself: whatever is read stands on one line. That settles the values with line feeds,
and without any the lines are independent again.
-/

namespace SieveRun

open Text Assignment Hierarchy

/-! ## One value -/

/-- What a value reads back as when it is printed on a line of its own. -/
def readBack (v : List Char) : List Char := trim (beforeComment true (withoutReturn v))

/-- A value that survives printing: it is one line without blanks at its ends, and nothing in
it opens a comment. -/
structure Printable (v : String) : Prop where
  trimmed : trim v.toList = v.toList
  oneLine : '\n' ∉ v.toList
  noComment : ¬ OpensComment v.toList

/-- The return at the end of a line is a blank. -/
theorem withoutReturn_eq_self {v : List Char} (h : trim v = v) : withoutReturn v = v := by
  rw [withoutReturn, if_neg]
  intro hl
  obtain ⟨front, rfl⟩ := List.getLast?_eq_some_iff.1 hl
  have hlen := (trim_within front).length_le
  rw [trim_concat_blank (by decide)] at h
  rw [h, List.length_append, List.length_singleton] at hlen
  omega

theorem withoutReturn_leads (v : List Char) : withoutReturn v <+: v := by
  unfold withoutReturn
  split
  · exact v.dropLast_prefix
  · exact List.prefix_refl v

theorem readBack_eq_self_iff {v : List Char} :
    readBack v = v ↔ trim v = v ∧ ¬ OpensComment v := by
  rw [← beforeComment_true_eq_self_iff]
  constructor
  · intro h
    -- every step only takes something away, so none of them took anything
    have h₁ := (trim_within (beforeComment true (withoutReturn v))).length_le
    have h₂ := (beforeComment_leads true (withoutReturn v)).length_le
    have h₃ := (withoutReturn_leads v).length_le
    have hlen : (trim (beforeComment true (withoutReturn v))).length = v.length := congrArg _ h
    have hret : withoutReturn v = v := (withoutReturn_leads v).eq_of_length (by omega)
    have hcom : beforeComment true v = v := by
      have hkept := (beforeComment_leads true (withoutReturn v)).eq_of_length (by omega)
      rwa [hret] at hkept
    refine ⟨?_, hcom⟩
    rwa [readBack, hret, hcom] at h
  · intro h
    obtain ⟨htrim, hcom⟩ := h
    rw [readBack, withoutReturn_eq_self htrim, hcom, htrim]

theorem printable_iff {v : String} :
    Printable v ↔ '\n' ∉ v.toList ∧ readBack v.toList = v.toList := by
  rw [readBack_eq_self_iff]
  exact ⟨fun h => ⟨h.oneLine, h.trimmed, h.noComment⟩, fun h => ⟨h.2.1, h.1, h.2.2⟩⟩

instance : DecidablePred Printable := fun _ => decidable_of_iff _ printable_iff.symm

/-! ## One entry -/

/-- The line of an entry, without the line feed that ends it. -/
def entryLine (e : Key × String) : List Char := e.1.text.toList ++ [' ', '=', ' '] ++ e.2.toList

theorem entryText_toList (e : Key × String) :
    (Hierarchy.entryText e).toList = entryLine e ++ ['\n'] := by
  simp [Hierarchy.entryText, entryLine]

theorem withoutReturn_append {front v : List Char} (h : front.getLast? ≠ some '\r') :
    withoutReturn (front ++ v) = front ++ withoutReturn v := by
  cases v with
  | nil => simp [withoutReturn, h]
  | cons c v =>
    rw [withoutReturn, withoutReturn, List.getLast?_append_of_ne_nil _ (by simp)]
    split
    · rw [List.dropLast_append_of_ne_nil (by simp)]
    · rfl

/-- The line of an entry assigns its key, and what is left of its value. -/
theorem ofContent?_entryLine {e : Key × String} (hk : e.1.isWellFormed = true) :
    ofContent? (content (withoutReturn (entryLine e))) =
      some (e.1, String.ofList (readBack e.2.toList)) := by
  have hsplit : withoutReturn (entryLine e) =
      (e.1.text.toList ++ [' ']) ++ '=' :: (' ' :: withoutReturn e.2.toList) := by
    rw [entryLine, withoutReturn_append (by simp)]
    simp
  have heq : '=' ∉ e.1.text.toList ++ [' '] := by
    intro h
    rcases List.mem_append.1 h with h | h
    · exact (Key.plainChar_of_mem_text hk h).ne_equals rfl
    · simp at h
  have hhash : '#' ∉ e.1.text.toList ++ [' '] := by
    intro h
    rcases List.mem_append.1 h with h | h
    · exact (Key.plainChar_of_mem_text hk h).ne_hash rfl
    · simp at h
  have hkey : Key.parse? (String.ofList (trim (e.1.text.toList ++ [' ']))) = some e.1 := by
    rw [trim_concat_blank (by decide), Key.trim_text hk, String.ofList_toList]
    exact Key.parse?_eq_some_iff.2 ⟨rfl, hk⟩
  have hvalue : trim (beforeComment false (' ' :: withoutReturn e.2.toList)) =
      readBack e.2.toList := by
    rw [beforeComment, if_neg (by simp), trim_cons_blank (by decide)]
    rfl
  rw [hsplit, ofContent?_content heq (beforeComment_of_not_mem hhash), hkey, hvalue]
  rfl

/-! ## All entries -/

theorem Hierarchy.text_toList (h : Hierarchy) :
    h.text.toList = h.entries.flatMap fun e => entryLine e ++ ['\n'] := by
  simp [Hierarchy.text, String.toList_join, List.flatMap_map, entryText_toList]

/-- **Reading a printed hierarchy.** Where no value runs over its line, every entry is read
back under its key. -/
theorem Hierarchy.ofText_text {h : Hierarchy} (hw : h.WellFormed)
    (hl : ∀ e ∈ h.entries, '\n' ∉ e.2.toList) :
    Assignment.ofText h.text =
      .ok (h.entries.map fun e => (e.1, String.ofList (readBack e.2.toList))) := by
  have hlines : ∀ es : List (Key × String), (∀ e ∈ es, '\n' ∉ entryLine e) →
      lines (es.flatMap fun e => entryLine e ++ ['\n']) =
        es.map fun e => withoutReturn (entryLine e) := by
    intro es
    induction es with
    | nil => exact fun _ => rfl
    | cons e es ih =>
      intro hes
      rw [List.flatMap_cons, List.append_assoc, List.singleton_append,
        lines_append_newline (hes e List.mem_cons_self),
        ih fun f hf => hes f (List.mem_cons_of_mem _ hf), List.map_cons]
  have hwf : ∀ e ∈ h.entries, e.1.isWellFormed = true := fun e he => hw _ _ (mem_entries_iff.1 he)
  have hone : ∀ e ∈ h.entries, '\n' ∉ entryLine e := by
    intro e he hn
    rw [entryLine] at hn
    simp only [List.mem_append] at hn
    rcases hn with (hn | hn) | hn
    · exact (Key.plainChar_of_mem_text (hwf e he) hn).ne_newline rfl
    · simp at hn
    · exact hl e he hn
  rw [Assignment.ofText, text_toList, hlines _ hone, ofLines_eq_ok_iff, List.forall_mem_map,
    List.filterMap_map]
  constructor
  · intro e he
    rw [ofContent?_entryLine (hwf e he)]
    exact .inr rfl
  · rw [← List.filterMap_eq_map]
    refine List.filterMap_congr fun e he => ?_
    rw [Function.comp_apply, ofContent?_entryLine (hwf e he)]
    rfl

/-! ## The domain of the round trip -/

theorem Increasing.mapValues {es : List (Key × String)} (h : Increasing es) (f : String → String) :
    Increasing (es.map fun e => (e.1, f e.2)) :=
  List.pairwise_map.2 h

/-- Merging the entries of a hierarchy into an empty one gives it back. -/
theorem Hierarchy.setAll_entries (h : Hierarchy) : Hierarchy.empty.setAll h.entries = h := by
  refine eq_of_value? fun k => ?_
  rw [value?_setAll, value?_empty, Option.or_none, last?_of_increasing h.increasing]
  rfl

/-- Reading a hierarchy of printable values gives its entries. -/
theorem Hierarchy.ofText_text_of_printable {h : Hierarchy} (hw : h.WellFormed)
    (hp : ∀ k v, h.value? k = some v → Printable v) : Assignment.ofText h.text = .ok h.entries := by
  have hprintable : ∀ e ∈ h.entries, Printable e.2 := fun e he => hp _ _ (mem_entries_iff.1 he)
  rw [ofText_text hw fun e he => (hprintable e he).oneLine]
  refine congrArg _ ?_
  conv_rhs => rw [← List.map_id h.entries]
  refine List.map_congr_left fun e he => ?_
  rw [(printable_iff.1 (hprintable e he)).2, String.ofList_toList]
  rfl

/-- A hierarchy that reading its text gives back holds only printable values. -/
theorem Hierarchy.printable_of_ofText_text {h : Hierarchy} (hw : h.WellFormed)
    {as : List (Key × String)} (hread : Assignment.ofText h.text = .ok as)
    (hsame : Hierarchy.empty.setAll as = h) : ∀ k v, h.value? k = some v → Printable v := by
  have hlast : ∀ k, last? k as = h.value? k := by
    intro k
    rw [← hsame, value?_setAll, value?_empty, Option.or_none]
  -- what was read stands on one line, and it is what `h` stores
  have hline : ∀ e ∈ h.entries, '\n' ∉ e.2.toList := by
    intro e he
    have hv := (hlast e.1).trans (mem_entries_iff.1 he)
    exact ofText_oneLine hread _ (mem_of_last? hv)
  obtain rfl := Except.ok.inj (hread.symm.trans (ofText_text hw hline))
  intro k v hv
  have hmem := mem_entries_iff.2 hv
  have hback : last? k (h.entries.map fun e => (e.1, String.ofList (readBack e.2.toList))) =
      some (String.ofList (readBack v.toList)) := by
    have hinc := h.increasing.mapValues fun v => String.ofList (readBack v.toList)
    rw [last?_of_increasing hinc, hinc.lookup_eq_some_iff]
    exact List.mem_map.2 ⟨(k, v), hmem, rfl⟩
  rw [hlast k, hv] at hback
  have hv' := congrArg String.toList (Option.some.inj hback)
  rw [String.toList_ofList] at hv'
  exact printable_iff.2 ⟨hline _ hmem, hv'.symm⟩

/-! ## Through a file -/

theorem assignmentsIn_of_find? {files : FileSystem} {file : Path} {t : String}
    (h : files.find? file = some (.file (utf8 t))) :
    assignmentsIn files file = (Assignment.ofText t).mapError (.malformed file.text) := by
  rw [assignmentsIn, FileSystem.readText_of_find? h (utf8?_utf8 t)]
  dsimp only
  cases Assignment.ofText t <;> rfl

/-- **Exactly the printable values survive.** A hierarchy with well-formed keys is saved as
its own text in a file. Reading the file into an empty hierarchy succeeds and gives the
hierarchy back exactly when every one of its values is printable: a value that is not cannot
be made up for by another one. -/
theorem Hierarchy.saved_reads_back_iff {h : Hierarchy} (hw : h.WellFormed) {file : Path}
    {s : Session} (hempty : s.params = .empty)
    (hfile : s.files.find? file = some (.file (utf8 h.text))) :
    (∃ s', (mergeFile file).runOn s = (.ok (), s') ∧ s'.params = h) ↔
      ∀ k v, h.value? k = some v → Printable v := by
  rw [Stage.runOn_mergeFile, assignmentsIn_of_find? hfile]
  constructor
  · intro h
    obtain ⟨s', hrun, hparams⟩ := h
    cases hread : Assignment.ofText h.text with
    | error fault => rw [hread] at hrun; exact absurd hrun (by simp [Except.mapError])
    | ok as =>
      rw [hread] at hrun
      obtain ⟨-, rfl⟩ := Prod.mk.inj hrun
      refine printable_of_ofText_text hw hread ?_
      rw [← hempty]
      exact hparams
  · intro hp
    rw [ofText_text_of_printable hw hp]
    refine ⟨_, rfl, ?_⟩
    rw [Session.noting_params, Session.withParams_params, hempty, setAll_entries]

/-- A value with a hash in the middle of a word. -/
def hashedName : Hierarchy := Hierarchy.empty.set ⟨["tasks"], "name"⟩ "c5#a"

/-- A session in which that hierarchy is saved under the name `f`. -/
def hashedSession : Session :=
  .ofFiles ⟨[([utf8 "f"], .file (utf8 hashedName.text))], []⟩

theorem hashedName_reads_back :
    ∃ s', (mergeFile (.ofText "f")).runOn hashedSession = (.ok (), s') ∧ s'.params = hashedName := by
  have hw : hashedName.WellFormed := wellFormed_empty.set (by decide +kernel) _
  have hfile : hashedSession.files.find? (.ofText "f") = some (.file (utf8 hashedName.text)) := by
    decide +kernel
  refine (Hierarchy.saved_reads_back_iff hw rfl hfile).2 fun k v hv => ?_
  rw [hashedName, value?_set] at hv
  split at hv
  · rw [← Option.some.inj hv]
    decide +kernel
  · simp at hv

end SieveRun
