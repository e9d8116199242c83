import SieveRun.Proofs.Reading
import Mathlib.Data.List.Forall2
import Mathlib.Data.List.ReduceOption

/-!
# The grammar of assignment lines

What a line says is given here by a grammar and not by the reader: `CommentCut` leaves what stands
before the first comment, `TrimsTo` what stands between the outer blanks, `SpellsNames` reads names
with single dots between them, and `Says` puts the three together around the first equals sign.
Each of them is what one step of the reader computes (`commentCut_iff`, `trimsTo_iff`,
`spellsNames_iff`, `says_iff`), so a line says at most one thing.

A reader goes over the lines in order. One step takes a line that says something and leaves the
others to be read one number further on (`ofLines_cons`); a line that says nothing of the kind stops
it. So lines are read exactly when all of them say something, and otherwise the first that does not
is the fault, with its number (`ofLines_eq_error_iff`).
-/

namespace SieveRun

open Text

namespace Assignment

variable {line part cs text : List Char} {names : List String} {said : Option (Key × String)}
  {lines : List (List Char)} {number : Nat} {as : List (Key × String)} {fault : Fault}

/-! ## The grammar -/

/-- What a line is before its first comment. -/
inductive CommentCut : List Char → List Char → Prop
  | whole {line : List Char} : ¬ OpensComment line → CommentCut line line
  | comment {before after : List Char} : ¬ OpensComment before →
      (∀ c ∈ before.getLast?, isAsciiBlank c = true) → CommentCut (before ++ '#' :: after) before

/-- All that is taken away at the ends is blank, and all blanks there are taken away. -/
def TrimsTo (cs text : List Char) : Prop :=
  ∃ front back, cs = front ++ text ++ back ∧ (∀ c ∈ front, isBlank c = true)
    ∧ (∀ c ∈ back, isBlank c = true) ∧ (∀ c ∈ text.head?, isBlank c = false)
    ∧ ∀ c ∈ text.getLast?, isBlank c = false

/-- A run of the characters that names are made of. -/
def SpellsName (cs : List Char) (name : String) : Prop :=
  cs ≠ [] ∧ (∀ c ∈ cs, Key.isNameChar c = true) ∧ name = String.ofList cs

/-- One name or more, with single dots between them. -/
inductive SpellsNames : List Char → List String → Prop
  | last {cs : List Char} {name : String} : SpellsName cs name → SpellsNames cs [name]
  | more {cs rest : List Char} {name : String} {names : List String} : SpellsName cs name →
      SpellsNames rest names → SpellsNames (cs ++ '.' :: rest) (name :: names)

/-- The line up to its first comment, without the blanks at the ends. -/
def HasContent (line text : List Char) : Prop := ∃ part, CommentCut line part ∧ TrimsTo part text

/-- What a line says: nothing at all, or that a key has a value. -/
inductive Says (line : List Char) : Option (Key × String) → Prop
  | nothing : HasContent line [] → Says line none
  | assigns {before after key : List Char} {k : Key} {v : String} :
      HasContent line (before ++ '=' :: after) → '=' ∉ before → TrimsTo before key →
      SpellsNames key k.names → TrimsTo after v.toList → Says line (some (k, v))

/-! ## The grammar and the reader -/

theorem commentCut_iff : CommentCut line part ↔ beforeComment true line = part := by
  constructor
  · intro hcut
    cases hcut with
    | whole hnone => exact beforeComment_true_eq_self_iff.2 hnone
    | comment hnone hopens =>
      rw [beforeComment_append, if_pos (beforeComment_true_eq_self_iff.2 hnone),
        opensAfter_true_iff.2 hopens]
      simp [beforeComment]
  · rintro rfl
    -- what the cut leaves would be cut again if a comment opened in it
    have hnone : ¬ OpensComment (beforeComment true line) :=
      beforeComment_true_eq_self_iff.1 (beforeComment_beforeComment true line)
    rcases beforeComment_cases true line with hself | ⟨after, hline, hopens⟩
    · rw [hself] at hnone ⊢
      exact .whole hnone
    · have hcut : CommentCut (beforeComment true line ++ '#' :: after) (beforeComment true line) :=
        .comment hnone (opensAfter_true_iff.1 hopens)
      rwa [← hline] at hcut

theorem trimsTo_iff : TrimsTo cs text ↔ trim cs = text := by
  constructor
  · rintro ⟨front, back, rfl, hfront, hback, hends⟩
    rw [trim_blanks_around hfront hback]
    exact trim_eq_self_iff.2 hends
  · rintro rfl
    obtain ⟨front, back, hcs, hfront, hback⟩ := eq_blanks_around_trim cs
    exact ⟨front, back, hcs, hfront, hback, trim_eq_self_iff.1 (trim_trim cs)⟩

theorem hasContent_iff : HasContent line text ↔ content line = text := by
  simp only [HasContent, commentCut_iff, trimsTo_iff, exists_eq_left', content]

theorem spellsName_iff {name : String} :
    SpellsName cs name ↔ Key.isName name = true ∧ cs = name.toList := by
  rw [Key.isName_iff]
  constructor
  · rintro ⟨hne, hall, rfl⟩
    rw [String.toList_ofList]
    exact ⟨⟨hne, hall⟩, rfl⟩
  · rintro ⟨⟨hne, hall⟩, rfl⟩
    exact ⟨hne, hall, String.ofList_toList.symm⟩

theorem spellsNames_iff :
    SpellsNames cs names ↔ names ≠ [] ∧ (∀ name ∈ names, Key.isName name = true)
      ∧ cs = join '.' (names.map String.toList) := by
  constructor
  · intro h
    induction h with
    | last hspells =>
      obtain ⟨hname, rfl⟩ := spellsName_iff.1 hspells
      exact ⟨by simp, by simpa using hname, rfl⟩
    | @more cs rest name names hspells _ ih =>
      obtain ⟨hname, rfl⟩ := spellsName_iff.1 hspells
      obtain ⟨hne, hall, rfl⟩ := ih
      obtain ⟨next, names, rfl⟩ := List.exists_cons_of_ne_nil hne
      exact ⟨by simp, List.forall_mem_cons.2 ⟨hname, hall⟩, rfl⟩
  · rintro ⟨hne, hall, rfl⟩
    induction names with
    | nil => exact absurd rfl hne
    | cons name names ih =>
      obtain ⟨hname, hall⟩ := List.forall_mem_cons.1 hall
      cases names with
      | nil => exact .last (spellsName_iff.2 ⟨hname, rfl⟩)
      | cons next names => exact .more (spellsName_iff.2 ⟨hname, rfl⟩) (ih (by simp) hall)

/-- The names of a key are spelled by its text, if they are names at all. -/
theorem spellsNames_names_iff {k : Key} :
    SpellsNames cs k.names ↔ Key.parse? (String.ofList cs) = some k := by
  rw [spellsNames_iff, Key.parse?_eq_some_iff, Key.isWellFormed_iff, ← Key.text_toList,
    ← String.toList_inj, String.toList_ofList]
  constructor
  · rintro ⟨-, hall, hcs⟩
    exact ⟨hcs, hall⟩
  · rintro ⟨hcs, hall⟩
    exact ⟨k.names_ne_nil, hall, hcs⟩

/-- The line is empty or an assignment. -/
def Readable (line : List Char) : Prop :=
  content line = [] ∨ (ofContent? (content line)).isSome = true

/-- **What a line says is what is read from it.** -/
theorem says_iff : Says line said ↔ Readable line ∧ ofContent? (content line) = said := by
  constructor
  · intro hsays
    cases hsays with
    | nothing hcontent =>
      rw [hasContent_iff] at hcontent
      exact ⟨.inl hcontent, by rw [hcontent, ofContent?_nil]⟩
    | @assigns before after key k v hcontent hbefore hkey hnames hvalue =>
      have hread : ofContent? (content line) = some (k, v) := by
        rw [hasContent_iff.1 hcontent, ofContent?, cut_eq_some_iff.2 ⟨rfl, hbefore⟩,
          Option.bind_some, trimsTo_iff.1 hkey, spellsNames_names_iff.1 hnames,
          trimsTo_iff.1 hvalue, String.ofList_toList]
        rfl
      exact ⟨.inr (by rw [hread]; rfl), hread⟩
  · rintro ⟨hreadable, rfl⟩
    cases hread : ofContent? (content line) with
    | none =>
      rw [Readable, hread] at hreadable
      exact .nothing (hasContent_iff.2 (hreadable.resolve_right (by simp)))
    | some a =>
      obtain ⟨⟨before, after⟩, hcut, hmap⟩ := Option.bind_eq_some_iff.1 hread
      obtain ⟨k, hkey, rfl⟩ := Option.map_eq_some_iff.1 hmap
      obtain ⟨hcontent, hbefore⟩ := cut_eq_some_iff.1 hcut
      exact .assigns (hasContent_iff.2 hcontent) hbefore (trimsTo_iff.2 rfl)
        (spellsNames_names_iff.2 hkey) (trimsTo_iff.2 String.toList_ofList.symm)

theorem says_none_iff : Says line none ↔ content line = [] := by
  constructor
  · rintro ⟨hcontent⟩
    exact hasContent_iff.1 hcontent
  · exact fun hempty => .nothing (hasContent_iff.2 hempty)

/-- The key and the value are the two sides of the first equals sign, trimmed. -/
theorem Says.sides_trimmed {k : Key} {v : String} (h : Says line (some (k, v))) :
    ∃ before after, HasContent line (before ++ '=' :: after) ∧ '=' ∉ before
      ∧ TrimsTo before k.text.toList ∧ TrimsTo after v.toList := by
  cases h with
  | assigns hcontent hbefore hkey hnames hvalue =>
    obtain ⟨-, -, rfl⟩ := spellsNames_iff.1 hnames
    rw [← Key.text_toList] at hkey
    exact ⟨_, _, hcontent, hbefore, hkey, hvalue⟩

theorem readable_iff_exists_says : Readable line ↔ ∃ said, Says line said := by
  simp only [says_iff, exists_and_left, exists_eq', and_true]

/-! ## Line after line -/

/-- One step over a line that can be read. -/
theorem ofLines_cons (h : Readable line) (number : Nat) (lines : List (List Char)) :
    ofLines number (line :: lines) =
      (ofLines (number + 1) lines).map ((ofContent? (content line)).toList ++ ·) := by
  have hid : ∀ rest : Except Fault (List (Key × String)), rest.map ([] ++ ·) = rest := by
    intro rest
    cases rest <;> rfl
  rw [ofLines]
  by_cases hempty : content line = []
  · rw [if_pos hempty, hempty, ofContent?_nil]
    exact (hid _).symm
  · rw [if_neg hempty]
    obtain ⟨a, ha⟩ := Option.isSome_iff_exists.1 (h.resolve_left hempty)
    rw [ha]
    rfl

theorem ofLines_cons_eq_ok_iff :
    ofLines number (line :: lines) = .ok as ↔
      ∃ said rest, Says line said ∧ ofLines number lines = .ok rest ∧ as = said.toList ++ rest := by
  have hcons : (line :: lines).filterMap (fun line => ofContent? (content line)) =
      (ofContent? (content line)).toList ++
        lines.filterMap fun line => ofContent? (content line) := by
    rw [List.filterMap_cons]
    cases ofContent? (content line) <;> rfl
  simp only [ofLines_eq_ok_iff, List.forall_mem_cons, hcons, says_iff]
  constructor
  · rintro ⟨⟨hline, hlines⟩, rfl⟩
    exact ⟨_, _, ⟨hline, rfl⟩, ⟨hlines, rfl⟩, rfl⟩
  · rintro ⟨said, rest, ⟨hline, rfl⟩, ⟨hlines, rfl⟩, rfl⟩
    exact ⟨⟨hline, hlines⟩, rfl⟩

/-- A line that cannot be read stops the reader. -/
theorem ofLines_cons_fault (h : ¬ Readable line) (number : Nat) (lines : List (List Char)) :
    ofLines number (line :: lines) = .error ⟨number, String.ofList line⟩ := by
  rw [Readable, not_or, Option.not_isSome_iff_eq_none] at h
  rw [ofLines, if_neg h.1, h.2]

/-- **The fault is the first line that cannot be read.** -/
theorem ofLines_eq_error_iff :
    ofLines number lines = .error fault ↔
      ∃ good bad rest, lines = good ++ bad :: rest ∧ (∀ line ∈ good, Readable line)
        ∧ ¬ Readable bad ∧ fault = ⟨number + good.length, String.ofList bad⟩ := by
  induction lines generalizing number with
  | nil => simp [ofLines]
  | cons line lines ih =>
    by_cases hline : Readable line
    · -- the fault is further on, and so is its number
      have hstep : ofLines number (line :: lines) = .error fault ↔
          ofLines (number + 1) lines = .error fault := by
        rw [ofLines_cons hline]
        cases ofLines (number + 1) lines <;> simp [Except.map]
      rw [hstep, ih]
      constructor
      · rintro ⟨good, bad, rest, rfl, hgood, hbad, rfl⟩
        refine ⟨line :: good, bad, rest, rfl, List.forall_mem_cons.2 ⟨hline, hgood⟩, hbad, ?_⟩
        rw [List.length_cons, Nat.add_right_comm, Nat.add_assoc]
      · rintro ⟨good, bad, rest, hlines, hgood, hbad, rfl⟩
        cases good with
        | nil =>
          obtain ⟨rfl, -⟩ := List.cons.inj hlines
          exact absurd hline hbad
        | cons first good =>
          obtain ⟨rfl, rfl⟩ := List.cons.inj hlines
          refine ⟨good, bad, rest, rfl, (List.forall_mem_cons.1 hgood).2, hbad, ?_⟩
          rw [List.length_cons, Nat.add_right_comm, Nat.add_assoc]
    · -- no line comes before this one
      rw [ofLines_cons_fault hline, Except.error.injEq]
      constructor
      · rintro rfl
        exact ⟨[], line, lines, rfl, by simp, hline, rfl⟩
      · rintro ⟨good, bad, rest, hlines, hgood, -, rfl⟩
        cases good with
        | nil =>
          obtain ⟨rfl, -⟩ := List.cons.inj hlines
          rfl
        | cons first good =>
          obtain ⟨rfl, -⟩ := List.cons.inj hlines
          exact absurd (hgood _ List.mem_cons_self) hline

theorem forall₂_says_iff {said : List (Option (Key × String))} :
    List.Forall₂ Says lines said ↔
      (∀ line ∈ lines, Readable line)
        ∧ lines.map (fun line => ofContent? (content line)) = said := by
  induction lines generalizing said with
  | nil => simp [eq_comm]
  | cons line lines ih =>
    rw [List.forall₂_cons_left_iff, List.forall_mem_cons, List.map_cons]
    constructor
    · rintro ⟨first, others, hfirst, hothers, rfl⟩
      obtain ⟨hline, rfl⟩ := says_iff.1 hfirst
      obtain ⟨hlines, rfl⟩ := ih.1 hothers
      exact ⟨⟨hline, hlines⟩, rfl⟩
    · rintro ⟨⟨hline, hlines⟩, rfl⟩
      exact ⟨_, _, says_iff.2 ⟨hline, rfl⟩, ih.2 ⟨hlines, rfl⟩, rfl⟩

theorem ofLines_eq_ok_iff_says :
    ofLines number lines = .ok as ↔
      ∃ said, List.Forall₂ Says lines said ∧ as = said.reduceOption := by
  simp only [forall₂_says_iff, and_assoc, exists_and_left, exists_eq_left', ofLines_eq_ok_iff]
  refine and_congr_right fun _ => ?_
  rw [List.reduceOption, List.filterMap_map, eq_comm]
  rfl

end Assignment

open Assignment

/-- **Lines are read by their grammar.** Every line has one content and says at most one thing: if
it gives a key a value, then the two are what stands around the first equals sign, trimmed. The
reader succeeds exactly when every line says something, and then hands out what the lines say in
their order. Otherwise it fails with the first line that does not: its number, counted from one, and
the line as it stands. -/
theorem lines_read_by_grammar (lines : List (List Char)) :
    (∀ line : List Char, ∃! text, HasContent line text)
      ∧ (∀ line said said', Says line said → Says line said' → said = said')
      ∧ (∀ line k v, Says line (some (k, v)) → ∃ before after,
          HasContent line (before ++ '=' :: after) ∧ '=' ∉ before
            ∧ TrimsTo before k.text.toList ∧ TrimsTo after v.toList)
      ∧ ((∃ as, ofLines 1 lines = .ok as) ↔ ∀ line ∈ lines, ∃ said, Says line said)
      ∧ (∀ as, ofLines 1 lines = .ok as ↔
          ∃ said, List.Forall₂ Says lines said ∧ as = said.reduceOption)
      ∧ ∀ fault, ofLines 1 lines = .error fault ↔
          ∃ good bad rest, lines = good ++ bad :: rest ∧ (∀ line ∈ good, ∃ said, Says line said)
            ∧ (¬ ∃ said, Says bad said) ∧ fault = ⟨good.length + 1, String.ofList bad⟩ := by
  refine ⟨fun line => ⟨content line, hasContent_iff.2 rfl, fun _ h => (hasContent_iff.1 h).symm⟩,
    fun line said said' h h' => (says_iff.1 h).2.symm.trans (says_iff.1 h').2,
    fun line k v h => h.sides_trimmed, ?_, fun _ => ofLines_eq_ok_iff_says,
    fun fault => ?_⟩
  · simp only [ofLines_eq_ok_iff, exists_and_left, exists_eq', and_true, ← readable_iff_exists_says]
    rfl
  · simp only [← readable_iff_exists_says, ofLines_eq_error_iff, Nat.add_comm 1]

end SieveRun
