import SieveRun.Hierarchy.Assignment
import SieveRun.Proofs.Keys

/-!
# What a line assigns

A line is read in four steps: the comment is cut, the blanks go, the first `=` splits, and
both sides are trimmed. Only two facts about the result are needed elsewhere. A line with
an `=` that no comment hides assigns what stands before it to what stands after
(`ofContent?_content`), and what a reader hands out has well-formed keys and values of one
line (`ofLines_wellFormed`, `ofText_oneLine`).

Whether a `#` opens a comment depends on the character before it, so the cut is described
by the places where one opens (`OpensComment`) and not by the recursion.
-/

namespace SieveRun

open Text

namespace Assignment

variable {cs line : List Char} {k : Key} {v : String}

/-! ## Comments -/

/-- Whether a `#` after these characters would open a comment. -/
def opensAfter (opens : Bool) (cs : List Char) : Bool := (cs.getLast?.map isAsciiBlank).getD opens

/-- Somewhere a comment opens: at a `#` that is the first character or follows an ASCII blank. -/
def OpensComment (cs : List Char) : Prop :=
  ∃ before after, cs = before ++ '#' :: after ∧ ∀ c ∈ before.getLast?, isAsciiBlank c = true

@[simp] theorem opensAfter_nil (opens : Bool) : opensAfter opens [] = opens := rfl

theorem opensAfter_cons (opens : Bool) (c : Char) (cs : List Char) :
    opensAfter opens (c :: cs) = opensAfter (isAsciiBlank c) cs := by
  cases cs with
  | nil => rfl
  | cons d cs => simp [opensAfter, List.getLast?_cons]

theorem opensAfter_true_iff {cs : List Char} :
    opensAfter true cs = true ↔ ∀ c ∈ cs.getLast?, isAsciiBlank c = true := by
  cases h : cs.getLast? <;> simp [opensAfter, h]

theorem beforeComment_leads (opens : Bool) (cs : List Char) : beforeComment opens cs <+: cs := by
  induction cs generalizing opens with
  | nil => simp [beforeComment]
  | cons c cs ih =>
    unfold beforeComment
    split
    · exact List.nil_prefix
    · exact (List.prefix_cons_inj c).2 (ih _)

/-- The cut leaves everything exactly where no comment opens. -/
theorem beforeComment_eq_self_iff {opens : Bool} :
    beforeComment opens cs = cs ↔
      ∀ before after, cs = before ++ '#' :: after → opensAfter opens before = false := by
  induction cs generalizing opens with
  | nil => simp [beforeComment]
  | cons c cs ih =>
    unfold beforeComment
    split
    · rename_i h
      obtain ⟨rfl, ho⟩ := h
      -- the cut is right here, and the comment opens at the start
      simp only [List.nil_eq, reduceCtorEq, false_iff, not_forall]
      exact ⟨[], cs, rfl, by simp [ho]⟩
    · rename_i h
      rw [List.cons_inj_right, ih]
      constructor
      · intro hc before after he
        cases before with
        | nil =>
          obtain ⟨rfl, -⟩ := List.cons.inj he
          simpa using h
        | cons b before =>
          obtain ⟨rfl, rfl⟩ := List.cons.inj he
          rw [opensAfter_cons]
          exact hc before after rfl
      · intro hc before after he
        have hcons := hc (c :: before) after (by rw [he]; rfl)
        rwa [opensAfter_cons] at hcons

theorem beforeComment_true_eq_self_iff : beforeComment true cs = cs ↔ ¬ OpensComment cs := by
  have key : ∀ before : List Char,
      opensAfter true before = false ↔ ¬ ∀ c ∈ before.getLast?, isAsciiBlank c = true := by
    intro before
    cases hl : before.getLast? <;> simp [opensAfter, hl]
  rw [beforeComment_eq_self_iff]
  simp only [OpensComment, not_exists, not_and, key]

/-- Nothing is cut, or the cut is at a `#` that opens a comment. -/
theorem beforeComment_cases (opens : Bool) (cs : List Char) :
    beforeComment opens cs = cs
      ∨ ∃ after, cs = beforeComment opens cs ++ '#' :: after
        ∧ opensAfter opens (beforeComment opens cs) = true := by
  induction cs generalizing opens with
  | nil => exact .inl rfl
  | cons c cs ih =>
    unfold beforeComment
    split
    · rename_i h
      obtain ⟨rfl, ho⟩ := h
      exact .inr ⟨cs, rfl, ho⟩
    · rw [opensAfter_cons]
      rcases ih (isAsciiBlank c) with hself | ⟨after, hcs, ho⟩
      · exact .inl (by rw [hself])
      · refine .inr ⟨after, ?_, ho⟩
        rw [List.cons_append, ← hcs]

/-- A comment in the first part hides the second; otherwise the second is read on its own. -/
theorem beforeComment_append (opens : Bool) (cs rest : List Char) :
    beforeComment opens (cs ++ rest) =
      if beforeComment opens cs = cs then cs ++ beforeComment (opensAfter opens cs) rest
      else beforeComment opens cs := by
  induction cs generalizing opens with
  | nil => simp [beforeComment]
  | cons c cs ih =>
    rw [List.cons_append, beforeComment, beforeComment, opensAfter_cons]
    split
    · simp
    · rw [ih]
      by_cases hc : beforeComment (isAsciiBlank c) cs = cs <;> simp [hc]

theorem beforeComment_of_not_mem {opens : Bool} (h : '#' ∉ cs) : beforeComment opens cs = cs := by
  rw [beforeComment_eq_self_iff]
  intro before after he
  subst he
  simp at h

/-- No blank is a `#`. -/
theorem hash_not_mem_blanks {blanks : List Char} (h : ∀ c ∈ blanks, isBlank c = true) :
    '#' ∉ blanks := fun hmem => absurd (h '#' hmem) (by decide)

/-- What the cut leaves, it leaves again. -/
@[simp] theorem beforeComment_beforeComment (opens : Bool) (cs : List Char) :
    beforeComment opens (beforeComment opens cs) = beforeComment opens cs := by
  induction cs generalizing opens with
  | nil => rfl
  | cons c cs ih =>
    rw [beforeComment]
    split
    · rfl
    · rename_i h
      rw [beforeComment, if_neg h, ih]

/-- At the start of a line only a `#` in front makes a difference. -/
theorem beforeComment_true_eq_ite (cs : List Char) :
    beforeComment true cs = if cs.head? = some '#' then [] else beforeComment false cs := by
  cases cs with
  | nil => rfl
  | cons c cs => by_cases h : c = '#' <;> simp [beforeComment, h]

/-- Where no comment opens, none opens in a part, provided that a `#` in front of it would not
count. -/
theorem beforeComment_false_of_infix {cs part : List Char} {opens : Bool}
    (h : beforeComment opens cs = cs) (hpart : part <:+: cs) :
    beforeComment false part = part := by
  obtain ⟨front, back, rfl⟩ := hpart
  rw [beforeComment_eq_self_iff] at h ⊢
  intro before after he
  subst he
  cases hlast : before.getLast? with
  | none =>
    rw [List.getLast?_eq_none_iff.1 hlast]
    rfl
  | some c =>
    -- the character before the `#` is the same in the part and in the whole
    have hwhole := h (front ++ before) (after ++ back) (by simp)
    rw [opensAfter, List.getLast?_append, hlast, Option.some_or] at hwhole
    rw [opensAfter, hlast]
    exact hwhole

/-! ## Splitting -/

@[simp] theorem ofContent?_nil : ofContent? [] = none := rfl

theorem ofContent?_eq_none (h : '=' ∉ cs) : ofContent? cs = none := by
  rw [ofContent?, cut_eq_none_iff.2 h]
  rfl

/-- Both sides of the first `=` are trimmed, whether or not the whole was before. -/
theorem ofContent?_trim {before : List Char} (h : '=' ∉ before) (after : List Char) :
    ofContent? (trim (before ++ '=' :: after)) =
      (Key.parse? (String.ofList (trim before))).map fun key =>
        (key, String.ofList (trim after)) := by
  have hstart : '=' ∉ trimStart before := fun hm => h ((trimStart_ends before).subset hm)
  rw [trim_around (by decide), ofContent?, cut_eq_some_iff.2 ⟨rfl, hstart⟩, Option.bind_some,
    trim_trimStart, trim_trimEnd]

/-- What a line with an `=` that no comment hides assigns. -/
theorem ofContent?_content {before : List Char} (heq : '=' ∉ before)
    (hc : beforeComment true before = before) (after : List Char) :
    ofContent? (content (before ++ '=' :: after)) =
      (Key.parse? (String.ofList (trim before))).map fun key =>
        (key, String.ofList (trim (beforeComment false after))) := by
  have hcons : beforeComment (opensAfter true before) ('=' :: after) =
      '=' :: beforeComment false after := by
    rw [beforeComment, if_neg (by simp)]
    rfl
  rw [content, beforeComment_append, if_pos hc, hcons, ofContent?_trim heq]

/-! ## The key of a line -/

/-- What stands before the first equals sign of a line. -/
def keyPart (line : List Char) : List Char := line.takeWhile (· ≠ '=')

/-- The line assigns the key a value. -/
def Assigns (line : List Char) (k : Key) : Prop := ∃ v, ofContent? (content line) = some (k, v)

theorem keyPart_append {before : List Char} (h : '=' ∉ before) (after : List Char) :
    keyPart (before ++ '=' :: after) = before := by
  rw [keyPart, List.takeWhile_append_of_pos]
  · simp
  · intro c hc
    simpa using fun he : c = '=' => h (he ▸ hc)

theorem keyPart_eq_iff {key : List Char} (h : '=' ∉ key) :
    '=' ∈ line ∧ keyPart line = key ↔ ∃ after, line = key ++ '=' :: after := by
  constructor
  · intro hl
    obtain ⟨hmem, rfl⟩ := hl
    obtain ⟨before, after, rfl, hb⟩ := List.eq_append_cons_of_mem hmem
    rw [keyPart_append hb]
    exact ⟨after, rfl⟩
  · intro hl
    obtain ⟨after, rfl⟩ := hl
    exact ⟨by simp, keyPart_append h after⟩

/-- **What a line assigns.** The reader looks at the part before the first equals sign, and
only after trimming it. -/
theorem assigns_iff :
    Assigns line k ↔
      '=' ∈ line ∧ trim (keyPart line) = k.text.toList ∧ k.isWellFormed = true := by
  have hnone : '=' ∉ content line → ¬ Assigns line k := by
    intro h ha
    obtain ⟨v, hv⟩ := ha
    rw [ofContent?_eq_none h] at hv
    simp at hv
  by_cases heq : '=' ∈ line
  · obtain ⟨before, after, rfl, hb⟩ := List.eq_append_cons_of_mem heq
    rw [keyPart_append hb]
    by_cases hc : beforeComment true before = before
    · rw [Assigns, ofContent?_content hb hc]
      cases hp : Key.parse? (String.ofList (trim before)) with
      | none =>
        -- what does not parse is no well-formed key's text
        simp only [Option.map_none, reduceCtorEq, exists_false, false_iff, not_and]
        intro _ ht hk
        rw [ht, String.ofList_toList, Key.parse?_eq_some_iff.2 ⟨rfl, hk⟩] at hp
        simp at hp
      | some key =>
        obtain ⟨ht, hk⟩ := Key.parse?_eq_some_iff.1 hp
        have ht' : trim before = key.text.toList := by rw [← ht, String.toList_ofList]
        constructor
        · intro ha
          obtain ⟨v, hv⟩ := ha
          obtain ⟨rfl, -⟩ := Prod.mk.inj (Option.some.inj hv)
          exact ⟨heq, ht', hk⟩
        · intro ha
          obtain ⟨-, htk, hk'⟩ := ha
          have hsame : key = k := by
            rw [← Key.ofText_text hk, ← Key.ofText_text hk', ← String.toList_inj.1 (ht'.symm.trans htk)]
          exact ⟨_, by rw [hsame]; rfl⟩
    · -- the comment takes the equals sign with it, and no key has a hash
      constructor
      · intro h
        refine absurd h (hnone fun hm => ?_)
        rw [content, beforeComment_append, if_neg hc] at hm
        exact hb ((beforeComment_leads true before).subset ((trim_within _).subset hm))
      · intro ha
        obtain ⟨-, ht, hk⟩ := ha
        refine absurd (beforeComment_of_not_mem fun hm => ?_) hc
        have hhash := mem_trim hm (by decide)
        rw [ht] at hhash
        exact (Key.plainChar_of_mem_text hk hhash).ne_hash rfl
  · constructor
    · exact fun h => absurd h (hnone fun hm =>
        heq ((beforeComment_leads true line).subset ((trim_within _).subset hm)))
    · exact fun h => absurd h.1 heq

/-- The value that a line assigns is what no comment hides behind its first equals sign. -/
theorem value_eq_of_line (h : ofContent? (content line) = some (k, v)) :
    ∃ before after, line = before ++ '=' :: after
      ∧ v.toList = trim (beforeComment false after) := by
  obtain ⟨heq, hkey, hk⟩ := assigns_iff.1 ⟨v, h⟩
  obtain ⟨before, after, rfl, hb⟩ := List.eq_append_cons_of_mem heq
  rw [keyPart_append hb] at hkey
  have hhash : '#' ∉ before := by
    intro hm
    have hmem := mem_trim hm (by decide)
    rw [hkey] at hmem
    exact (Key.plainChar_of_mem_text hk hmem).ne_hash rfl
  rw [ofContent?_content hb (beforeComment_of_not_mem hhash)] at h
  obtain ⟨key, -, he⟩ := Option.map_eq_some_iff.1 h
  obtain ⟨-, rfl⟩ := Prod.mk.inj he
  exact ⟨before, after, rfl, String.toList_ofList⟩

/-! ## What a reader hands out -/

theorem wellFormed_of_ofContent? (h : ofContent? cs = some (k, v)) : k.isWellFormed = true := by
  unfold ofContent? at h
  obtain ⟨parts, -, h⟩ := Option.bind_eq_some_iff.1 h
  obtain ⟨key, hkey, he⟩ := Option.map_eq_some_iff.1 h
  obtain ⟨rfl, -⟩ := Prod.mk.inj he
  exact (Key.parse?_eq_some_iff.1 hkey).2

/-- The value of an assignment is part of the line that makes it. -/
theorem value_subset_line (h : ofContent? (content line) = some (k, v)) : v.toList ⊆ line := by
  unfold ofContent? at h
  obtain ⟨⟨before, after⟩, hcut, h⟩ := Option.bind_eq_some_iff.1 h
  obtain ⟨key, -, he⟩ := Option.map_eq_some_iff.1 h
  obtain ⟨-, rfl⟩ := Prod.mk.inj he
  obtain ⟨hcontent, -⟩ := cut_eq_some_iff.1 hcut
  rw [String.toList_ofList]
  intro c hc
  have hmem : c ∈ content line := by
    rw [hcontent]
    have hafter := (trim_within after).subset hc
    simp [hafter]
  exact (beforeComment_leads true line).subset ((trim_within _).subset hmem)

/-- Reading succeeds where every line is empty or assigns something, and it hands out what
the lines assign, in order. -/
theorem ofLines_eq_ok_iff {lines : List (List Char)} {number : Nat} {as : List (Key × String)} :
    ofLines number lines = .ok as ↔
      (∀ line ∈ lines, content line = [] ∨ (ofContent? (content line)).isSome = true)
        ∧ lines.filterMap (fun line => ofContent? (content line)) = as := by
  induction lines generalizing number as with
  | nil => simp [ofLines]
  | cons line lines ih =>
    rw [ofLines, List.forall_mem_cons, List.filterMap_cons]
    by_cases hempty : content line = []
    · -- a line without content assigns nothing
      rw [if_pos hempty, hempty, ofContent?_nil, ih]
      simp
    · rw [if_neg hempty]
      cases hline : ofContent? (content line) with
      | none => simp [hempty]
      | some a =>
        cases hrest : ofLines (number + 1) lines with
        | error fault =>
          simp only [Except.map, reduceCtorEq, false_iff, not_and]
          intro hall
          have hok : ofLines (number + 1) lines = .ok _ := ih.2 ⟨hall.2, rfl⟩
          exact absurd (hrest.symm.trans hok) (by simp)
        | ok bs =>
          obtain ⟨hall, rfl⟩ := ih.1 hrest
          simp only [Except.map, Except.ok.injEq, Option.isSome_some, or_true, true_and]
          exact ⟨fun h => ⟨hall, h⟩, And.right⟩

/-- Lines are read in one list exactly when they are in two. -/
theorem ofLines_append_eq_ok_iff {xs ys : List (List Char)} {number : Nat}
    {as : List (Key × String)} :
    ofLines number (xs ++ ys) = .ok as ↔
      ∃ bs cs, ofLines number xs = .ok bs ∧ ofLines number ys = .ok cs ∧ as = bs ++ cs := by
  simp only [ofLines_eq_ok_iff, List.forall_mem_append, List.filterMap_append]
  constructor
  · rintro ⟨⟨hxs, hys⟩, rfl⟩
    exact ⟨_, _, ⟨hxs, rfl⟩, ⟨hys, rfl⟩, rfl⟩
  · rintro ⟨bs, cs, ⟨hxs, rfl⟩, ⟨hys, rfl⟩, rfl⟩
    exact ⟨⟨hxs, hys⟩, rfl⟩

/-- What is handed out is what the lines assign. -/
theorem mem_iff_exists_line {lines : List (List Char)} {number : Nat} {as : List (Key × String)}
    (h : ofLines number lines = .ok as) {a : Key × String} :
    a ∈ as ↔ ∃ line ∈ lines, ofContent? (content line) = some a := by
  obtain ⟨-, rfl⟩ := ofLines_eq_ok_iff.1 h
  exact List.mem_filterMap

theorem ofLines_wellFormed {lines : List (List Char)} {number : Nat} {as : List (Key × String)}
    (h : ofLines number lines = .ok as) : ∀ a ∈ as, a.1.isWellFormed = true := by
  intro a ha
  obtain ⟨line, -, hline⟩ := (mem_iff_exists_line h).1 ha
  exact wellFormed_of_ofContent? hline

/-- The options that assign a key are known by their keys alone. -/
theorem ofOptions_assigns_iff {options : List String} {as : List (Key × String)}
    (h : ofOptions options = .ok as) :
    (∃ v, (k, v) ∈ as) ↔ ∃ t ∈ options, Assigns t.toList k := by
  simp only [mem_iff_exists_line h, List.mem_map, exists_exists_and_eq_and, Assigns]
  exact ⟨fun ⟨v, t, ht, hv⟩ => ⟨t, ht, v, hv⟩, fun ⟨t, ht, v, hv⟩ => ⟨v, t, ht, hv⟩⟩

/-- A value that was read from a file stands on one line. -/
theorem ofText_oneLine {text : String} {as : List (Key × String)} (h : ofText text = .ok as) :
    ∀ a ∈ as, '\n' ∉ a.2.toList := by
  intro a ha hn
  obtain ⟨line, hmem, hline⟩ := (mem_iff_exists_line h).1 ha
  exact not_mem_of_mem_lines hmem (value_subset_line hline hn)

end Assignment

end SieveRun
