import SieveRun.Proofs.KeptOptions
import SieveRun.Proofs.LineGrammar

/-!
# Remarks and blank lines

A line that says nothing can stand anywhere among others (`ofLines_insert_iff`), and a line can be
replaced by one that says the same (`ofLines_replace_iff`). So what remarks and blanks do to a list
of lines is settled by looking at one line.

Two sets of white space meet there. A `#` opens a comment behind an ASCII blank, and lines are
trimmed of all blanks. Where the white space before a `#` ends in an ASCII blank the two agree, and
the remark is ignored; behind a no-break space or a vertical tab the `#` belongs to the content.
Then it is never lost: it cannot stand in a key, and trimming keeps it, so the value has one `#`
more than before (`count_content_lt`). The remark is ignored all the same where an earlier comment
hides it.
-/

namespace SieveRun

open Text Assignment

namespace Assignment

variable {front back : List (List Char)} {line line' blanks : List Char} {number : Nat}
  {as : List (Key × String)} {said : Option (Key × String)}

/-! ## One line among others -/

theorem ofLines_around_iff :
    ofLines number (front ++ line :: back) = .ok as ↔
      ∃ said bs cs, Says line said ∧ ofLines number front = .ok bs ∧ ofLines number back = .ok cs
        ∧ as = bs ++ (said.toList ++ cs) := by
  simp only [ofLines_append_eq_ok_iff, ofLines_cons_eq_ok_iff]
  constructor
  · rintro ⟨bs, _, hfront, ⟨said, cs, hsaid, hback, rfl⟩, rfl⟩
    exact ⟨said, bs, cs, hsaid, hfront, hback, rfl⟩
  · rintro ⟨said, bs, cs, hsaid, hfront, hback, rfl⟩
    exact ⟨bs, _, hfront, ⟨said, cs, hsaid, hback, rfl⟩, rfl⟩

theorem toList_inj_of_append {said said' : Option (Key × String)} {bs cs : List (Key × String)}
    (h : bs ++ (said.toList ++ cs) = bs ++ (said'.toList ++ cs)) : said = said' := by
  have hlists : said.toList = said'.toList :=
    List.append_cancel_right (List.append_cancel_left h)
  refine Option.ext fun a => ?_
  rw [← Option.mem_toList, ← Option.mem_toList, hlists]

/-- A line can be put among others exactly when it says nothing. -/
theorem ofLines_insert_iff (h : ofLines number (front ++ back) = .ok as) :
    ofLines number (front ++ line :: back) = .ok as ↔ Says line none := by
  obtain ⟨bs, cs, hfront, hback, rfl⟩ := ofLines_append_eq_ok_iff.1 h
  rw [ofLines_around_iff]
  constructor
  · rintro ⟨said, bs', cs', hsaid, hfront', hback', heq⟩
    obtain rfl := Except.ok.inj (hfront.symm.trans hfront')
    obtain rfl := Except.ok.inj (hback.symm.trans hback')
    obtain rfl : none = said := toList_inj_of_append heq
    exact hsaid
  · exact fun hsaid => ⟨none, bs, cs, hsaid, hfront, hback, rfl⟩

/-- A line can be replaced exactly by those that say the same. -/
theorem ofLines_replace_iff (h : ofLines number (front ++ line :: back) = .ok as) :
    ofLines number (front ++ line' :: back) = .ok as ↔
      ∃ said, Says line said ∧ Says line' said := by
  obtain ⟨said, bs, cs, hsaid, hfront, hback, rfl⟩ := ofLines_around_iff.1 h
  rw [ofLines_around_iff]
  constructor
  · rintro ⟨said', bs', cs', hsaid', hfront', hback', heq⟩
    obtain rfl := Except.ok.inj (hfront.symm.trans hfront')
    obtain rfl := Except.ok.inj (hback.symm.trans hback')
    obtain rfl := toList_inj_of_append heq
    exact ⟨said, hsaid, hsaid'⟩
  · rintro ⟨said', hsaid₁, hsaid'⟩
    obtain rfl : said = said' := (says_iff.1 hsaid).2.symm.trans (says_iff.1 hsaid₁).2
    exact ⟨said, bs, cs, hsaid', hfront, hback, rfl⟩

/-! ## White space before a hash -/

/-- What is left of a line that a remark is put behind. -/
theorem beforeComment_remark (hblanks : ∀ c ∈ blanks, isBlank c = true)
    (hline : ¬ OpensComment line) (remark : List Char) :
    beforeComment true (line ++ (blanks ++ '#' :: remark)) =
      line ++ blanks ++ if opensAfter true (line ++ blanks) = true then []
        else '#' :: beforeComment false remark := by
  have hself : beforeComment true (line ++ blanks) = line ++ blanks := by
    rw [beforeComment_append, if_pos (beforeComment_true_eq_self_iff.2 hline),
      beforeComment_of_not_mem (hash_not_mem_blanks hblanks)]
  rw [← List.append_assoc, beforeComment_append, if_pos hself, beforeComment]
  by_cases hopens : opensAfter true (line ++ blanks) = true
  · rw [if_pos ⟨rfl, hopens⟩, if_pos hopens]
  · rw [if_neg fun h => hopens h.2, if_neg hopens]
    rfl

/-- Trimming takes no `#` away. -/
theorem count_hash_trim (cs : List Char) : (trim cs).count '#' = cs.count '#' := by
  obtain ⟨front, back, hcs, hfront, hback⟩ := eq_blanks_around_trim cs
  have hends : ∀ blanks : List Char, (∀ c ∈ blanks, isBlank c = true) → blanks.count '#' = 0 :=
    fun blanks hblanks => List.count_eq_zero.2 (hash_not_mem_blanks hblanks)
  conv_rhs => rw [hcs]
  rw [List.count_append, List.count_append, hends front hfront, hends back hback, Nat.zero_add,
    Nat.add_zero]

/-- No `#` stands in a key, so the content has the `#` of the value. -/
theorem count_hash_of_ofContent? {cs : List Char} {k : Key} {v : String}
    (h : ofContent? cs = some (k, v)) : cs.count '#' = v.toList.count '#' := by
  obtain ⟨⟨before, after⟩, hcut, hmap⟩ := Option.bind_eq_some_iff.1 h
  obtain ⟨key, hkey, he⟩ := Option.map_eq_some_iff.1 hmap
  obtain ⟨rfl, rfl⟩ := Prod.mk.inj he
  obtain ⟨rfl, -⟩ := cut_eq_some_iff.1 hcut
  obtain ⟨htext, hwf⟩ := Key.parse?_eq_some_iff.1 hkey
  have hbefore : before.count '#' = 0 := by
    rw [← count_hash_trim, ← String.toList_ofList (l := trim before), htext]
    exact List.count_eq_zero.2 fun hmem => (Key.plainChar_of_mem_text hwf hmem).ne_hash rfl
  rw [String.toList_ofList, count_hash_trim, List.count_append, hbefore, Nat.zero_add,
    List.count_cons_of_ne (by decide)]

/-- Lines that say the same have the same number of `#` in their contents. -/
theorem Says.count_hash (h : Says line said) :
    (content line).count '#' = ((said.map fun a => a.2.toList).getD []).count '#' := by
  obtain ⟨hreadable, rfl⟩ := says_iff.1 h
  cases hread : ofContent? (content line) with
  | none =>
    rw [Readable, hread] at hreadable
    rw [hreadable.resolve_right (by simp)]
    rfl
  | some a => exact count_hash_of_ofContent? hread

/-! ## Remarks -/

/-- A remark behind blanks says nothing where its `#` opens a comment, and only there. -/
theorem says_none_remark_iff (hblanks : ∀ c ∈ blanks, isBlank c = true) (remark : List Char) :
    Says (blanks ++ '#' :: remark) none ↔ ∀ c ∈ blanks.getLast?, isAsciiBlank c = true := by
  have hempty : ¬ OpensComment [] := by
    rintro ⟨before, after, heq, -⟩
    exact absurd heq (by simp)
  have hleft := beforeComment_remark hblanks hempty remark
  rw [List.nil_append, List.nil_append] at hleft
  rw [says_none_iff, ← opensAfter_true_iff, content, trim_eq_nil_iff, hleft]
  split
  · rename_i hopens
    rw [List.append_nil]
    exact iff_of_true hblanks hopens
  · rename_i hopens
    refine iff_of_false (fun hall => ?_) hopens
    exact absurd (hall '#' (by simp)) (by decide)

/-- What is put behind a line in a comment changes nothing of what the line says. -/
theorem content_remark_of_opens (hblanks : ∀ c ∈ blanks, isBlank c = true) (remark : List Char)
    (h : OpensComment line ∨ opensAfter true (line ++ blanks) = true) :
    content (line ++ (blanks ++ '#' :: remark)) = content line := by
  by_cases hline : OpensComment line
  · rw [content, beforeComment_append, if_neg fun hself =>
      beforeComment_true_eq_self_iff.1 hself hline, content]
  · rw [content, beforeComment_remark hblanks hline, if_pos (h.resolve_left hline), content,
      beforeComment_true_eq_self_iff.2 hline, List.append_nil]
    exact trim_blanks_around (List.forall_mem_nil _) hblanks line

/-- What is put behind a line in no comment adds a `#` to the content. -/
theorem count_content_lt (hblanks : ∀ c ∈ blanks, isBlank c = true) (remark : List Char)
    (hline : ¬ OpensComment line) (hopens : ¬ opensAfter true (line ++ blanks) = true) :
    (content line).count '#' < (content (line ++ (blanks ++ '#' :: remark))).count '#' := by
  rw [content, content, count_hash_trim, count_hash_trim, beforeComment_remark hblanks hline,
    if_neg hopens, beforeComment_true_eq_self_iff.2 hline, List.count_append, List.count_append,
    List.count_cons_self]
  omega

theorem says_same_remark_iff (hblanks : ∀ c ∈ blanks, isBlank c = true) (remark : List Char)
    (hreadable : Readable line) :
    (∃ said, Says line said ∧ Says (line ++ (blanks ++ '#' :: remark)) said) ↔
      OpensComment line ∨ opensAfter true (line ++ blanks) = true := by
  constructor
  · rintro ⟨said, hsaid, hsaid'⟩
    by_contra hno
    obtain ⟨hline, hopens⟩ := not_or.1 hno
    have hlt := count_content_lt hblanks remark hline hopens
    rw [hsaid.count_hash, hsaid'.count_hash] at hlt
    exact Nat.lt_irrefl _ hlt
  · intro h
    obtain ⟨said, hsaid⟩ := readable_iff_exists_says.1 hreadable
    refine ⟨said, hsaid, ?_⟩
    rwa [says_iff, Readable, content_remark_of_opens hblanks remark h, ← Readable, ← says_iff]

/-- Where the blanks are not empty, the last of them decides whether a comment opens. -/
theorem opensAfter_append_blanks (hne : blanks ≠ []) :
    opensAfter true (line ++ blanks) = true ↔ ∀ c ∈ blanks.getLast?, isAsciiBlank c = true := by
  rw [opensAfter_true_iff, List.getLast?_append_of_ne_nil _ hne]

end Assignment

/-- **Remarks are ignored exactly where they open a comment.** Among lines that are read, a blank
line may stand anywhere. A line of blanks and a remark may stand there exactly when there are no
blanks or the last of them is an ASCII blank. Blanks and a remark behind a line change nothing
exactly when the last of the blanks is an ASCII blank or a comment of the line hides them. -/
theorem remarks_ignored_iff {blanks : List Char} (hblanks : ∀ c ∈ blanks, isBlank c = true)
    (remark : List Char) (number : Nat) (front back : List (List Char))
    (as : List (Key × String)) :
    (ofLines number (front ++ back) = .ok as →
      ofLines number (front ++ blanks :: back) = .ok as
        ∧ (ofLines number (front ++ (blanks ++ '#' :: remark) :: back) = .ok as ↔
            ∀ c ∈ blanks.getLast?, isAsciiBlank c = true))
      ∧ ∀ line, ofLines number (front ++ line :: back) = .ok as → blanks ≠ [] →
          (ofLines number (front ++ (line ++ (blanks ++ '#' :: remark)) :: back) = .ok as ↔
            OpensComment line ∨ ∀ c ∈ blanks.getLast?, isAsciiBlank c = true) := by
  refine ⟨fun h => ⟨?_, ?_⟩, fun line h hne => ?_⟩
  · rw [ofLines_insert_iff h, says_none_iff, content_eq_nil_iff]
    exact .inl hblanks
  · rw [ofLines_insert_iff h, says_none_remark_iff hblanks]
  · obtain ⟨said, -, -, hsaid, -⟩ := ofLines_around_iff.1 h
    rw [ofLines_replace_iff h, says_same_remark_iff hblanks remark (says_iff.1 hsaid).1,
      opensAfter_append_blanks hne]

/-- A space behind a no-break space is enough for both. -/
theorem spacedRemarks_ignored :
    let read : Except Fault (List (Key × String)) := .ok [(⟨[], "N"⟩, "1"), (⟨[], "name"⟩, "c5")]
    ofLines 1 ["N=1".toList, "name=c5".toList] = read
      ∧ ofLines 1 ["N=1".toList, "\u00a0 # c".toList, "name=c5".toList] = read
      ∧ ofLines 1 ["N=1\u00a0 # c".toList, "name=c5".toList] = read := by
  intro read
  have hread : ofLines 1 ["N=1".toList, "name=c5".toList] = read := by decide +kernel
  have hblanks : ∀ c ∈ ['\u00a0', ' '], isBlank c = true :=
    List.forall_mem_cons.2 ⟨by decide, List.forall_mem_singleton.2 (by decide)⟩
  have hlast : ∀ c ∈ ['\u00a0', ' '].getLast?, isAsciiBlank c = true := by
    intro c hc
    obtain rfl := Option.some.inj hc
    decide
  have hall := fun front back => remarks_ignored_iff hblanks [' ', 'c'] 1 front back
    [(⟨[], "N"⟩, "1"), (⟨[], "name"⟩, "c5")]
  refine ⟨hread, ?_, ?_⟩
  · exact ((hall ["N=1".toList] ["name=c5".toList]).1 hread).2.2 hlast
  · exact ((hall [] ["name=c5".toList]).2 "N=1".toList hread (by simp)).2 (.inr hlast)

/-- A no-break space is a blank, but no comment opens behind it: a line of its own is refused, and
behind a value the remark becomes a part of it. -/
theorem unbroken_remark_read :
    isBlank '\u00a0' = true
      ∧ ofLines 1 ["N=1".toList] = .ok [(⟨[], "N"⟩, "1")]
      ∧ ofLines 1 ["N=1".toList, "\u00a0# c".toList] = .error ⟨2, "\u00a0# c"⟩
      ∧ ofLines 1 ["N=1\u00a0# c".toList] = .ok [(⟨[], "N"⟩, "1\u00a0# c")] := by
  decide +kernel

end SieveRun
