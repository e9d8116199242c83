import SieveRun.Text.Blank
import SieveRun.Text.Pieces
import Mathlib.Data.List.DropRight
import Mathlib.Data.List.Induction
import Mathlib.Data.List.TakeWhile

/-!
# Cutting and trimming, undone

A text is taken apart in four ways: at every separator, at the first one, after a fixed
start, and by dropping the blanks at its ends. Each of these has one fact that says what
the parts are in terms of the whole (`pieces_append_sep`, `cut_eq_some_iff`,
`afterStart?_eq_some_iff`, `trim_around`), and the readers are reasoned about through
these alone.
-/

namespace SieveRun.Text

section
variable {α : Type} [DecidableEq α] {sep : α}

/-! ## Pieces and lines -/

theorem pieces_append_sep {l : List α} (h : sep ∉ l) (rest : List α) :
    pieces sep (l ++ sep :: rest) = l :: pieces sep rest := by
  induction l with
  | nil => simp [pieces]
  | cons x l ih =>
    have hx : x ≠ sep := fun he => h (he ▸ List.mem_cons_self)
    have hl : sep ∉ l := fun hm => h (List.mem_cons_of_mem _ hm)
    rw [List.cons_append, pieces, if_neg hx, ih hl]

theorem pieces_of_not_mem {l : List α} (h : sep ∉ l) : pieces sep l = [l] := by
  induction l with
  | nil => rfl
  | cons x l ih =>
    have hx : x ≠ sep := fun he => h (he ▸ List.mem_cons_self)
    have hl : sep ∉ l := fun hm => h (List.mem_cons_of_mem _ hm)
    rw [pieces, if_neg hx, ih hl]

/-- No piece holds the separator. -/
theorem not_mem_of_mem_pieces {l piece : List α} (h : piece ∈ pieces sep l) : sep ∉ piece := by
  induction l generalizing piece with
  | nil => simp_all [pieces]
  | cons x l ih =>
    unfold pieces at h
    split at h
    · rcases List.mem_cons.1 h with rfl | h
      · simp
      · exact ih h
    · rename_i hx
      cases hp : pieces sep l with
      | nil => exact absurd hp (pieces_ne_nil sep l)
      | cons first rest =>
        rw [hp] at h ih
        rcases List.mem_cons.1 h with rfl | h
        · have hfirst := ih List.mem_cons_self
          simp [Ne.symm hx, hfirst]
        · exact ih (List.mem_cons_of_mem _ h)

/-- Cutting undoes joining, as long as the separator is nowhere else. -/
theorem pieces_join {ls : List (List α)} (hne : ls ≠ []) (h : ∀ l ∈ ls, sep ∉ l) :
    pieces sep (join sep ls) = ls := by
  induction ls with
  | nil => exact absurd rfl hne
  | cons l ls ih =>
    cases ls with
    | nil => exact pieces_of_not_mem (h l List.mem_cons_self)
    | cons m ls =>
      rw [join, pieces_append_sep (h l List.mem_cons_self),
        ih (by simp) fun l' hl' => h l' (List.mem_cons_of_mem _ hl')]
      simp

/-- A separator anywhere cuts the pieces of both sides apart. -/
theorem pieces_append_cons (xs rest : List α) :
    pieces sep (xs ++ sep :: rest) = pieces sep xs ++ pieces sep rest := by
  induction xs with
  | nil => simp [pieces]
  | cons x xs ih =>
    rw [List.cons_append, pieces, pieces, ih]
    split
    · rfl
    · cases hp : pieces sep xs with
      | nil => exact absurd hp (pieces_ne_nil sep xs)
      | cons first others => rfl

omit [DecidableEq α] in
/-- A join holds what its parts hold, besides separators. -/
theorem mem_join_iff {ls : List (List α)} {x : α} (hx : x ≠ sep) :
    x ∈ join sep ls ↔ ∃ l ∈ ls, x ∈ l := by
  induction ls with
  | nil => simp [join]
  | cons l ls ih =>
    cases ls with
    | nil => simp [join]
    | cons m ls =>
      have hjoin : join sep (l :: m :: ls) = l ++ sep :: join sep (m :: ls) := rfl
      rw [hjoin, List.mem_append, List.mem_cons, ih]
      simp [hx]

omit [DecidableEq α] in
/-- Two joins with a separator between them are one join. -/
theorem join_append {ls ms : List (List α)} (hls : ls ≠ []) (hms : ms ≠ []) :
    join sep (ls ++ ms) = join sep ls ++ sep :: join sep ms := by
  induction ls with
  | nil => exact absurd rfl hls
  | cons l ls ih =>
    cases ls with
    | nil =>
      obtain ⟨m, ms, rfl⟩ := List.exists_cons_of_ne_nil hms
      rfl
    | cons l' ls =>
      have hjoin : ∀ rest, join sep (l :: l' :: rest) = l ++ sep :: join sep (l' :: rest) :=
        fun _ => rfl
      rw [List.cons_append, List.cons_append, hjoin, hjoin, ← List.cons_append, ih (by simp),
        List.append_assoc, List.cons_append]

/-- A piece that is begun goes on to the next separator. -/
theorem pieces_append {l : List α} (h : sep ∉ l) (rest : List α) :
    ∃ first others, pieces sep (l ++ rest) = (l ++ first) :: others := by
  induction l with
  | nil =>
    cases hp : pieces sep rest with
    | nil => exact absurd hp (pieces_ne_nil sep rest)
    | cons first others => exact ⟨first, others, by simp [hp]⟩
  | cons x l ih =>
    have hx : x ≠ sep := fun he => h (he ▸ List.mem_cons_self)
    obtain ⟨first, others, hp⟩ := ih fun hm => h (List.mem_cons_of_mem _ hm)
    refine ⟨first, others, ?_⟩
    rw [List.cons_append, pieces, if_neg hx, hp]
    rfl

/-- What ends in an empty piece ends in a separator. -/
theorem getLast?_of_pieces_concat_nil {xs : List α} {ls : List (List α)} (hne : ls ≠ [])
    (h : pieces sep xs = ls ++ [[]]) : xs.getLast? = some sep := by
  have key : ∀ ls : List (List α), ls ≠ [] → (join sep (ls ++ [[]])).getLast? = some sep := by
    intro ls hls
    induction ls with
    | nil => exact absurd rfl hls
    | cons l ls ih =>
      cases ls with
      | nil => simp [join]
      | cons m ls =>
        have hjoin : join sep (l :: m :: ls ++ [[]]) = l ++ sep :: join sep (m :: ls ++ [[]]) := rfl
        have hrest := ih (by simp)
        rw [hjoin, List.getLast?_append_of_ne_nil _ (by simp), List.getLast?_cons, hrest]
        rfl
  rw [← join_pieces sep xs, h]
  exact key ls hne

/-- The pieces of a text that continues the last piece of a join. -/
theorem pieces_join_append {ls : List (List α)} (h : ∀ l ∈ ls, sep ∉ l) (last rest : List α) :
    pieces sep (join sep (ls ++ [last]) ++ rest) = ls ++ pieces sep (last ++ rest) := by
  induction ls with
  | nil => rfl
  | cons l ls ih =>
    have hjoin : join sep (l :: (ls ++ [last])) = l ++ sep :: join sep (ls ++ [last]) := by
      cases ls <;> rfl
    rw [List.cons_append, hjoin, List.append_assoc, List.cons_append,
      pieces_append_sep (h l List.mem_cons_self),
      ih fun l' hl' => h l' (List.mem_cons_of_mem _ hl'), List.cons_append]

end

theorem lines_append_newline {l : List Char} (h : '\n' ∉ l) (rest : List Char) :
    lines (l ++ '\n' :: rest) = withoutReturn l :: lines rest := by
  rw [lines, pieces_append_sep h]
  cases hp : pieces '\n' rest with
  | nil => exact absurd hp (pieces_ne_nil _ _)
  | cons p ps => rw [linesOfPieces, lines, hp]; simp

theorem withoutReturn_subset (l : List Char) : withoutReturn l ⊆ l := by
  unfold withoutReturn
  split
  · exact l.dropLast_subset
  · exact List.Subset.refl l

/-- A line holds no line feed. -/
theorem not_mem_of_mem_lines {text l : List Char} (h : l ∈ lines text) : '\n' ∉ l := by
  have key : ∀ ps : List (List Char), l ∈ linesOfPieces ps → ∃ p ∈ ps, l ⊆ p := by
    intro ps
    induction ps with
    | nil => intro h; simp [linesOfPieces] at h
    | cons p ps ih =>
      intro h
      cases ps with
      | nil =>
        rw [linesOfPieces] at h
        split at h
        · simp at h
        · exact ⟨p, by simp, by simp_all⟩
      | cons q ps =>
        rw [linesOfPieces] at h
        · rcases List.mem_cons.1 h with rfl | h
          · exact ⟨p, List.mem_cons_self, withoutReturn_subset p⟩
          · obtain ⟨r, hr, hl⟩ := ih h
            exact ⟨r, List.mem_cons_of_mem _ hr, hl⟩
        · simp
  obtain ⟨p, hp, hl⟩ := key _ h
  exact fun hn => not_mem_of_mem_pieces hp (hl hn)

/-! ## Cutting once -/

section
variable {α : Type} [DecidableEq α] {sep : α}

theorem cut_eq_some_iff {xs a b : List α} :
    cut sep xs = some (a, b) ↔ xs = a ++ sep :: b ∧ sep ∉ a := by
  induction xs generalizing a with
  | nil => simp [cut]
  | cons x xs ih =>
    unfold cut
    split
    · rename_i hx
      subst hx
      constructor
      · intro h
        obtain ⟨rfl, rfl⟩ := Prod.mk.inj (Option.some.inj h)
        simp
      · intro h
        obtain ⟨h, ha⟩ := h
        cases a with
        | nil => simpa using h
        | cons y a =>
          -- the text begins with the separator, and so would the part before it
          have hy : x = y := (List.cons.inj h).1
          exact absurd (by rw [hy]; exact List.mem_cons_self) ha
    · rename_i hx
      rw [Option.map_eq_some_iff]
      constructor
      · intro h
        obtain ⟨⟨a', b'⟩, h, he⟩ := h
        obtain ⟨rfl, rfl⟩ := Prod.mk.inj he
        obtain ⟨rfl, ha⟩ := ih.1 h
        simp [Ne.symm hx, ha]
      · intro h
        obtain ⟨h, ha⟩ := h
        cases a with
        | nil => exact absurd (List.cons.inj h).1 hx
        | cons y a =>
          obtain ⟨rfl, rfl⟩ := List.cons.inj h
          exact ⟨(a, b), ih.2 ⟨rfl, fun hm => ha (List.mem_cons_of_mem _ hm)⟩, rfl⟩

theorem cut_eq_none_iff {xs : List α} : cut sep xs = none ↔ sep ∉ xs := by
  constructor
  · intro h hm
    obtain ⟨a, b, rfl, ha⟩ := List.eq_append_cons_of_mem hm
    rw [cut_eq_some_iff.2 ⟨rfl, ha⟩] at h
    simp at h
  · intro h
    cases hc : cut sep xs with
    | none => rfl
    | some parts =>
      obtain ⟨rfl, -⟩ := cut_eq_some_iff.1 hc
      simp at h

theorem afterStart?_eq_some_iff {start xs rest : List α} :
    afterStart? start xs = some rest ↔ xs = start ++ rest := by
  induction start generalizing xs with
  | nil => simp [afterStart?]
  | cons s start ih =>
    cases xs with
    | nil => simp [afterStart?]
    | cons x xs =>
      unfold afterStart?
      by_cases h : s = x
      · simp [h, ih]
      · simp [h, Ne.symm h]

end

/-! ## Blanks at the ends -/

theorem trimEnd_eq_rdropWhile (cs : List Char) : trimEnd cs = cs.rdropWhile isBlank := rfl

theorem trimStart_ends (cs : List Char) : trimStart cs <:+ cs := List.dropWhile_suffix _

theorem trimEnd_leads (cs : List Char) : trimEnd cs <+: cs := List.rdropWhile_prefix _ _

theorem trim_within (cs : List Char) : trim cs <:+: cs :=
  (trimEnd_leads _).isInfix.trans (trimStart_ends cs).isInfix

theorem trimStart_around {c : Char} (hc : isBlank c = false) (before after : List Char) :
    trimStart (before ++ c :: after) = trimStart before ++ c :: after := by
  rw [trimStart, List.dropWhile_append]
  split
  · rename_i h
    rw [trimStart, List.isEmpty_iff.1 h, List.nil_append,
      List.dropWhile_cons_of_neg (by simp [hc])]
  · rfl

theorem trimEnd_around {c : Char} (hc : isBlank c = false) (before after : List Char) :
    trimEnd (before ++ c :: after) = before ++ c :: trimEnd after := by
  rw [trimEnd, List.reverse_append, List.reverse_cons, List.append_assoc, List.singleton_append]
  have hreverse := trimStart_around hc after.reverse before.reverse
  rw [trimStart] at hreverse
  rw [hreverse]
  simp [trimStart, trimEnd]

/-- Around a character that is no blank, the two ends are trimmed apart. -/
theorem trim_around {c : Char} (hc : isBlank c = false) (before after : List Char) :
    trim (before ++ c :: after) = trimStart before ++ c :: trimEnd after := by
  rw [trim, trimStart_around hc, trimEnd_around hc]

/-- A text is all blank, or there is a character to trim around. -/
theorem all_blank_or_around (cs : List Char) :
    (∀ c ∈ cs, isBlank c = true) ∨ ∃ before c after, cs = before ++ c :: after ∧ isBlank c = false := by
  by_cases h : ∀ c ∈ cs, isBlank c = true
  · exact .inl h
  · right
    push Not at h
    obtain ⟨c, hc, hb⟩ := h
    obtain ⟨before, after, rfl⟩ := List.append_of_mem hc
    exact ⟨before, c, after, rfl, by simpa using hb⟩

theorem trimStart_of_all {cs : List Char} (h : ∀ c ∈ cs, isBlank c = true) : trimStart cs = [] :=
  List.dropWhile_eq_nil_iff.2 h

theorem trimEnd_of_all {cs : List Char} (h : ∀ c ∈ cs, isBlank c = true) : trimEnd cs = [] :=
  List.rdropWhile_eq_nil_iff.2 h

theorem trim_eq_nil_iff {cs : List Char} : trim cs = [] ↔ ∀ c ∈ cs, isBlank c = true := by
  constructor
  · intro h
    rcases all_blank_or_around cs with hall | ⟨before, c, after, rfl, hc⟩
    · exact hall
    · rw [trim_around hc] at h
      exact absurd h (by simp)
  · intro h
    rw [trim, trimStart_of_all h]
    rfl

/-- It does not matter which end is trimmed first. -/
theorem trimStart_trimEnd (cs : List Char) : trimStart (trimEnd cs) = trim cs := by
  rcases all_blank_or_around cs with h | ⟨before, c, after, rfl, hc⟩
  · rw [trim, trimStart_of_all h, trimEnd_of_all h]
    rfl
  · rw [trimEnd_around hc, trimStart_around hc, trim_around hc]

theorem trimStart_trimStart (cs : List Char) : trimStart (trimStart cs) = trimStart cs :=
  List.dropWhile_idempotent _ _

theorem trimEnd_trimEnd (cs : List Char) : trimEnd (trimEnd cs) = trimEnd cs :=
  List.rdropWhile_idempotent _ _

theorem trim_trimStart (cs : List Char) : trim (trimStart cs) = trim cs := by
  rw [trim, trim, trimStart_trimStart]

theorem trim_trimEnd (cs : List Char) : trim (trimEnd cs) = trim cs := by
  rw [← trimStart_trimEnd, trimEnd_trimEnd, trimStart_trimEnd]

@[simp] theorem trim_trim (cs : List Char) : trim (trim cs) = trim cs := by
  show trim (trimEnd (trimStart cs)) = trim cs
  rw [trim_trimEnd, trim_trimStart]

/-- Trimming only takes blanks away. -/
theorem mem_trim {c : Char} {cs : List Char} (h : c ∈ cs) (hc : isBlank c = false) :
    c ∈ trim cs := by
  obtain ⟨before, after, rfl⟩ := List.append_of_mem h
  rw [trim_around hc]
  simp

theorem trim_cons_blank {c : Char} (hc : isBlank c = true) (cs : List Char) :
    trim (c :: cs) = trim cs := by
  rw [trim, trimStart, List.dropWhile_cons_of_pos hc]
  rfl

theorem trim_concat_blank {c : Char} (hc : isBlank c = true) (cs : List Char) :
    trim (cs ++ [c]) = trim cs := by
  rw [← trimStart_trimEnd, trimEnd_eq_rdropWhile, List.rdropWhile_concat_pos _ _ _ hc,
    ← trimEnd_eq_rdropWhile, trimStart_trimEnd]

/-- Blanks at the ends make no difference, however many. -/
theorem trim_blanks_around {front back : List Char} (hfront : ∀ c ∈ front, isBlank c = true)
    (hback : ∀ c ∈ back, isBlank c = true) (cs : List Char) :
    trim (front ++ cs ++ back) = trim cs := by
  induction back using List.reverseRecOn with
  | nil =>
    rw [List.append_nil]
    induction front with
    | nil => rfl
    | cons c front ih =>
      obtain ⟨hc, hfront⟩ := List.forall_mem_cons.1 hfront
      rw [List.cons_append, trim_cons_blank hc, ih hfront]
  | append_singleton back c ih =>
    rw [← List.append_assoc, trim_concat_blank (hback c (by simp)),
      ih fun d hd => hback d (List.mem_append_left _ hd)]

/-- What is taken away is blank. -/
theorem eq_blanks_around_trim (cs : List Char) :
    ∃ front back, cs = front ++ trim cs ++ back ∧ (∀ c ∈ front, isBlank c = true)
      ∧ ∀ c ∈ back, isBlank c = true := by
  refine ⟨cs.takeWhile isBlank, (trimStart cs).rtakeWhile isBlank, ?_,
    fun _ hc => List.mem_takeWhile_imp hc, fun _ hc => List.mem_rtakeWhile_imp hc⟩
  rw [List.append_assoc, trim, trimEnd_eq_rdropWhile, List.rdropWhile_append_rtakeWhile, trimStart,
    List.takeWhile_append_dropWhile]

/-- A text is trimmed when it does not begin or end with a blank. -/
theorem trim_eq_self_iff {cs : List Char} :
    trim cs = cs ↔
      (∀ c ∈ cs.head?, isBlank c = false) ∧ ∀ c ∈ cs.getLast?, isBlank c = false := by
  constructor
  · intro h
    -- trimming a blank away makes the text shorter
    refine ⟨fun c hc => ?_, fun c hc => ?_⟩
    · obtain ⟨rest, rfl⟩ := List.head?_eq_some_iff.1 hc
      by_contra hblank
      rw [trim_cons_blank (by simpa using hblank)] at h
      have hlength := (trim_within rest).length_le
      rw [h, List.length_cons] at hlength
      omega
    · obtain ⟨front, rfl⟩ := List.getLast?_eq_some_iff.1 hc
      by_contra hblank
      rw [trim_concat_blank (by simpa using hblank)] at h
      have hlength := (trim_within front).length_le
      rw [h, List.length_append, List.length_singleton] at hlength
      omega
  · rintro ⟨hhead, hlast⟩
    have hstart : trimStart cs = cs := by
      rw [trimStart, List.dropWhile_eq_self_iff]
      intro hl
      have hmem : cs[0] ∈ cs.head? := by simp [List.head?_eq_getElem?, hl]
      simp [hhead _ hmem]
    rw [trim, hstart, trimEnd_eq_rdropWhile, List.rdropWhile_eq_self_iff]
    intro hl
    simp [hlast _ (List.getLast?_eq_some_getLast hl)]

theorem trim_eq_self_of_forall {cs : List Char} (h : ∀ c ∈ cs, isBlank c = false) :
    trim cs = cs :=
  trim_eq_self_iff.2 ⟨fun _ hc => h _ (List.mem_of_mem_head? hc),
    fun _ hc => h _ (List.mem_of_getLast? hc)⟩

end SieveRun.Text
