import SieveRun.Hierarchy.Key
import SieveRun.Proofs.Cutting

/-!
# Well-formed keys and their texts

A well-formed key is its text: parsing the text gives the key back and nothing else does
(`parse?_eq_some_iff`). What makes the texts safe to print is that none of their characters
means anything on a line: no blank, no `#`, no `=` and no line feed (`Key.PlainChar`).
-/

namespace SieveRun

open Text

namespace Key

variable {k : Key} {c : Char}

/-! ## The characters of a key -/

theorem isNameChar_toNat (h : isNameChar c = true) : 0x2D ≤ c.toNat ∧ c.toNat ≤ 0x7A := by
  simp only [isNameChar, isDigit, Bool.or_eq_true, Bool.and_eq_true, decide_eq_true_eq, beq_iff_eq,
    Char.le_def, UInt32.le_iff_toNat_le] at h
  show 0x2D ≤ c.val.toNat ∧ c.val.toNat ≤ 0x7A
  -- a capital, a small letter, a digit, the underscore or the hyphen
  rcases h with (((h | h) | h) | rfl) | rfl
  · exact ⟨Nat.le_trans (by decide) h.1, Nat.le_trans h.2 (by decide)⟩
  · exact ⟨Nat.le_trans (by decide) h.1, Nat.le_trans h.2 (by decide)⟩
  · exact ⟨Nat.le_trans (by decide) h.1, Nat.le_trans h.2 (by decide)⟩
  · decide
  · decide

/-- A character of the text of a well-formed key. -/
def PlainChar (c : Char) : Prop := isNameChar c = true ∨ c = '.'

namespace PlainChar

theorem not_blank (h : PlainChar c) : isBlank c = false := by
  rcases h with h | rfl
  · -- all blanks lie outside of the range that the names' characters are in
    have hrange := isNameChar_toNat h
    simp only [isBlank, inRanges, blankRanges, List.any_cons, List.any_nil, Bool.or_eq_false_iff,
      Bool.and_eq_false_iff, decide_eq_false_iff_not, Bool.or_false]
    omega
  · decide

theorem ne_hash (h : PlainChar c) : c ≠ '#' := by
  intro he
  subst he
  exact absurd h (by unfold PlainChar; decide)

theorem ne_equals (h : PlainChar c) : c ≠ '=' := by
  intro he
  subst he
  exact absurd h (by unfold PlainChar; decide)

theorem ne_newline (h : PlainChar c) : c ≠ '\n' := by
  intro he
  subst he
  exact absurd h (by unfold PlainChar; decide)

end PlainChar

theorem isName_iff {name : String} :
    isName name = true ↔ name.toList ≠ [] ∧ ∀ c ∈ name.toList, isNameChar c = true := by
  simp [isName]

theorem isWellFormed_iff : k.isWellFormed = true ↔ ∀ name ∈ k.names, isName name = true := by
  simp [isWellFormed]

theorem names_ne_nil (k : Key) : k.names ≠ [] := by simp [names]

theorem text_toList (k : Key) : k.text.toList = join '.' (k.names.map String.toList) := by
  simp [text]

theorem mem_join {α : Type} {sep x : α} {ls : List (List α)} (h : x ∈ join sep ls) :
    x = sep ∨ ∃ l ∈ ls, x ∈ l := by
  induction ls with
  | nil => simp [join] at h
  | cons l ls ih =>
    cases ls with
    | nil => exact .inr ⟨l, List.mem_cons_self, h⟩
    | cons m ls =>
      rw [join] at h
      · rcases List.mem_append.1 h with h | h
        · exact .inr ⟨l, List.mem_cons_self, h⟩
        · rcases List.mem_cons.1 h with rfl | h
          · exact .inl rfl
          · rcases ih h with hs | hl
            · exact .inl hs
            · obtain ⟨l', hl', hx⟩ := hl
              exact .inr ⟨l', List.mem_cons_of_mem _ hl', hx⟩
      · simp

theorem plainChar_of_mem_text (hk : k.isWellFormed = true) (hc : c ∈ k.text.toList) :
    PlainChar c := by
  rw [text_toList] at hc
  rcases mem_join hc with rfl | ⟨l, hl, hc⟩
  · exact .inr rfl
  · obtain ⟨name, hname, rfl⟩ := List.mem_map.1 hl
    exact .inl ((isName_iff.1 (isWellFormed_iff.1 hk name hname)).2 c hc)

theorem trim_text (hk : k.isWellFormed = true) : trim k.text.toList = k.text.toList :=
  trim_eq_self_of_forall fun _ hc => (plainChar_of_mem_text hk hc).not_blank

/-! ## Parsing a key -/

theorem ofText_text (hk : k.isWellFormed = true) : ofText k.text = k := by
  have hpieces : pieces '.' k.text.toList = k.names.map String.toList := by
    rw [text_toList]
    refine pieces_join (by simp [names_ne_nil]) fun l hl hdot => ?_
    obtain ⟨name, hname, rfl⟩ := List.mem_map.1 hl
    have hchar := (isName_iff.1 (isWellFormed_iff.1 hk name hname)).2 '.' hdot
    exact absurd hchar (by decide)
  have hid : (String.ofList ∘ String.toList) = id := by funext t; simp
  rw [ofText, namesOfText, hpieces, List.map_map, hid, List.map_id, ofNames, names]
  simp

/-- The text of a well-formed key is the one text that parses to it. -/
theorem parse?_eq_some_iff {t : String} :
    parse? t = some k ↔ t = k.text ∧ k.isWellFormed = true := by
  unfold parse?
  constructor
  · intro h
    split at h
    · rename_i hw
      obtain rfl := Option.some.inj h
      exact ⟨(text_ofText t).symm, hw⟩
    · simp at h
  · intro h
    obtain ⟨rfl, hk⟩ := h
    rw [ofText_text hk, if_pos hk]

end Key

end SieveRun
