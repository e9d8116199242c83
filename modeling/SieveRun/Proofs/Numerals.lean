import SieveRun.Proofs.Spelling
import Mathlib.Data.Nat.Digits.Defs

/-!
# Numbers and their spellings

A number is spelt by a run of digits, between blanks perhaps and with zeros in front perhaps, and
what is spelt is the sum of the digits, each times the power of ten at its place (`denoted`). A text
is read as a number exactly where it is such a spelling, and the number is what the spelling denotes
(`ofText?_eq_some_iff`).

Zeros at the start are all that spellings of one number differ in: without them a spelling is the
numeral of the number (`numeral_digitsValue`), and the numeral has the digits of the number to the
base ten and no others (`digits_eq_numeral`). So numbers, which are compared, counted and shown as
texts of digits, are the natural numbers (`spellings_denote`).
-/

namespace SieveRun

open Text

/-! ## Digits -/

namespace Text

variable {c : Char} {ds : List Char}

/-- The digits of a spelling that count: all but the zeros at the start. -/
def significant (ds : List Char) : List Char := ds.dropWhile (· == '0')

theorem isDigit_iff_toNat : isDigit c = true ↔ 48 ≤ c.toNat ∧ c.toNat ≤ 57 := by
  rw [isDigit, Bool.and_eq_true, decide_eq_true_iff, decide_eq_true_iff]
  exact Iff.rfl

theorem digitValue_lt (h : isDigit c = true) : digitValue c < 10 := by
  have hrange := isDigit_iff_toNat.1 h
  have hvalue : digitValue c = c.toNat - 48 := rfl
  omega

theorem digitChar_digitValue (h : isDigit c = true) : Nat.digitChar (digitValue c) = c := by
  have hrange := isDigit_iff_toNat.1 h
  have hvalue : digitValue c = c.toNat - 48 := rfl
  refine Char.toNat_inj.1 ?_
  rw [Nat.toNat_digitChar_of_lt_ten (digitValue_lt h)]
  omega

theorem digitsValue_concat (ds : List Char) (c : Char) :
    digitsValue (ds ++ [c]) = 10 * digitsValue ds + digitValue c := by
  rw [digitsValue, List.foldl_append]
  rfl

theorem digitsValue_zeros (k : Nat) (ds : List Char) :
    digitsValue (List.replicate k '0' ++ ds) = digitsValue ds := by
  induction k with
  | zero => rfl
  | succ k ih => exact ih

theorem eq_zeros_significant (ds : List Char) :
    ∃ k, ds = List.replicate k '0' ++ significant ds := by
  induction ds with
  | nil => exact ⟨0, rfl⟩
  | cons c ds ih =>
    by_cases hc : c = '0'
    · obtain ⟨k, hk⟩ := ih
      refine ⟨k + 1, ?_⟩
      subst hc
      exact congrArg ('0' :: ·) hk
    · refine ⟨0, ?_⟩
      rw [significant, List.dropWhile_cons_of_neg (by simpa using hc)]
      rfl

/-- Digits that do not start with a zero are the numeral of what they spell. -/
theorem toDigits_digitsValue (hdigits : ∀ c ∈ ds, isDigit c = true) (hne : ds ≠ [])
    (hhead : ds.head? ≠ some '0') : Nat.toDigits 10 (digitsValue ds) = ds := by
  induction ds using List.reverseRecOn with
  | nil => exact absurd rfl hne
  | append_singleton ds c ih =>
    have hc := hdigits c (by simp)
    have hlast : Nat.toDigits 10 (digitValue c) = [c] := by
      rw [Nat.toDigits_of_lt_base (digitValue_lt hc), digitChar_digitValue hc]
    rw [digitsValue_concat]
    by_cases hnil : ds = []
    · subst hnil
      rw [← hlast]
      exact congrArg (Nat.toDigits 10) (Nat.zero_add _)
    · have hhead' : ds.head? ≠ some '0' := by
        rwa [List.head?_append_of_ne_nil _ hnil] at hhead
      have hfirst := ih (fun d hd => hdigits d (List.mem_append_left _ hd)) hnil hhead'
      -- digits that spell zero would be a zero
      have hpos : 0 < digitsValue ds := by
        refine Nat.pos_of_ne_zero fun hzero => hhead' ?_
        rw [hzero, Nat.toDigits_zero] at hfirst
        rw [← hfirst]
        rfl
      rw [← Nat.toDigits_append_toDigits (by decide) hpos (digitValue_lt hc), hfirst, hlast]

theorem head?_significant (ds : List Char) : (significant ds).head? ≠ some '0' := by
  intro h
  have hfirst := List.head?_dropWhile_not (· == '0') ds
  rw [← significant, h] at hfirst
  exact absurd hfirst (by simp)

/-- Without zeros at the start a spelling is the numeral, or nothing where the number is zero. -/
theorem numeral_digitsValue (hdigits : ∀ c ∈ ds, isDigit c = true) :
    (numeral (digitsValue ds)).toList =
      if significant ds = [] then ['0'] else significant ds := by
  obtain ⟨k, hk⟩ := eq_zeros_significant ds
  have hvalue : digitsValue ds = digitsValue (significant ds) := by
    rw [hk, digitsValue_zeros, ← hk]
  rw [numeral_toList, hvalue]
  by_cases hnil : significant ds = []
  · rw [if_pos hnil, hnil]
    rfl
  · rw [if_neg hnil]
    refine toDigits_digitsValue (fun c hc => hdigits c ?_) hnil (head?_significant ds)
    rw [hk]
    exact List.mem_append_right _ hc

/-- The number that digits denote: the sum of the digits, each times the power of ten at its place,
counted from the last one. -/
def denoted (ds : List Char) : Nat := Nat.ofDigits 10 (ds.reverse.map digitValue)

/-- A run of digits, at least one. -/
def IsDigits (ds : List Char) : Prop := ds ≠ [] ∧ ∀ c ∈ ds, isDigit c = true

theorem digitsValue_eq_denoted (ds : List Char) : digitsValue ds = denoted ds := by
  induction ds using List.reverseRecOn with
  | nil => rfl
  | append_singleton ds c ih =>
    rw [digitsValue_concat, ih, denoted, denoted, List.reverse_concat, List.map_cons,
      Nat.ofDigits_cons]
    exact Nat.add_comm _ _

theorem denoted_numeral (n : Nat) : denoted (numeral n).toList = n := by
  rw [← digitsValue_eq_denoted]
  exact (numeral?_eq_some_iff.1 (numeral?_numeral n)).2

theorem isDigits_numeral (n : Nat) : IsDigits (numeral n).toList :=
  (numeral?_eq_some_iff.1 (numeral?_numeral n)).1

/-- No numeral but that of zero begins with a zero. -/
theorem eq_zero_of_head?_numeral {n : Nat} (h : (numeral n).toList.head? = some '0') : n = 0 := by
  have hnumeral := numeral_digitsValue (isDigits_numeral n).2
  rw [digitsValue_eq_denoted, denoted_numeral] at hnumeral
  split at hnumeral
  · rw [← denoted_numeral n, hnumeral]
    rfl
  · rw [hnumeral] at h
    exact absurd h (head?_significant _)

/-- From the last to the first, the digits of a numeral are those of the number to the base ten. -/
theorem digits_eq_numeral {n : Nat} (hn : n ≠ 0) :
    Nat.digits 10 n = (numeral n).toList.reverse.map digitValue := by
  conv_lhs => rw [← denoted_numeral n, denoted]
  refine Nat.digits_ofDigits 10 (by decide) _ (fun d hd => ?_) fun hne hlast => hn ?_
  · obtain ⟨c, hc, rfl⟩ := List.mem_map.1 hd
    exact digitValue_lt (isDigit_of_mem_numeral (List.mem_reverse.1 hc))
  · -- the last of them is the value of the first character
    obtain ⟨c, rest, hcons⟩ := List.exists_cons_of_ne_nil (isDigits_numeral n).1
    have hvalue : digitValue c = 0 := by simpa [hcons] using hlast
    have hc : c = '0' := by
      rw [← digitChar_digitValue ((isDigits_numeral n).2 c (by simp [hcons])), hvalue]
      rfl
    exact eq_zero_of_head?_numeral (by rw [hcons, hc]; rfl)

/-- Where the digits of a number end can be told from what follows them. -/
theorem numeral_append_inj {a b : Nat} {x y : List Char} (hx : ∀ c ∈ x.head?, isDigit c = false)
    (hy : ∀ c ∈ y.head?, isDigit c = false)
    (h : (numeral a).toList ++ x = (numeral b).toList ++ y) : a = b ∧ x = y := by
  have hdigits : ∀ (m : Nat) (z : List Char), (∀ c ∈ z.head?, isDigit c = false) →
      ((numeral m).toList ++ z).takeWhile isDigit = (numeral m).toList := by
    intro m z hz
    rw [List.takeWhile_append_of_pos fun c hc => isDigit_of_mem_numeral hc]
    cases z with
    | nil => simp
    | cons c z => rw [List.takeWhile_cons_of_neg (by simp [hz c rfl]), List.append_nil]
  have hnumeral : (numeral a).toList = (numeral b).toList := by
    rw [← hdigits a x hx, h, hdigits b y hy]
  refine ⟨numeral_inj hnumeral, ?_⟩
  rw [hnumeral] at h
  exact List.append_cancel_left h

end Text

namespace Number

variable {text padded : String} {n m : Number} {k : Nat}

/-- A text is read as a number where it is a spelling, and then as what it denotes. -/
theorem ofText?_eq_some_iff :
    ofText? text = some n ↔ IsDigits (trim text.toList) ∧ denoted (trim text.toList) = n.value := by
  rw [ofText?, Option.map_eq_some_iff]
  constructor
  · rintro ⟨value, hvalue, rfl⟩
    rw [← digitsValue_eq_denoted]
    exact numeral?_eq_some_iff.1 hvalue
  · rintro ⟨hdigits, hvalue⟩
    rw [← digitsValue_eq_denoted] at hvalue
    exact ⟨n.value, numeral?_eq_some_iff.2 ⟨hdigits, hvalue⟩, rfl⟩

theorem exists_ofText?_iff : (∃ n, ofText? text = some n) ↔ IsDigits (trim text.toList) := by
  constructor
  · rintro ⟨n, h⟩
    exact (ofText?_eq_some_iff.1 h).1
  · intro hdigits
    exact ⟨⟨_⟩, ofText?_eq_some_iff.2 ⟨hdigits, rfl⟩⟩

theorem text_inj (h : n.text = m.text) : n = m := by
  have hread := ofText?_text n
  rw [h, ofText?_text] at hread
  exact (Option.some.inj hread).symm

theorem eq_iff_denoted {text' : String} (h : ofText? text = some n) (h' : ofText? text' = some m) :
    n = m ↔ denoted (trim text.toList) = denoted (trim text'.toList) := by
  rw [(ofText?_eq_some_iff.1 h).2, (ofText?_eq_some_iff.1 h').2, Number.mk.injEq]

/-- What is shown of a number: its spelling without the zeros at the start. -/
theorem toList_text (h : ofText? text = some n) :
    n.text.toList =
      if significant (trim text.toList) = [] then ['0'] else significant (trim text.toList) := by
  obtain ⟨hdigits, hvalue⟩ := ofText?_eq_some_iff.1 h
  rw [Number.text, ← hvalue, ← digitsValue_eq_denoted, numeral_digitsValue hdigits.2]

theorem digits_eq_length (n : Number) : n.digits = max 1 (Nat.digits 10 n.value).length := by
  rw [digits, ← String.length_toList, text]
  by_cases hzero : n.value = 0
  · rw [hzero]
    rfl
  · rw [digits_eq_numeral hzero, List.length_map, List.length_reverse]
    have hpos := List.length_pos_iff.2 (isDigits_numeral n.value).1
    omega

/-- The text is the decimal numeral of `v`: its digits denote `v`, and it does not begin with a
zero, unless that is all there is. -/
structure IsNumeral (text : String) (v : Nat) : Prop where
  isDigits : IsDigits text.toList
  denotes : denoted text.toList = v
  tight : text.toList.head? = some '0' → text = "0"

theorem isNumeral_text (n : Number) : IsNumeral n.text n.value where
  isDigits := isDigits_numeral n.value
  denotes := denoted_numeral n.value
  tight h := by
    rw [text, eq_zero_of_head?_numeral h]
    rfl

/-- A number has as many digits as its spelling has significant ones, and zero has one. -/
theorem digits_of_ofText? (h : ofText? text = some n) :
    n.digits = max 1 (significant (trim text.toList)).length := by
  rw [digits, ← String.length_toList, toList_text h]
  split
  · rename_i hnil
    rw [hnil]
    rfl
  · rename_i hne
    have hpos := List.length_pos_iff.2 hne
    omega

/-- More zeros at the start of a spelling do not change the number. -/
theorem ofText?_padded (hpadded : trim padded.toList = List.replicate k '0' ++ trim text.toList)
    (h : ofText? text = some n) : ofText? padded = some n := by
  obtain ⟨⟨hne, hdigits⟩, hvalue⟩ := ofText?_eq_some_iff.1 h
  refine ofText?_eq_some_iff.2 ⟨⟨?_, fun c hc => ?_⟩, ?_⟩
  · rw [hpadded]
    exact List.append_ne_nil_of_right_ne_nil _ hne
  · rw [hpadded] at hc
    rcases List.mem_append.1 hc with hc | hc
    · rw [List.eq_of_mem_replicate hc]
      rfl
    · exact hdigits c hc
  · rw [hpadded, ← digitsValue_eq_denoted, digitsValue_zeros, digitsValue_eq_denoted, hvalue]

/-- **A number is what its spelling denotes.** Exactly the texts are read that are a run of digits
once they are trimmed. Two of them are read as one number exactly when they denote the same natural
number, and exactly then the numbers are shown as the same text.

A number has as many digits as the natural number that its spelling denotes has to the base ten, and
zero has one; it stands for no number exactly where zero is denoted. What is shown of it is the
spelling without the zeros at its start, or a single zero: the numeral of the natural number, which
is read as the number again. -/
theorem spellings_denote :
    (∀ t : String, (∃ n, ofText? t = some n) ↔ IsDigits (trim t.toList))
    ∧ (∀ t t' n m, ofText? t = some n → ofText? t' = some m →
        (n = m ↔ denoted (trim t.toList) = denoted (trim t'.toList))
          ∧ (n.text = m.text ↔ denoted (trim t.toList) = denoted (trim t'.toList)))
    ∧ ∀ t n, ofText? t = some n →
        n.digits = max 1 (Nat.digits 10 (denoted (trim t.toList))).length
          ∧ (n.isZero = true ↔ denoted (trim t.toList) = 0)
          ∧ n.text.toList =
            (if significant (trim t.toList) = [] then ['0'] else significant (trim t.toList))
          ∧ IsNumeral n.text (denoted (trim t.toList))
          ∧ ofText? n.text = some n := by
  refine ⟨fun t => exists_ofText?_iff, fun t t' n m h h' => ?_, fun t n h => ?_⟩
  · have heq := eq_iff_denoted h h'
    exact ⟨heq, ⟨fun htext => heq.1 (text_inj htext), fun hd => by rw [heq.2 hd]⟩⟩
  · have hvalue := (ofText?_eq_some_iff.1 h).2
    refine ⟨?_, ?_, toList_text h, ?_, ofText?_text n⟩
    · rw [hvalue]
      exact digits_eq_length n
    · rw [hvalue, isZero, beq_iff_eq]
    · rw [hvalue]
      exact isNumeral_text n

/-- Two spellings of one number, and a spelling of zero. -/
theorem paddedSpelling_denotes :
    ofText? " 0012345\n" = some ⟨12345⟩ ∧ ofText? "12345" = some ⟨12345⟩
      ∧ denoted (trim " 0012345\n".toList) = denoted (trim "12345".toList)
      ∧ ofText? "000" = some ⟨0⟩ ∧ denoted (trim "000".toList) = 0
      ∧ IsNumeral (Number.mk 0).text (denoted (trim "000".toList)) := by
  have hpadded : ofText? " 0012345\n" = some ⟨12345⟩ := by decide +kernel
  have hplain : ofText? "12345" = some ⟨12345⟩ := by decide +kernel
  have hzeros : ofText? "000" = some ⟨0⟩ := by decide +kernel
  obtain ⟨-, hsame, hall⟩ := spellings_denote
  obtain ⟨-, hzero, -, hnumeral, -⟩ := hall _ _ hzeros
  exact ⟨hpadded, hplain, (hsame _ _ _ _ hpadded hplain).1.1 rfl, hzeros, hzero.1 rfl, hnumeral⟩

end Number

end SieveRun
