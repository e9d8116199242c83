import SieveRun.Path.Basic
import SieveRun.Number
import SieveRun.Proofs.Keys

/-!
# Spelling paths and numbers as text

A path that a text spells shows as that text (`Path.text_ofText`), so what is stored of
it in the hierarchy says where it is. The converse holds for paths that are text; the
others show with replacement characters, and only the empty path shows as nothing
(`Path.text_eq_empty_iff`).

A number is spelled without superfluous zeros and read back as itself
(`Number.ofText?_text`), and so is a count.
-/

namespace SieveRun

open Text

namespace Text

/-! ## Bytes -/

theorem utf8?_utf8 (t : String) : utf8? (utf8 t) = some t := by
  have h : (⟨t.toUTF8.data.toList.toArray⟩ : ByteArray) = t.toUTF8 := by simp
  rw [utf8?, utf8, h, String.fromUTF8?]
  exact dif_pos t.isValidUTF8

/-- Bytes that are text are the bytes of that text. -/
theorem eq_utf8_of_utf8? {bytes : List UInt8} {t : String} (h : utf8? bytes = some t) :
    bytes = utf8 t := by
  unfold utf8? String.fromUTF8? at h
  split at h
  · obtain rfl := Option.some.inj h
    rfl
  · simp at h

theorem utf8Lossy_utf8 (t : String) : utf8Lossy (utf8 t) = t := by
  rw [utf8Lossy, utf8?_utf8]
  rfl

/-- A character that has begun is in the end shown, whole or as stray bytes. -/
theorem decodeFrom_inside_ne_nil (allowed : UInt8 → Bool) (missing bits : Nat)
    (seen bytes : List UInt8) : decodeFrom (.inside allowed missing bits seen) bytes ≠ [] := by
  induction bytes generalizing allowed missing bits seen with
  | nil => simp [decodeFrom]
  | cons b bytes ih =>
    cases missing with
    | zero =>
      unfold decodeFrom
      split <;> simp
    | succ m =>
      unfold decodeFrom
      split
      · exact ih _ _ _ _
      · simp

theorem glyphs_ne_nil {bytes : List UInt8} (h : bytes ≠ []) : glyphs bytes ≠ [] := by
  cases bytes with
  | nil => exact absurd rfl h
  | cons b bytes =>
    rw [glyphs, decodeFrom, beginChar]
    split
    · simp
    · simp
    · simpa using decodeFrom_inside_ne_nil _ _ _ _ _

theorem utf8Lossy_eq_empty_iff {bytes : List UInt8} : utf8Lossy bytes = "" ↔ bytes = [] := by
  constructor
  · intro h
    by_contra hne
    cases hu : utf8? bytes with
    | some t =>
      rw [utf8Lossy, hu] at h
      have ht : t = "" := h
      rw [eq_utf8_of_utf8? hu, ht] at hne
      exact hne rfl
    | none =>
      -- every byte is shown, if only as a replacement
      rw [utf8Lossy, hu, Option.getD_none, ← String.toList_inj, String.toList_ofList] at h
      exact glyphs_ne_nil hne (List.map_eq_nil_iff.1 h)
  · intro hb
    subst hb
    exact utf8Lossy_utf8 ""

/-! ## Text between slashes -/

/-- Bytes that a text spells. -/
def IsText (bytes : List UInt8) : Prop := ∃ t, bytes = utf8 t

theorem utf8_ofList (cs : List Char) :
    utf8 (String.ofList cs) = cs.flatMap String.utf8EncodeChar := by
  rw [utf8, String.toUTF8_eq_toByteArray, String.toByteArray_ofList, List.utf8Encode]
  simp

theorem utf8_append (a b : String) : utf8 (a ++ b) = utf8 a ++ utf8 b := by
  have h : ∀ t : String, utf8 t = t.toList.flatMap String.utf8EncodeChar := by
    intro t
    rw [← utf8_ofList, String.ofList_toList]
  rw [h, h, h, String.toList_append, List.flatMap_append]

theorem isText_iff {bytes : List UInt8} :
    IsText bytes ↔ ∃ cs : List Char, bytes = cs.flatMap String.utf8EncodeChar := by
  constructor
  · rintro ⟨t, rfl⟩
    exact ⟨t.toList, by rw [← utf8_ofList, String.ofList_toList]⟩
  · rintro ⟨cs, rfl⟩
    exact ⟨_, (utf8_ofList cs).symm⟩

theorem isText_append {a b : List UInt8} (ha : IsText a) (hb : IsText b) : IsText (a ++ b) := by
  obtain ⟨cs, rfl⟩ := isText_iff.1 ha
  obtain ⟨ds, rfl⟩ := isText_iff.1 hb
  exact isText_iff.2 ⟨cs ++ ds, List.flatMap_append.symm⟩

/-- An ASCII character is one byte. -/
theorem utf8EncodeChar_of_toNat_lt {c : Char} (h : c.toNat < 128) :
    String.utf8EncodeChar c = [c.val.toUInt8] := by
  refine String.utf8EncodeChar_eq_singleton (Char.utf8Size_eq_one_iff.2 ?_)
  rw [UInt32.le_iff_toNat_le]
  exact Nat.le_of_lt_succ h

theorem utf8EncodeChar_of_toNat_eq {c : Char} {b : UInt8} (hb : b < 128)
    (hc : c.toNat = b.toNat) : String.utf8EncodeChar c = [b] := by
  rw [UInt8.lt_iff_toNat_lt] at hb
  rw [utf8EncodeChar_of_toNat_lt (by rw [hc]; exact hb), List.singleton_inj, ← UInt8.toNat_inj,
    UInt32.toNat_toUInt8]
  show c.toNat % 256 = b.toNat
  rw [hc]
  exact Nat.mod_eq_of_lt b.toNat_lt

/-- An ASCII byte is a byte of no other character. -/
theorem ascii_not_mem_utf8EncodeChar {c : Char} {b : UInt8} (hb : b < 128)
    (hc : c.toNat ≠ b.toNat) : b ∉ String.utf8EncodeChar c := by
  have hsmall : b.toNat < 128 := UInt8.lt_iff_toNat_lt.1 hb
  have hbyte : ∀ n, b = UInt8.ofNat n → n % 256 = b.toNat := by
    intro n hn
    simpa using (congrArg UInt8.toNat hn).symm
  intro hmem
  unfold String.utf8EncodeChar at hmem
  dsimp only at hmem
  split at hmem
  · rename_i hone
    have hval := hbyte _ (List.mem_singleton.1 hmem)
    refine hc ?_
    show c.val.toNat = b.toNat
    omega
  · -- the bytes of a longer character are at least 128
    split at hmem
    · simp only [List.mem_cons, List.not_mem_nil, or_false] at hmem
      rcases hmem with hmem | hmem <;> (have hval := hbyte _ hmem; omega)
    · split at hmem
      · simp only [List.mem_cons, List.not_mem_nil, or_false] at hmem
        rcases hmem with hmem | hmem | hmem <;> (have hval := hbyte _ hmem; omega)
      · simp only [List.mem_cons, List.not_mem_nil, or_false] at hmem
        rcases hmem with hmem | hmem | hmem | hmem <;> (have hval := hbyte _ hmem; omega)

/-- An ASCII byte is text of its own. -/
theorem isText_singleton {b : UInt8} (hb : b < 128) : IsText [b] := by
  have hvalid : b.toUInt32.toNat.isValidChar := by
    rw [UInt8.toNat_toUInt32]
    exact .inl (Nat.lt_trans b.toNat_lt (by decide))
  have hvalue : (Char.mk b.toUInt32 hvalid).toNat = b.toNat := UInt8.toNat_toUInt32 b
  refine isText_iff.2 ⟨[⟨b.toUInt32, hvalid⟩], ?_⟩
  rw [List.flatMap_singleton, utf8EncodeChar_of_toNat_eq hb hvalue]

/-- Bytes around an ASCII byte are text exactly when both sides are. -/
theorem isText_append_cons_iff {sep : UInt8} (hsep : sep < 128) {a b : List UInt8} :
    IsText (a ++ sep :: b) ↔ IsText a ∧ IsText b := by
  constructor
  · intro hall
    obtain ⟨cs, hcs⟩ := isText_iff.1 hall
    clear hall
    induction cs generalizing a with
    | nil => exact absurd hcs (by simp)
    | cons c cs ih =>
      rw [List.flatMap_cons] at hcs
      by_cases hc : c.toNat = sep.toNat
      · have hone := utf8EncodeChar_of_toNat_eq hsep hc
        rw [hone] at hcs
        cases a with
        | nil =>
          obtain rfl := (List.cons.inj hcs).2
          exact ⟨⟨"", rfl⟩, isText_iff.2 ⟨cs, rfl⟩⟩
        | cons x a =>
          obtain ⟨rfl, hrest⟩ := List.cons.inj hcs
          obtain ⟨ha, hb⟩ := ih hrest
          exact ⟨isText_append (isText_singleton hsep) ha, hb⟩
      · -- the character ends before the separator
        rcases List.append_eq_append_iff.1 hcs with ⟨front, hfront, hrest⟩ | ⟨rest, rfl, hrest⟩
        · cases front with
          | nil =>
            rw [List.append_nil] at hfront
            obtain ⟨-, hb⟩ := ih (a := []) hrest
            exact ⟨isText_iff.2 ⟨[c], by simp [hfront]⟩, hb⟩
          | cons x front =>
            obtain ⟨rfl, -⟩ := List.cons.inj hrest
            exact absurd (by simp [hfront]) (ascii_not_mem_utf8EncodeChar hsep hc)
        · obtain ⟨ha, hb⟩ := ih hrest.symm
          exact ⟨isText_append (isText_iff.2 ⟨[c], by simp⟩) ha, hb⟩
  · rintro ⟨ha, hb⟩
    exact isText_append ha (isText_append (isText_singleton hsep) hb)

/-- Bytes are text exactly when all pieces between slashes are. -/
theorem isText_iff_pieces {bytes : List UInt8} :
    IsText bytes ↔ ∀ piece ∈ pieces Path.slash bytes, IsText piece := by
  conv_lhs => rw [← join_pieces Path.slash bytes]
  induction pieces Path.slash bytes with
  | nil =>
    have hnil : IsText [] := ⟨"", rfl⟩
    simp [join, hnil]
  | cons piece rest ih =>
    cases rest with
    | nil => simp [join]
    | cons next rest =>
      have hjoin : join Path.slash (piece :: next :: rest) =
          piece ++ Path.slash :: join Path.slash (next :: rest) := rfl
      rw [hjoin, isText_append_cons_iff (by decide), ih]
      exact List.forall_mem_cons.symm

end Text

namespace Path

theorem text_ofText (t : String) : (ofText t).text = t := utf8Lossy_utf8 t

theorem isText_ofText (t : String) : IsText (ofText t).bytes := ⟨t, rfl⟩

/-- A path that is text is spelled by what it shows as. -/
theorem ofText_text {p : Path} (h : IsText p.bytes) : ofText p.text = p := by
  obtain ⟨t, ht⟩ := h
  obtain rfl : ofText t = p := congrArg Path.mk ht.symm
  rw [text_ofText]

/-- And no other path is. -/
theorem ofText_text_iff {p : Path} : ofText p.text = p ↔ IsText p.bytes := by
  constructor
  · intro h
    rw [← h]
    exact isText_ofText _
  · exact ofText_text

theorem text_eq_empty_iff {p : Path} : p.text = "" ↔ p.bytes = [] := utf8Lossy_eq_empty_iff

end Path

/-! ## Numerals -/

namespace Text

theorem numeral_toList (n : Nat) : (numeral n).toList = Nat.toDigits 10 n := by
  rw [numeral, String.toList_ofList]

theorem isDigit_of_mem_numeral {n : Nat} {c : Char} (h : c ∈ (numeral n).toList) :
    isDigit c = true := by
  rw [numeral_toList] at h
  have hdigit := Nat.isDigit_of_mem_toDigits (by decide) (by decide) h
  simpa [isDigit, Char.isDigit, Char.le_def] using hdigit

theorem not_blank_of_isDigit {c : Char} (h : isDigit c = true) : isBlank c = false :=
  Key.PlainChar.not_blank (.inl (by simp [Key.isNameChar, h]))

theorem numeral?_eq_some_iff {cs : List Char} {n : Nat} :
    numeral? cs = some n ↔
      (cs ≠ [] ∧ ∀ c ∈ cs, isDigit c = true) ∧ digitsValue cs = n := by
  rw [numeral?, ← List.all_eq_true, Option.ite_none_right_eq_some, Option.some.injEq]

theorem numeral?_numeral (n : Nat) : numeral? (numeral n).toList = some n := by
  refine numeral?_eq_some_iff.2 ⟨⟨?_, fun c hc => isDigit_of_mem_numeral hc⟩, ?_⟩
  · rw [numeral_toList]
    exact Nat.toDigits_ne_nil
  · rw [numeral_toList]
    exact Nat.ofDigitChars_toDigits (by decide) (by decide)

theorem numeral_inj {a b : Nat} (h : (numeral a).toList = (numeral b).toList) : a = b := by
  have hread := congrArg numeral? h
  rw [numeral?_numeral, numeral?_numeral] at hread
  exact Option.some.inj hread

end Text

/-- A numeral reads as the count that it spells, if it is in range. -/
theorem Text.count?_toList_numeral (n : Nat) :
    count? (numeral n).toList = if n < countLimit then some n else none := by
  have hsmall : smallNumeral? (numeral n).toList = if n < countLimit then some n else none := by
    rw [smallNumeral?, numeral?_numeral, Option.filter_some]
    simp only [decide_eq_true_eq]
  unfold count?
  split
  · rename_i cs hcs
    -- a numeral does not begin with a sign
    have hplus : '+' ∈ (numeral n).toList := by rw [hcs]; exact List.mem_cons_self
    exact absurd (isDigit_of_mem_numeral hplus) (by decide)
  · exact hsmall

/-- A count is read back from its own numeral. -/
theorem Text.count?_numeral {n : Nat} (h : n < countLimit) : count? (numeral n).toList = some n := by
  rw [count?_toList_numeral, if_pos h]

/-- Nothing else is read back from it. -/
theorem Text.eq_of_count?_numeral {n m : Nat} (h : count? (numeral n).toList = some m) : n = m := by
  rw [count?_toList_numeral] at h
  split at h
  · exact Option.some.inj h
  · exact absurd h (by simp)

/-- What reads as a count is one. -/
theorem Text.lt_of_count? {cs : List Char} {n : Nat} (h : count? cs = some n) : n < countLimit := by
  have hsmall : ∀ ds, smallNumeral? ds = some n → n < countLimit := by
    intro ds hds
    exact of_decide_eq_true (Option.filter_eq_some_iff.1 hds).2
  unfold count? at h
  split at h <;> exact hsmall _ h

/-- A number is read back from its own numeral. -/
theorem Number.ofText?_text (n : Number) : ofText? n.text = some n := by
  have h : trim n.text.toList = n.text.toList :=
    trim_eq_self_of_forall fun c hc => not_blank_of_isDigit (isDigit_of_mem_numeral hc)
  rw [ofText?, h, text, numeral?_numeral]
  rfl

end SieveRun
