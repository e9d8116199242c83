import SieveRun.Proofs.TokenOrder

/-!
# Tokens that are not understood

The scan stops at the first token that is refused (`takeAll_eq_error_iff`), and a token is refused
as not understood in two places. Either no rule takes it: it has no equals sign and leads neither
to a file nor to a place for a directory (`IsCovered`). Or the rule for numbers takes it, since it
is made of digits, and then cannot read them, since not all of them are ASCII
(`HasForeignDigits`).

A token of the second kind never gets to the rules behind. They may have had a use for it: it may
hold an equals sign, or be the name of a file (`foreign_digits_unrecognized`). Every other token
that is not understood is one that no rule covers (`unrecognized_iff`).
-/

namespace SieveRun

open Text

variable {files : FileSystem} {flags : NamedFlags} {context : TokenContext} {found : Found}
  {token : String} {tokens : List String} {digits : List Char} {rules : List SortingRule}
  {e : RunError}

/-! ## The first token that is refused -/

/-- The scan fails at one token, behind tokens that were all taken. -/
theorem takeAll_eq_error_iff :
    found.takeAll files flags rules tokens = .error e ↔
      ∃ before token after mid, tokens = before ++ token :: after
        ∧ found.takeAll files flags rules before = .ok mid
        ∧ mid.take files flags rules token = .error e := by
  constructor
  · intro h
    induction tokens generalizing found with
    | nil => exact absurd h (by simp [Found.takeAll])
    | cons token rest ih =>
      unfold Found.takeAll at h
      split at h
      · rename_i e' hrefused
        obtain rfl := Except.error.inj h
        exact ⟨[], token, rest, found, rfl, rfl, hrefused⟩
      · rename_i next hnext
        obtain ⟨before, other, after, mid, rfl, hbefore, hrefused⟩ := ih h
        refine ⟨token :: before, other, after, mid, rfl, ?_, hrefused⟩
        rw [Found.takeAll, hnext]
        exact hbefore
  · intro h
    obtain ⟨before, token, after, mid, rfl, hbefore, hrefused⟩ := h
    rw [Found.takeAll_append hbefore, Found.takeAll, hrefused]

theorem take_eq_error_iff :
    found.take files flags rules token = .error e ↔
      roleBy rules (found.context files flags) token = .error e := by
  rw [take_eq_map]
  cases roleBy rules (found.context files flags) token with
  | error e' => simp [Except.map]
  | ok role => simp [Except.map]

/-- Whatever is found, its sources conflict or come to an outcome. -/
theorem conclude_ne_unrecognized : found.conclude flags ≠ .error (.unrecognized token) := by
  intro h
  unfold Found.conclude at h
  split at h
  · exact absurd h (by simp)
  split at h
  · exact absurd h (by simp)
  split at h <;> exact absurd h (by simp)

theorem sortTokens_eq_unrecognized_iff :
    sortTokens files flags rules tokens = .error (.unrecognized token) ↔
      (Found.ofFlags flags).takeAll files flags rules tokens = .error (.unrecognized token) := by
  unfold sortTokens
  cases (Found.ofFlags flags).takeAll files flags rules tokens with
  | error e =>
    dsimp only
    rw [Except.error.injEq, Except.error.injEq]
  | ok found =>
    constructor
    · intro h
      exact absurd h conclude_ne_unrecognized
    · intro h
      exact absurd h (by simp)

/-! ## Digits of another script -/

/-- The token is a run of digits, alone or after `N=`, and not all of them are ASCII. -/
def HasForeignDigits (token : String) : Prop :=
  ∃ digits, numberDigits? token = some digits ∧ ∃ c ∈ digits, isDigit c = false

theorem numeral?_eq_none_iff (hne : digits ≠ []) :
    numeral? digits = none ↔ ∃ c ∈ digits, isDigit c = false := by
  have hall : digits.all isDigit = true ↔ ¬ ∃ c ∈ digits, isDigit c = false := by
    simp
  unfold numeral?
  by_cases h : digits.all isDigit = true
  · simp [h, hne, hall.1 h]
  · have hsome := not_not.1 (mt hall.2 h)
    simp [h, hsome]

/-- They are digits that spell no number. -/
theorem hasForeignDigits_iff :
    HasForeignDigits token ↔ numberDigits? token ≠ none ∧ ∀ n, ¬ SpellsNumber token n := by
  cases hdigits : numberDigits? token with
  | none => simp [HasForeignDigits, hdigits]
  | some digits =>
    obtain ⟨-, hne, hany⟩ := numberDigits?_eq_some_iff.1 hdigits
    have hspells : (∀ n, ¬ SpellsNumber token n) ↔ numeral? digits = none := by
      simp only [spellsNumber_iff_of_digits hdigits, ofText?_of_anyDigits hany]
      rw [← Option.eq_none_iff_forall_ne_some, Option.map_eq_none_iff]
    rw [hspells, numeral?_eq_none_iff hne]
    simp [HasForeignDigits, hdigits]

/-- The rule for numbers gives a number, or it does not understand. -/
theorem numberRule_role_eq_error_iff (happlies : numberRule.applies context token = true) :
    numberRule.role context token = .error e ↔
      HasForeignDigits token ∧ e = .unrecognized token := by
  have hsome : numberDigits? token ≠ none := Option.isSome_iff_ne_none.1 happlies
  rw [hasForeignDigits_iff, and_iff_right hsome]
  have hrole : ∀ role, numberRule.role context token = .ok role ↔
      ∃ n, SpellsNumber token n ∧ role = .number n :=
    fun role => numberRule_role_eq_ok_iff happlies
  cases hr : numberRule.role context token with
  | ok role =>
    obtain ⟨n, hn, -⟩ := (hrole role).1 hr
    simp only [reduceCtorEq, false_iff, not_and]
    intro hnone
    exact absurd hn (hnone n)
  | error e' =>
    have hnone : ∀ n, ¬ SpellsNumber token n := by
      intro n hn
      exact absurd (hr.symm.trans ((hrole (.number n)).2 ⟨n, hn, rfl⟩)) (by simp)
    -- the only error of the rule is that it does not understand
    have he : e' = .unrecognized token := by
      simp only [numberRule] at hr
      split at hr
      · exact absurd hr (by simp)
      · exact (Except.error.inj hr).symm
    rw [and_iff_right hnone, he, Except.error.injEq]
    exact eq_comm

/-! ## Tokens that no rule takes -/

/-- Some rule covers the token, at the latest the one for surplus paths: it holds an equals sign,
or leads to a file or a place for a directory. -/
def IsCovered (files : FileSystem) (token : String) : Prop :=
  '=' ∈ token.toList ∨ files.isFile (.ofText token) = true
    ∨ files.isDirectoryPlace (.ofText token) = true

theorem optionRule_role_ne_unrecognized {text : String} :
    optionRule.role context token ≠ .error (.unrecognized text) := by
  intro h
  simp only [optionRule] at h
  split at h
  · exact absurd h (by simp)
  · split at h <;> exact absurd h (by simp)

theorem surplusPathRule_role_ne_unrecognized {text : String} :
    surplusPathRule.role context token ≠ .error (.unrecognized text) := by
  intro h
  simp only [surplusPathRule] at h
  split at h <;> exact absurd h (by simp)

/-- What is no number falls through the table exactly when nothing covers it. -/
theorem roleBy_unrecognized_of_noDigits (hnone : numberDigits? token = none) {text : String} :
    roleBy sortingRules context token = .error (.unrecognized text) ↔
      text = token ∧ ¬ IsCovered context.files token := by
  have hnumber : ¬ numberRule.applies context token = true := by simp [numberRule, hnone]
  simp only [sortingRules, roleBy_cons, roleBy_nil]
  rw [if_neg hnumber]
  constructor
  · intro h
    split at h
    · exact absurd h (by simp [parameterFileRule])
    split at h
    · exact absurd h (by simp [workdirPathRule])
    split at h
    · exact absurd h (by simp [workdirOptionRule])
    split at h
    · exact absurd h optionRule_role_ne_unrecognized
    rename_i hequals
    split at h
    · exact absurd h surplusPathRule_role_ne_unrecognized
    rename_i hsurplus
    obtain rfl := RunError.unrecognized.inj (Except.error.inj h)
    refine ⟨rfl, fun hcovered => ?_⟩
    simp only [optionRule, List.contains_eq_mem, decide_eq_true_eq] at hequals
    simp only [surplusPathRule, Bool.or_eq_true] at hsurplus
    rcases hcovered with heq | hpath
    · exact hequals heq
    · exact hsurplus hpath
  · intro h
    obtain ⟨rfl, huncovered⟩ := h
    simp only [IsCovered, not_or, Bool.not_eq_true] at huncovered
    obtain ⟨hequals, hfile, hplace⟩ := huncovered
    have hassigned : assignedWorkdir? text = none :=
      Option.eq_none_iff_forall_ne_some.2 fun directory hdirectory =>
        hequals (equals_mem_of_assignedWorkdir? hdirectory)
    rw [if_neg (by simp [parameterFileRule, hfile]), if_neg (by simp [workdirPathRule, hplace]),
      if_neg (by simp [workdirOptionRule, hassigned]), if_neg (by simp [optionRule, hequals]),
      if_neg (by simp [surplusPathRule, hfile, hplace])]

theorem roleBy_unrecognized_iff {text : String} :
    roleBy sortingRules context token = .error (.unrecognized text) ↔
      text = token ∧ (HasForeignDigits token
        ∨ numberDigits? token = none ∧ ¬ IsCovered context.files token) := by
  cases hdigits : numberDigits? token with
  | none =>
    have hno : ¬ HasForeignDigits token := by simp [HasForeignDigits, hdigits]
    rw [roleBy_unrecognized_of_noDigits hdigits, or_iff_right hno, and_iff_right rfl]
  | some digits =>
    -- the first rule takes the token, and the others are not asked
    have happlies : numberRule.applies context token = true := by simp [numberRule, hdigits]
    rw [sortingRules, roleBy_cons, if_pos happlies, numberRule_role_eq_error_iff happlies,
      RunError.unrecognized.injEq]
    simp [and_comm]

/-! ## The whole list -/

/-- **What is not understood.** A list of tokens is refused with such a token exactly when all
tokens before it are taken, and it has digits of another script in a number's place, or no digits
there and nothing that covers it. The rule for numbers takes a token and makes no number of it
exactly in the first case. -/
theorem unrecognized_iff (files : FileSystem) (flags : NamedFlags) (tokens : List String)
    (token : String) :
    (sortTokens files flags sortingRules tokens = .error (.unrecognized token) ↔
      ∃ before after found, tokens = before ++ token :: after
        ∧ (Found.ofFlags flags).takeAll files flags sortingRules before = .ok found
        ∧ (HasForeignDigits token ∨ numberDigits? token = none ∧ ¬ IsCovered files token))
    ∧ ∀ context, (numberRule.applies context token = true
        ∧ ∀ n, numberRule.role context token ≠ .ok (.number n)) ↔ HasForeignDigits token := by
  constructor
  · rw [sortTokens_eq_unrecognized_iff, takeAll_eq_error_iff]
    simp only [take_eq_error_iff, roleBy_unrecognized_iff]
    constructor
    · intro h
      obtain ⟨before, other, after, found, htokens, hbefore, rfl, hwhy⟩ := h
      exact ⟨before, after, found, htokens, hbefore, hwhy⟩
    · intro h
      obtain ⟨before, after, found, htokens, hbefore, hwhy⟩ := h
      exact ⟨before, token, after, found, htokens, hbefore, rfl, hwhy⟩
  · intro context
    have happlies : numberRule.applies context token = true ↔ numberDigits? token ≠ none :=
      Option.isSome_iff_ne_none
    rw [hasForeignDigits_iff, ← happlies, and_congr_right_iff]
    intro hsome
    refine forall_congr' fun n => not_congr ?_
    rw [numberRule_role_eq_ok_iff hsome]
    constructor
    · intro h
      obtain ⟨m, hm, heq⟩ := h
      rwa [TokenRole.number.inj heq]
    · intro hn
      exact ⟨n, hn, rfl⟩

/-- A file whose name is an Arabic-Indic digit. -/
def foreignFile : FileSystem := ⟨[([utf8 "\u0663"], .file [])], []⟩

/-- An equals sign and the name of a file: rules cover both tokens, and neither is understood. -/
theorem foreign_digits_unrecognized :
    sortTokens ⟨[], []⟩ {} sortingRules ["N=\u0663"] = .error (.unrecognized "N=\u0663")
      ∧ '=' ∈ "N=\u0663".toList
      ∧ sortTokens foreignFile {} sortingRules ["\u0663"] = .error (.unrecognized "\u0663")
      ∧ foreignFile.isFile (.ofText "\u0663") = true := by
  refine ⟨by decide +kernel, by decide +kernel, by decide +kernel, by decide +kernel⟩

end SieveRun
