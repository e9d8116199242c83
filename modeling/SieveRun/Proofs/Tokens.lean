import SieveRun.Token.Sorted

/-!
# How tokens are sorted

Sorting is a fold over the tokens, and each of its steps adds one role to what was found.
Among the roles only the option is made by a single rule of the table (`role_cases`). So the
options are the tokens that this rule took, in order (`sortTokens_options`), what the rule
refuses never becomes one, and an option that it refuses is what the whole sorting ends with
(`sortTokens_error`).
-/

namespace SieveRun

variable {files : FileSystem} {flags : NamedFlags} {rules : List SortingRule} {rule : SortingRule}
  {context : TokenContext} {found next final : Found} {token text : String} {e : RunError}
  {tokens rest : List String} {sorted : SortedTokens}

/-! ## One token -/

theorem ruleFor?_ok (h : ruleFor? rules context token = some rule) :
    rule ∈ rules ∧ rule.applies context token = true := by
  have happlies := List.find?_some (p := fun rule => SortingRule.applies rule context token) h
  exact ⟨List.mem_of_find?_eq_some h, happlies⟩

/-- A token that was taken has a rule, and the rule gave it a role. -/
theorem Found.take_ok (h : found.take files flags rules token = .ok next) :
    ∃ rule role, ruleFor? rules (found.context files flags) token = some rule
      ∧ rule.role (found.context files flags) token = .ok role ∧ next = found.add role := by
  unfold take at h
  split at h
  · exact absurd h (by simp)
  · rename_i rule hrule
    cases hrole : rule.role (found.context files flags) token with
    | error e => rw [hrole] at h; exact absurd h (by simp [Except.map])
    | ok role =>
      rw [hrole] at h
      exact ⟨rule, role, hrule, hrole, (Except.ok.inj h).symm⟩

theorem Found.take_error (hrule : ruleFor? rules (found.context files flags) token = some rule)
    (hrole : rule.role (found.context files flags) token = .error e) :
    found.take files flags rules token = .error e := by
  rw [take, hrule]
  show Except.map _ (rule.role _ token) = _
  rw [hrole]
  rfl

theorem Found.take_of_ok {role : TokenRole}
    (hrule : ruleFor? rules (found.context files flags) token = some rule)
    (hrole : rule.role (found.context files flags) token = .ok role) :
    found.take files flags rules token = .ok (found.add role) := by
  rw [take, hrule]
  show Except.map _ (rule.role _ token) = _
  rw [hrole]
  rfl

/-- The rule for options lets the token through: no thread flag was given for what it
assigns, as far as the rule can tell. -/
structure NamedFlags.Allows (flags : NamedFlags) (token : String) : Prop where
  server : flags.serverThreads = true → assignsServerThreads token = false
  family : flags.clientThreads = true → assignsFamilyThreads token = false

theorem allows_of_role {role : TokenRole} (h : optionRule.role context token = .ok role) :
    context.flags.Allows token ∧ role = .option token := by
  simp only [optionRule] at h
  split at h
  · exact absurd h (by simp)
  · rename_i hserver
    split at h
    · exact absurd h (by simp)
    · rename_i hfamily
      exact ⟨⟨by simpa using hserver, by simpa using hfamily⟩, (Except.ok.inj h).symm⟩

theorem role_of_allows (h : context.flags.Allows token) :
    optionRule.role context token = .ok (.option token) := by
  simp only [optionRule]
  rw [if_neg, if_neg]
  · intro hfamily
    rw [Bool.and_eq_true] at hfamily
    exact absurd hfamily.2 (by rw [h.family hfamily.1]; decide)
  · intro hserver
    rw [Bool.and_eq_true] at hserver
    exact absurd hserver.2 (by rw [h.server hserver.1]; decide)

theorem eq_optionRule_of_name (hr : rule ∈ sortingRules) (hname : rule.name = optionRule.name) :
    rule = optionRule := by
  simp only [sortingRules, List.mem_cons, List.not_mem_nil, or_false] at hr
  rcases hr with rfl | rfl | rfl | rfl | rfl | rfl
  · exact absurd hname (by decide)
  · exact absurd hname (by decide)
  · exact absurd hname (by decide)
  · exact absurd hname (by decide)
  · rfl
  · exact absurd hname (by decide)

/-- Options come from the rule for options alone, as they were written. -/
theorem role_cases {role : TokenRole} (hr : rule ∈ sortingRules)
    (h : rule.role context token = .ok role) :
    (rule.name = optionRule.name ∧ role = .option token ∧ context.flags.Allows token)
      ∨ (rule.name ≠ optionRule.name ∧ ∀ text, role ≠ .option text) := by
  simp only [sortingRules, List.mem_cons, List.not_mem_nil, or_false] at hr
  rcases hr with rfl | rfl | rfl | rfl | rfl | rfl
  · refine .inr ⟨by decide, fun text ht => ?_⟩
    simp only [numberRule, ht] at h
    -- a number or an error
    split at h <;> simp at h
  · exact .inr ⟨by decide, fun text ht => by simp [parameterFileRule, ht] at h⟩
  · exact .inr ⟨by decide, fun text ht => by simp [workdirPathRule, ht] at h⟩
  · exact .inr ⟨by decide, fun text ht => by simp [workdirOptionRule, ht] at h⟩
  · -- the rule for options itself
    obtain ⟨hallows, hrole⟩ := allows_of_role h
    exact .inl ⟨rfl, hrole, hallows⟩
  · refine .inr ⟨by decide, fun text ht => ?_⟩
    simp only [surplusPathRule, ht] at h
    split at h <;> simp at h

/-! ## All tokens -/

theorem Found.takeAll_append (h : found.takeAll files flags rules tokens = .ok next) :
    found.takeAll files flags rules (tokens ++ rest) = next.takeAll files flags rules rest := by
  induction tokens generalizing found with
  | nil => rw [← Except.ok.inj h, List.nil_append]
  | cons token tokens ih =>
    unfold takeAll at h
    split at h
    · exact absurd h (by simp)
    · rename_i found' hfound
      rw [List.cons_append, takeAll, hfound]
      exact ih h

theorem sortTokens_ok (h : sortTokens files flags rules tokens = .ok sorted) :
    ∃ found, (Found.ofFlags flags).takeAll files flags rules tokens = .ok found
      ∧ found.conclude flags = .ok sorted := by
  unfold sortTokens at h
  split at h
  · exact absurd h (by simp)
  · rename_i found hfound
    exact ⟨found, hfound, h⟩

/-- The first token that is refused decides how the sorting ends. -/
theorem sortTokens_error (h : (Found.ofFlags flags).takeAll files flags rules tokens = .ok found)
    (hrefused : found.take files flags rules token = .error e) :
    sortTokens files flags rules (tokens ++ token :: rest) = .error e := by
  rw [sortTokens, Found.takeAll_append h, Found.takeAll, hrefused]

/-- A list without a second member is what its last one comes to. -/
theorem eq_toList_iff {α : Type} {l : List α} {o : Option α} :
    l = o.toList ↔ ¬ 1 < l.length ∧ l.getLast? = o := by
  constructor
  · intro h
    subst h
    refine ⟨Nat.not_lt.2 Option.length_toList_le, ?_⟩
    cases o with
    | none => rfl
    | some a => rfl
  · intro h
    obtain ⟨hlength, rfl⟩ := h
    cases l with
    | nil => rfl
    | cons x xs =>
      cases xs with
      | nil => rfl
      | cons y ys => exact absurd (Nat.succ_lt_succ (Nat.succ_pos ys.length)) hlength

/-- What is found comes to an outcome just when nothing has two sources. -/
theorem conclude_eq_ok_iff :
    found.conclude flags = .ok sorted ↔ found.numbers = sorted.number.toList
      ∧ found.parameterFiles = sorted.parameters.toList ∧ found.workdirs = sorted.workdir.toList
      ∧ sorted.options = found.options ++ (flags.ell.map fun ell => "ell=" ++ ell).toList := by
  simp only [eq_toList_iff]
  unfold Found.conclude
  constructor
  · intro h
    split at h
    · exact absurd h (by simp)
    rename_i hnumbers
    split at h
    · exact absurd h (by simp)
    rename_i hfiles
    split at h
    · exact absurd h (by simp)
    rename_i hworkdirs
    rw [← Except.ok.inj h]
    exact ⟨⟨hnumbers, rfl⟩, ⟨hfiles, rfl⟩, ⟨hworkdirs, rfl⟩, rfl⟩
  · intro h
    obtain ⟨⟨hnumbers, hn⟩, ⟨hfiles, hf⟩, ⟨hworkdirs, hw⟩, hoptions⟩ := h
    rw [if_neg hnumbers, if_neg hfiles, if_neg hworkdirs, hn, hf, hw, ← hoptions]

/-! ## The options -/

/-- The rule for options takes the token. -/
def isOption (rules : List SortingRule) (context : TokenContext) (token : String) : Bool :=
  (ruleFor? rules context token).any fun rule => rule.name == optionRule.name

/-- The tokens that the rule for options takes, in order. -/
def optionTokens (files : FileSystem) (flags : NamedFlags) (rules : List SortingRule) :
    Found → List String → List String
  | _, [] => []
  | found, token :: rest =>
    match found.take files flags rules token with
    | .error _ => []
    | .ok next =>
      (if isOption rules (found.context files flags) token then [token] else [])
        ++ optionTokens files flags rules next rest

/-- With these options instead of the ones that were found. -/
def Found.withOptions (found : Found) (options : List String) : Found :=
  { found with options := options }

/-- No rule looks at the options that were found so far, and a step adds to them. -/
theorem take_withOptions (h : found.take files flags sortingRules token = .ok next)
    (options : List String) :
    (found.withOptions options).take files flags sortingRules token =
      .ok (next.withOptions (options
        ++ if isOption sortingRules (found.context files flags) token then [token] else [])) := by
  obtain ⟨rule, role, hrule, hrole, rfl⟩ := Found.take_ok h
  have htake : (found.withOptions options).take files flags sortingRules token =
      .ok ((found.withOptions options).add role) := Found.take_of_ok hrule hrole
  rw [htake, isOption, hrule, Option.any_some]
  obtain ⟨hname, rfl, -⟩ | ⟨hname, hnot⟩ := role_cases (ruleFor?_ok hrule).1 hrole
  · rw [hname, beq_self_eq_true, if_pos rfl]
    rfl
  · rw [beq_false_of_ne hname, if_neg (by simp), List.append_nil]
    -- a role of another kind leaves the options as they were
    cases role with
    | option text => exact absurd rfl (hnot text)
    | number n => rfl
    | parameterFile file => rfl
    | workdir directory => rfl

theorem takeAll_withOptions (h : found.takeAll files flags sortingRules tokens = .ok final)
    (options : List String) :
    (found.withOptions options).takeAll files flags sortingRules tokens =
      .ok (final.withOptions (options ++ optionTokens files flags sortingRules found tokens)) := by
  induction tokens generalizing found options with
  | nil => rw [← Except.ok.inj h, optionTokens, List.append_nil, Found.takeAll]
  | cons token rest ih =>
    unfold Found.takeAll at h
    split at h
    · exact absurd h (by simp)
    · rename_i next hnext
      rw [Found.takeAll, take_withOptions hnext, optionTokens, hnext, ← List.append_assoc]
      exact ih h _

theorem takeAll_options (h : found.takeAll files flags sortingRules tokens = .ok final) :
    final.options = found.options ++ optionTokens files flags sortingRules found tokens := by
  have hsame := h.symm.trans (takeAll_withOptions h found.options)
  exact congrArg Found.options (Except.ok.inj hsame)

/-- The options are the tokens that the rule for options took, and then the one of `--ell`. -/
theorem sortTokens_options (h : sortTokens files flags sortingRules tokens = .ok sorted) :
    sorted.options = optionTokens files flags sortingRules (.ofFlags flags) tokens
      ++ (flags.ell.map fun ell => "ell=" ++ ell).toList := by
  obtain ⟨found, hfound, hconclude⟩ := sortTokens_ok h
  rw [(conclude_eq_ok_iff.1 hconclude).2.2.2, takeAll_options hfound, Found.ofFlags,
    List.nil_append]

/-- A token is taken as an option only if no thread flag stands against it. -/
theorem allows_of_isOption (h : found.take files flags sortingRules token = .ok next)
    (htaken : isOption sortingRules (found.context files flags) token = true) :
    flags.Allows token := by
  obtain ⟨rule, role, hrule, hrole, -⟩ := Found.take_ok h
  rw [isOption, hrule, Option.any_some, beq_iff_eq] at htaken
  obtain ⟨-, -, hallows⟩ | ⟨hname, -⟩ := role_cases (ruleFor?_ok hrule).1 hrole
  · exact hallows
  · exact absurd htaken hname

theorem allows_of_mem_optionTokens (h : text ∈ optionTokens files flags sortingRules found tokens) :
    flags.Allows text := by
  induction tokens generalizing found with
  | nil => exact absurd h (by simp [optionTokens])
  | cons token rest ih =>
    unfold optionTokens at h
    split at h
    · exact absurd h (by simp)
    · rename_i next hnext
      rcases List.mem_append.1 h with h | h
      · split at h
        · rename_i htaken
          obtain rfl := List.mem_singleton.1 h
          exact allows_of_isOption hnext htaken
        · exact absurd h (by simp)
      · exact ih h

/-- An option was let through, or it is the one that the flag `--ell` adds. -/
theorem mem_options (h : sortTokens files flags sortingRules tokens = .ok sorted)
    (ht : text ∈ sorted.options) : flags.Allows text ∨ ∃ ell, text = "ell=" ++ ell := by
  rw [sortTokens_options h] at ht
  rcases List.mem_append.1 ht with ht | ht
  · exact .inl (allows_of_mem_optionTokens ht)
  · obtain ⟨ell, -, rfl⟩ := Option.map_eq_some_iff.1 (Option.mem_toList.1 ht)
    exact .inr ⟨ell, rfl⟩

/-! ## One more option -/

/-- The token is taken as an option behind these tokens: the table says so, and no thread flag
stands against it. -/
structure TakenAsOption (files : FileSystem) (flags : NamedFlags) (before : List String)
    (token : String) : Prop where
  taken : ∃ found, (Found.ofFlags flags).takeAll files flags sortingRules before = .ok found
    ∧ isOption sortingRules (found.context files flags) token = true
  allowed : flags.Allows token

theorem take_of_isOption (h : isOption sortingRules (found.context files flags) token = true)
    (hallows : flags.Allows token) :
    found.take files flags sortingRules token =
      .ok (found.withOptions (found.options ++ [token])) := by
  rw [isOption, Option.any_eq_true] at h
  obtain ⟨rule, hrule, hname⟩ := h
  obtain rfl := eq_optionRule_of_name (ruleFor?_ok hrule).1 (beq_iff_eq.1 hname)
  exact Found.take_of_ok hrule (role_of_allows hallows)

theorem conclude_withOptions (h : found.conclude flags = .ok sorted) (options : List String) :
    (found.withOptions options).conclude flags =
      .ok { sorted with options := options ++ (flags.ell.map fun ell => "ell=" ++ ell).toList } := by
  obtain ⟨hnumbers, hfiles, hworkdirs, -⟩ := conclude_eq_ok_iff.1 h
  exact conclude_eq_ok_iff.2 ⟨hnumbers, hfiles, hworkdirs, rfl⟩

/-- One more option changes nothing else, wherever it stands. -/
theorem sortTokens_insert {before after : List String}
    (h : sortTokens files flags sortingRules (before ++ after) = .ok sorted)
    (ht : TakenAsOption files flags before token) :
    ∃ front back, sorted.options = front ++ back
      ∧ sortTokens files flags sortingRules (before ++ token :: after) =
          .ok { sorted with options := front ++ token :: back } := by
  obtain ⟨final, hfinal, hconclude⟩ := sortTokens_ok h
  obtain ⟨found, hfound, hoption⟩ := ht.taken
  rw [Found.takeAll_append hfound] at hfinal
  refine ⟨found.options, optionTokens files flags sortingRules found after
    ++ (flags.ell.map fun ell => "ell=" ++ ell).toList, ?_, ?_⟩
  · rw [(conclude_eq_ok_iff.1 hconclude).2.2.2, takeAll_options hfinal, List.append_assoc]
  · have hmore := takeAll_withOptions hfinal (found.options ++ [token])
    rw [sortTokens, Found.takeAll_append hfound, Found.takeAll,
      take_of_isOption hoption ht.allowed]
    dsimp only
    rw [hmore]
    dsimp only
    rw [conclude_withOptions hconclude]
    simp

end SieveRun
