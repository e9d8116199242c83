import SieveRun.Proofs.Roles

/-!
# Flags and tokens that name the same

The parameter file and the working directory can be named by a flag or by a token, and the
directory by a token of either of two forms. All of these lead to the same scan: before the rest
of the tokens is looked at, the same paths are known, and no rule asks where they are known from
(`takeAll_congr`). So whatever follows is sorted alike, or refused with the
same error.
-/

namespace SieveRun

variable {files : FileSystem} {flags flags' : NamedFlags} {found : Found} {token : String}
  {rest tokens : List String} {rules : List SortingRule} {rule : SortingRule}
  {context context' : TokenContext} {role : TokenRole} {directory : String}

/-! ## What rules do not look at -/

/-- The flags differ at most in the paths that they name. -/
structure SameThreads (flags flags' : NamedFlags) : Prop where
  server : flags.serverThreads = flags'.serverThreads
  client : flags.clientThreads = flags'.clientThreads
  ell : flags.ell = flags'.ell

/-- A table whose rules agree in two contexts decides the same in both. -/
theorem roleBy_congr (h : ∀ rule ∈ rules, rule.applies context token = rule.applies context' token
      ∧ rule.role context token = rule.role context' token) :
    roleBy rules context token = roleBy rules context' token := by
  induction rules with
  | nil => rfl
  | cons rule rules ih =>
    rw [List.forall_mem_cons] at h
    obtain ⟨⟨happlies, hrole⟩, hrest⟩ := h
    rw [roleBy_cons, roleBy_cons, happlies, hrole, ih hrest]

/-- No rule looks at the paths that the flags name. -/
theorem roleBy_of_sameThreads (h : SameThreads flags flags') (found : Found) (token : String) :
    roleBy sortingRules (found.context files flags) token =
      roleBy sortingRules (found.context files flags') token := by
  refine roleBy_congr fun rule hr => ?_
  simp only [sortingRules, List.mem_cons, List.not_mem_nil, or_false] at hr
  rcases hr with rfl | rfl | rfl | rfl | rfl | rfl
  · simp only [numberRule, and_self]
  · simp only [parameterFileRule, Found.context, and_self]
  · simp only [workdirPathRule, Found.context, and_self]
  · simp only [workdirOptionRule, and_self]
  · -- the rule for options asks the flags about threads
    simp only [optionRule, Found.context, h.server, h.client, and_self]
  · simp only [surplusPathRule, Found.context, and_self]

theorem takeAll_congr (h : SameThreads flags flags') (found : Found) (tokens : List String) :
    found.takeAll files flags sortingRules tokens =
      found.takeAll files flags' sortingRules tokens := by
  induction tokens generalizing found with
  | nil => rfl
  | cons token rest ih =>
    have htake : found.take files flags sortingRules token =
        found.take files flags' sortingRules token := by
      rw [take_eq_map, take_eq_map, roleBy_of_sameThreads h]
    rw [Found.takeAll, Found.takeAll, htake]
    cases found.take files flags' sortingRules token with
    | error e => rfl
    | ok next => exact ih next

theorem conclude_congr (h : SameThreads flags flags') (found : Found) :
    found.conclude flags = found.conclude flags' := by
  rw [Found.conclude, Found.conclude, h.ell]

/-! ## A token for a flag -/

/-- A token that leaves what a flag would have left is as good as the flag. -/
theorem sortTokens_cons (h : SameThreads flags flags')
    (hrole : RoleOf ((Found.ofFlags flags).context files flags) token role)
    (hflag : (Found.ofFlags flags).add role = .ofFlags flags') (rest : List String) :
    sortTokens files flags sortingRules (token :: rest) =
      sortTokens files flags' sortingRules rest := by
  have htake : (Found.ofFlags flags).take files flags sortingRules token = .ok (.ofFlags flags') :=
    take_eq_ok_iff.2 ⟨role, hrole, hflag.symm⟩
  rw [sortTokens, sortTokens, Found.takeAll, htake]
  dsimp only
  rw [takeAll_congr h]
  cases (Found.ofFlags flags').takeAll files flags' sortingRules rest with
  | error e => rfl
  | ok found => exact conclude_congr h found

/-- What assigns a working directory does not start like a number. -/
theorem numberDigits?_of_assignedWorkdir? (h : assignedWorkdir? token = some directory) :
    numberDigits? token = none := by
  obtain ⟨-, htoken⟩ := assignedWorkdir?_eq_some_iff.1 h
  obtain ⟨c, cs, hcs, hletter, hdigit⟩ :
      ∃ c cs, token.toList = c :: cs ∧ c ≠ 'N' ∧ Text.isAnyDigit c = false := by
    have hshort : "workdir=".toList = 'w' :: "orkdir=".toList := by decide +kernel
    have hlong : "tasks.workdir=".toList = 't' :: "asks.workdir=".toList := by decide +kernel
    rcases htoken with rfl | rfl
    · rw [String.toList_append, hshort, List.cons_append]
      exact ⟨'w', _, rfl, by decide, by decide +kernel⟩
    · rw [String.toList_append, hlong, List.cons_append]
      exact ⟨'t', _, rfl, by decide, by decide +kernel⟩
  refine Option.eq_none_iff_forall_ne_some.2 fun digits hdigits => ?_
  obtain ⟨hspelled, -, hall⟩ := numberDigits?_eq_some_iff.1 hdigits
  rcases hspelled with hbare | hnamed
  · rw [← hbare, hcs] at hall
    have hfirst := hall c List.mem_cons_self
    rw [hdigit] at hfirst
    exact absurd hfirst (by decide)
  · rw [hcs] at hnamed
    exact hletter (List.cons.inj hnamed).1

/-- **A flag and a token that name the same are interchangeable.** A file as the first token is as
good as the flag for it, as long as it is no number; so is a directory or a free place for one;
and so is a token that assigns a directory, as long as it is no path itself. With either, the
rest is sorted alike or refused with the same error. -/
theorem token_for_flag (files : FileSystem) (flags : NamedFlags) (file directory : String)
    (rest : List String) :
    (numberDigits? file = none → files.isFile (.ofText file) = true →
        sortTokens files { flags with parameters := none } sortingRules (file :: rest) =
          sortTokens files { flags with parameters := some (.ofText file) } sortingRules rest)
      ∧ (numberDigits? directory = none → files.isDirectoryPlace (.ofText directory) = true →
        sortTokens files { flags with workdir := none } sortingRules (directory :: rest) =
          sortTokens files { flags with workdir := some (.ofText directory) } sortingRules rest)
      ∧ ∀ token, token = "workdir=" ++ directory ∨ token = "tasks.workdir=" ++ directory →
        '\n' ∉ directory.toList → files.isFile (.ofText token) = false →
        files.isDirectoryPlace (.ofText token) = false →
        sortTokens files { flags with workdir := none } sortingRules (token :: rest) =
          sortTokens files { flags with workdir := some (.ofText directory) } sortingRules rest := by
  have hfiles : SameThreads { flags with parameters := none }
      { flags with parameters := some (.ofText file) } := ⟨rfl, rfl, rfl⟩
  have hworkdirs : SameThreads { flags with workdir := none }
      { flags with workdir := some (.ofText directory) } := ⟨rfl, rfl, rfl⟩
  refine ⟨fun hnumber hfile => ?_, fun hnumber hplace => ?_,
    fun token htoken hline hnofile hnoplace => ?_⟩
  · exact sortTokens_cons hfiles (.parameterFile hnumber ⟨rfl, hfile⟩) rfl rest
  · exact sortTokens_cons hworkdirs (.place hnumber ⟨rfl, hplace⟩) rfl rest
  · have hassigned : assignedWorkdir? token = some directory :=
      assignedWorkdir?_eq_some_iff.2 ⟨hline, htoken⟩
    have hnumber : numberDigits? token = none := numberDigits?_of_assignedWorkdir? hassigned
    have hrole : RoleOf ((Found.ofFlags { flags with workdir := none }).context files
        { flags with workdir := none }) token (.workdir (.ofText directory)) :=
      .assigned hnumber (not_wantedFile hnofile) (not_wantedPlace hnoplace) hassigned
    exact sortTokens_cons hworkdirs hrole rfl rest

/-- A file and a directory. -/
def namedPaths : FileSystem := ⟨[([Text.utf8 "f"], .file []), ([Text.utf8 "d"], .directory)], []⟩

/-- A second file is refused in the same words, and a directory of either form is the one that the
flag names. -/
theorem namedPaths_sorted :
    sortTokens namedPaths {} sortingRules ["f", "f", "1"] =
        sortTokens namedPaths { parameters := some (.ofText "f") } sortingRules ["f", "1"]
      ∧ sortTokens namedPaths { parameters := some (.ofText "f") } sortingRules ["f", "1"] =
        .error (.conflict (.surplusFile "f"))
      ∧ sortTokens namedPaths {} sortingRules ["d", "1", "a=b"] =
        sortTokens namedPaths { workdir := some (.ofText "d") } sortingRules ["1", "a=b"]
      ∧ sortTokens namedPaths {} sortingRules ["tasks.workdir=d", "1", "a=b"] =
        sortTokens namedPaths { workdir := some (.ofText "d") } sortingRules ["1", "a=b"]
      ∧ sortTokens namedPaths { workdir := some (.ofText "d") } sortingRules ["1", "a=b"] =
        .ok ⟨some ⟨1⟩, none, some (.ofText "d"), ["a=b"]⟩ := by
  obtain ⟨hfile, -, -⟩ := token_for_flag namedPaths {} "f" "d" ["f", "1"]
  obtain ⟨-, hplace, hassigned⟩ := token_for_flag namedPaths {} "f" "d" ["1", "a=b"]
  refine ⟨hfile (by decide +kernel) (by decide +kernel), by decide +kernel,
    hplace (by decide +kernel) (by decide +kernel), ?_, by decide +kernel⟩
  exact hassigned "tasks.workdir=d" (.inr (by decide +kernel)) (by decide +kernel)
    (by decide +kernel) (by decide +kernel)

end SieveRun
