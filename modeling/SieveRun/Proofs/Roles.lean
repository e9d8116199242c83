import Mathlib.Data.List.Forall2
import SieveRun.Proofs.Spelling
import SieveRun.Proofs.Tokens

/-!
# What tokens stand for

The table of rules is a decision, and here is what it decides: `RoleOf` says for each role
which tokens get it, and where. Besides the token itself a role depends on how many parameter
files and working directories are known before it, and on nothing else that was found.

A number is decided before all paths, and by its digits alone (`SpellsNumber`). The fold over
the tokens then adds role after role (`takeAll_ok`), and what it ends with is a tally of these:
the number, the file and the directory come from one source each, and the options are the
tokens that are none of these, in order (`roles_of_sorted`).
-/

namespace SieveRun

open Text

variable {files : FileSystem} {flags : NamedFlags} {context : TokenContext} {token : String}
  {role : TokenRole} {n : Number} {digits : List Char} {directory : String}
  {rules : List SortingRule} {rule : SortingRule} {found next final : Found}
  {tokens : List String} {roles : List TokenRole} {sorted : SortedTokens}

/-! ## Tokens that spell a number -/

/-- The token is a numeral in ASCII digits, alone or after `N=`. -/
def SpellsNumber (token : String) (n : Number) : Prop :=
  ∃ digits, (token.toList = digits ∨ token.toList = 'N' :: '=' :: digits)
    ∧ numeral? digits = some n.value

/-- No digit of any script is white space. -/
theorem not_blank_of_isAnyDigit {c : Char} (h : isAnyDigit c = true) : isBlank c = false := by
  have hapart : ∀ d ∈ wideDigitRanges, ∀ b ∈ blankRanges, d.2 < b.1 ∨ b.2 < d.1 := by
    decide +kernel
  unfold isAnyDigit at h
  rcases Bool.or_eq_true_iff.1 h with h | h
  · exact not_blank_of_isDigit h
  · by_contra hblank
    rw [Bool.not_eq_false, isBlank, inRanges, List.any_eq_true] at hblank
    rw [inRanges, List.any_eq_true] at h
    obtain ⟨d, hd, hdigit⟩ := h
    obtain ⟨b, hb, hblank⟩ := hblank
    rw [Bool.and_eq_true, decide_eq_true_eq, decide_eq_true_eq] at hdigit hblank
    rcases hapart d hd b hb with hlt | hlt <;> omega

theorem isAnyDigit_of_isDigit {c : Char} (h : isDigit c = true) : isAnyDigit c = true := by
  rw [isAnyDigit, h, Bool.true_or]

theorem numberDigits?_eq_some_iff :
    numberDigits? token = some digits ↔
      (token.toList = digits ∨ token.toList = 'N' :: '=' :: digits)
        ∧ digits ≠ [] ∧ ∀ c ∈ digits, isAnyDigit c = true := by
  have hstart : ∀ rest, afterStart? ['N', '='] token.toList = some rest ↔
      token.toList = 'N' :: '=' :: rest := fun rest => afterStart?_eq_some_iff
  unfold numberDigits?
  dsimp only
  constructor
  · intro h
    split at h
    · rename_i hdigits
      obtain rfl := Option.some.inj h
      refine ⟨?_, hdigits.1, List.all_eq_true.1 hdigits.2⟩
      cases hafter : afterStart? ['N', '='] token.toList with
      | none => exact .inl rfl
      | some rest => exact .inr ((hstart rest).1 hafter)
    · exact absurd h (by simp)
  · intro h
    obtain ⟨htoken, hne, hall⟩ := h
    have hafter : (afterStart? ['N', '='] token.toList).getD token.toList = digits := by
      rcases htoken with htoken | htoken
      · -- digits do not start with the letter of the number
        cases hafter : afterStart? ['N', '='] token.toList with
        | none => exact htoken
        | some rest =>
          have hmem : 'N' ∈ digits := by
            rw [← htoken, (hstart rest).1 hafter]
            exact List.mem_cons_self
          exact absurd (hall 'N' hmem) (by decide +kernel)
      · rw [(hstart digits).2 htoken]
        rfl
    rw [hafter, if_pos ⟨hne, List.all_eq_true.2 hall⟩]

/-- Digits are read as they stand: there is nothing to trim. -/
theorem ofText?_of_anyDigits (h : ∀ c ∈ digits, isAnyDigit c = true) :
    Number.ofText? (String.ofList digits) = (numeral? digits).map Number.mk := by
  rw [Number.ofText?, String.toList_ofList,
    trim_eq_self_of_forall fun c hc => not_blank_of_isAnyDigit (h c hc)]

theorem numeral?_isDigit {value : Nat} (h : numeral? digits = some value) :
    digits ≠ [] ∧ ∀ c ∈ digits, isDigit c = true :=
  (numeral?_eq_some_iff.1 h).1

/-- The rule for numbers looks for what spells a number. -/
theorem spellsNumber_iff :
    SpellsNumber token n ↔
      ∃ digits, numberDigits? token = some digits
        ∧ Number.ofText? (String.ofList digits) = some n := by
  constructor
  · intro h
    obtain ⟨digits, htoken, hvalue⟩ := h
    obtain ⟨hne, hall⟩ := numeral?_isDigit hvalue
    have hany : ∀ c ∈ digits, isAnyDigit c = true := fun c hc => isAnyDigit_of_isDigit (hall c hc)
    refine ⟨digits, numberDigits?_eq_some_iff.2 ⟨htoken, hne, hany⟩, ?_⟩
    rw [ofText?_of_anyDigits hany, hvalue]
    rfl
  · intro h
    obtain ⟨digits, hdigits, hnumber⟩ := h
    obtain ⟨htoken, -, hany⟩ := numberDigits?_eq_some_iff.1 hdigits
    rw [ofText?_of_anyDigits hany] at hnumber
    obtain ⟨value, hvalue, rfl⟩ := Option.map_eq_some_iff.1 hnumber
    exact ⟨digits, htoken, hvalue⟩

theorem spellsNumber_iff_of_digits (h : numberDigits? token = some digits) :
    SpellsNumber token n ↔ Number.ofText? (String.ofList digits) = some n := by
  simp [spellsNumber_iff, h]

theorem SpellsNumber.digits_ne_none (h : SpellsNumber token n) : numberDigits? token ≠ none := by
  obtain ⟨digits, hdigits, -⟩ := spellsNumber_iff.1 h
  rw [hdigits]
  exact Option.some_ne_none digits

theorem SpellsNumber.unique {m : Number} (h : SpellsNumber token n) (h' : SpellsNumber token m) :
    m = n := by
  obtain ⟨digits, hdigits, hnumber⟩ := spellsNumber_iff.1 h
  rw [spellsNumber_iff_of_digits hdigits] at h'
  exact Option.some.inj (h'.symm.trans hnumber)

/-! ## Tokens that assign a working directory -/

theorem assignedWorkdir?_eq_some_iff :
    assignedWorkdir? token = some directory ↔ '\n' ∉ directory.toList
      ∧ (token = "workdir=" ++ directory ∨ token = "tasks.workdir=" ++ directory) := by
  have hlong : "tasks.workdir=".toList = "tasks.".toList ++ "workdir=".toList := by
    decide +kernel
  have hlists : (token = "workdir=" ++ directory ∨ token = "tasks.workdir=" ++ directory) ↔
      afterStart? "workdir=".toList
        ((afterStart? "tasks.".toList token.toList).getD token.toList) =
          some directory.toList := by
    rw [← String.toList_inj, ← String.toList_inj, String.toList_append, String.toList_append,
      hlong, List.append_assoc, afterStart?_eq_some_iff]
    cases hafter : afterStart? "tasks.".toList token.toList with
    | some rest =>
      rw [afterStart?_eq_some_iff.1 hafter, Option.getD_some, List.append_cancel_left_eq]
      refine or_iff_right fun heq => ?_
      exact absurd (List.cons.inj heq).1 (by decide)
    | none =>
      rw [Option.getD_none]
      refine or_iff_left fun heq => ?_
      rw [afterStart?_eq_some_iff.2 heq] at hafter
      exact absurd hafter (by simp)
  rw [hlists, assignedWorkdir?]
  constructor
  · intro h
    obtain ⟨rest, hrest, hline⟩ := Option.bind_eq_some_iff.1 h
    split at hline
    · exact absurd hline (by simp)
    · rename_i hnewline
      obtain rfl := Option.some.inj hline
      rw [String.toList_ofList]
      exact ⟨hnewline, hrest⟩
  · intro h
    obtain ⟨hnewline, hrest⟩ := h
    rw [hrest, Option.bind_some, if_neg hnewline, String.ofList_toList]

/-! ## The decision of the table -/

/-- What a table makes of a token. -/
def roleBy (rules : List SortingRule) (context : TokenContext) (token : String) :
    Except RunError TokenRole :=
  match ruleFor? rules context token with
  | none => .error (.unrecognized token)
  | some rule => rule.role context token

theorem take_eq_map : found.take files flags rules token =
    (roleBy rules (found.context files flags) token).map found.add := by
  rw [Found.take, roleBy]
  cases ruleFor? rules (found.context files flags) token with
  | none => rfl
  | some rule => rfl

theorem roleBy_nil : roleBy [] context token = .error (.unrecognized token) := rfl

theorem roleBy_cons : roleBy (rule :: rules) context token =
    if rule.applies context token then rule.role context token else roleBy rules context token := by
  rw [roleBy, ruleFor?, List.find?_cons]
  cases rule.applies context token with
  | true => rfl
  | false => rfl

/-- No parameter file is known, and the token leads to one. -/
def WantedFile (context : TokenContext) (token : String) : Prop :=
  context.parameterFiles = 0 ∧ context.files.isFile (.ofText token) = true

/-- No working directory is known, and the token leads to a place for one. -/
def WantedPlace (context : TokenContext) (token : String) : Prop :=
  context.workdirs = 0 ∧ context.files.isDirectoryPlace (.ofText token) = true

/-- What a token stands for in a context: a number before all paths, a path as long as it is
wanted, and failing these an assigned directory or an option. -/
inductive RoleOf (context : TokenContext) (token : String) : TokenRole → Prop where
  | number {n : Number} :
      SpellsNumber token n → RoleOf context token (.number n)
  | parameterFile :
      numberDigits? token = none → WantedFile context token →
      RoleOf context token (.parameterFile (.ofText token))
  | place :
      numberDigits? token = none → WantedPlace context token →
      RoleOf context token (.workdir (.ofText token))
  | assigned {directory : String} :
      numberDigits? token = none → ¬ WantedFile context token → ¬ WantedPlace context token →
      assignedWorkdir? token = some directory →
      RoleOf context token (.workdir (.ofText directory))
  | option :
      numberDigits? token = none → ¬ WantedFile context token → ¬ WantedPlace context token →
      assignedWorkdir? token = none → '=' ∈ token.toList → context.flags.Allows token →
      RoleOf context token (.option token)

theorem wantedFile_iff :
    parameterFileRule.applies context token = true ↔ WantedFile context token := by
  simp [parameterFileRule, WantedFile]

theorem wantedPlace_iff :
    workdirPathRule.applies context token = true ↔ WantedPlace context token := by
  simp [workdirPathRule, WantedPlace]

/-- A place for a directory is no file. -/
theorem not_isFile_of_isDirectoryPlace {p : Path} (h : files.isDirectoryPlace p = true) :
    files.isFile p = false := by
  unfold FileSystem.isDirectoryPlace FileSystem.isDirectory FileSystem.isThere at h
  unfold FileSystem.isFile
  cases hfind : files.find? p with
  | none => rfl
  | some entry =>
    rw [hfind] at h
    cases entry with
    | directory => rfl
    | file content => simp at h
    | device => rfl

theorem not_wantedFile (h : context.files.isFile (.ofText token) = false) :
    ¬ WantedFile context token := by
  intro hwanted
  rw [hwanted.2] at h
  exact absurd h (by decide)

theorem not_wantedPlace (h : context.files.isDirectoryPlace (.ofText token) = false) :
    ¬ WantedPlace context token := by
  intro hwanted
  rw [hwanted.2] at h
  exact absurd h (by decide)

theorem numberRule_role_eq_ok_iff (happlies : numberRule.applies context token = true) :
    numberRule.role context token = .ok role ↔ ∃ n, SpellsNumber token n ∧ role = .number n := by
  obtain ⟨digits, hdigits⟩ := Option.isSome_iff_exists.1 happlies
  simp only [numberRule, hdigits, Option.getD_some, spellsNumber_iff_of_digits hdigits]
  cases Number.ofText? (String.ofList digits) with
  | none => simp
  | some n => simp [eq_comm]

/-- The table gives each token a role that the token stands for. -/
theorem roleOf_of_roleBy (h : roleBy sortingRules context token = .ok role) :
    RoleOf context token role := by
  simp only [sortingRules, roleBy_cons, roleBy_nil] at h
  split at h
  · rename_i hnumber
    obtain ⟨n, hn, rfl⟩ := (numberRule_role_eq_ok_iff hnumber).1 h
    exact .number hn
  rename_i hnumber
  have hnone : numberDigits? token = none := Option.not_isSome_iff_eq_none.1 hnumber
  split at h
  · rename_i hfile
    obtain rfl := Except.ok.inj h
    exact .parameterFile hnone (wantedFile_iff.1 hfile)
  rename_i hfile
  split at h
  · rename_i hplace
    obtain rfl := Except.ok.inj h
    exact .place hnone (wantedPlace_iff.1 hplace)
  rename_i hplace
  rw [wantedFile_iff] at hfile
  rw [wantedPlace_iff] at hplace
  split at h
  · rename_i hassigned
    obtain ⟨directory, hdirectory⟩ := Option.isSome_iff_exists.1 hassigned
    simp only [workdirOptionRule, hdirectory, Option.getD_some] at h
    obtain rfl := Except.ok.inj h
    exact .assigned hnone hfile hplace hdirectory
  rename_i hassigned
  have hother : assignedWorkdir? token = none := Option.not_isSome_iff_eq_none.1 hassigned
  split at h
  · rename_i hequals
    obtain ⟨hallows, rfl⟩ := allows_of_role h
    exact .option hnone hfile hplace hother (by simpa [optionRule] using hequals) hallows
  -- a surplus path is refused, and so is what no rule takes
  split at h
  · simp only [surplusPathRule] at h
    split at h <;> exact absurd h (by simp)
  · exact absurd h (by simp)

/-- A token gets the role that it stands for. -/
theorem RoleOf.roleBy_eq (h : RoleOf context token role) :
    roleBy sortingRules context token = .ok role := by
  simp only [sortingRules, roleBy_cons, roleBy_nil]
  have hskip : numberDigits? token = none → ¬ numberRule.applies context token = true := by
    intro hnone
    simp [numberRule, hnone]
  cases h with
  | number hn =>
    have happlies : numberRule.applies context token = true :=
      Option.isSome_iff_ne_none.2 hn.digits_ne_none
    rw [if_pos happlies]
    exact (numberRule_role_eq_ok_iff happlies).2 ⟨_, hn, rfl⟩
  | parameterFile hnone hfile =>
    rw [if_neg (hskip hnone), if_pos (wantedFile_iff.2 hfile)]
    rfl
  | place hnone hplace =>
    have hnofile : ¬ WantedFile context token :=
      not_wantedFile (not_isFile_of_isDirectoryPlace hplace.2)
    rw [if_neg (hskip hnone), if_neg (mt wantedFile_iff.1 hnofile),
      if_pos (wantedPlace_iff.2 hplace)]
    rfl
  | assigned hnone hfile hplace hdirectory =>
    rw [if_neg (hskip hnone), if_neg (mt wantedFile_iff.1 hfile),
      if_neg (mt wantedPlace_iff.1 hplace), if_pos (by simp [workdirOptionRule, hdirectory])]
    simp [workdirOptionRule, hdirectory]
  | option hnone hfile hplace hother hequals hallows =>
    rw [if_neg (hskip hnone), if_neg (mt wantedFile_iff.1 hfile),
      if_neg (mt wantedPlace_iff.1 hplace), if_neg (by simp [workdirOptionRule, hother]),
      if_pos (by simpa [optionRule] using hequals)]
    exact role_of_allows hallows

theorem roleBy_eq_ok_iff :
    roleBy sortingRules context token = .ok role ↔ RoleOf context token role :=
  ⟨roleOf_of_roleBy, RoleOf.roleBy_eq⟩

/-! ## The roles of all tokens -/

namespace TokenRole

/-- The number, for a number. -/
def number? : TokenRole → Option Number
  | .number n => some n
  | _ => none

/-- The file, for a parameter file. -/
def parameterFile? : TokenRole → Option Path
  | .parameterFile file => some file
  | _ => none

/-- The directory, for a working directory. -/
def workdir? : TokenRole → Option Path
  | .workdir directory => some directory
  | _ => none

/-- The text, for an option. -/
def option? : TokenRole → Option String
  | .option text => some text
  | _ => none

end TokenRole

/-- A role is kept with those of its kind, and apart from the others. -/
theorem Found.add_eq (found : Found) (role : TokenRole) :
    found.add role =
      ⟨found.numbers ++ role.number?.toList, found.parameterFiles ++ role.parameterFile?.toList,
        found.workdirs ++ role.workdir?.toList, found.options ++ role.option?.toList⟩ := by
  cases role <;>
    simp [add, TokenRole.number?, TokenRole.parameterFile?, TokenRole.workdir?, TokenRole.option?]

/-- With what many tokens stand for. -/
def Found.addAll (found : Found) (roles : List TokenRole) : Found := roles.foldl Found.add found

theorem Found.addAll_eq (found : Found) (roles : List TokenRole) :
    found.addAll roles =
      ⟨found.numbers ++ roles.filterMap TokenRole.number?,
        found.parameterFiles ++ roles.filterMap TokenRole.parameterFile?,
        found.workdirs ++ roles.filterMap TokenRole.workdir?,
        found.options ++ roles.filterMap TokenRole.option?⟩ := by
  simp only [List.filterMap_eq_flatMap_toList]
  induction roles generalizing found with
  | nil => simp [Found.addAll]
  | cons role roles ih =>
    have hstep : found.addAll (role :: roles) = (found.add role).addAll roles := rfl
    rw [hstep, ih, Found.add_eq]
    simp only [List.flatMap_cons, List.append_assoc]

/-- What the roles of all tokens and the flags come to: one number, file and directory at most,
from one source each, and all options. -/
structure Tallies (flags : NamedFlags) (roles : List TokenRole) (sorted : SortedTokens) : Prop where
  number : roles.filterMap TokenRole.number? = sorted.number.toList
  parameters : flags.parameters.toList ++ roles.filterMap TokenRole.parameterFile? =
    sorted.parameters.toList
  workdir : flags.workdir.toList ++ roles.filterMap TokenRole.workdir? = sorted.workdir.toList
  options : sorted.options = roles.filterMap TokenRole.option?
    ++ (flags.ell.map fun ell => "ell=" ++ ell).toList

theorem conclude_addAll_iff :
    ((Found.ofFlags flags).addAll roles).conclude flags = .ok sorted ↔
      Tallies flags roles sorted := by
  rw [Found.addAll_eq, conclude_eq_ok_iff]
  simp only [Found.ofFlags, List.nil_append]
  constructor
  · intro h
    obtain ⟨hnumber, hparameters, hworkdir, hoptions⟩ := h
    exact ⟨hnumber, hparameters, hworkdir, hoptions⟩
  · intro h
    exact ⟨h.number, h.parameters, h.workdir, h.options⟩

/-- A token that was taken added its role. -/
theorem take_eq_ok_iff :
    found.take files flags sortingRules token = .ok next ↔
      ∃ role, RoleOf (found.context files flags) token role ∧ next = found.add role := by
  rw [take_eq_map]
  simp only [← roleBy_eq_ok_iff]
  cases roleBy sortingRules (found.context files flags) token with
  | error e => simp [Except.map]
  | ok role => simp [Except.map, eq_comm]

/-- Among these files and with these flags, the token stands for the role somewhere. -/
def MayStandFor (files : FileSystem) (flags : NamedFlags) (token : String) (role : TokenRole) :
    Prop :=
  ∃ parameterFiles workdirs, RoleOf ⟨files, flags, parameterFiles, workdirs⟩ token role

/-- The scan gives each token a role and adds them all. -/
theorem takeAll_ok (h : found.takeAll files flags sortingRules tokens = .ok final) :
    ∃ roles, List.Forall₂ (MayStandFor files flags) tokens roles ∧ final = found.addAll roles := by
  induction tokens generalizing found with
  | nil => exact ⟨[], .nil, (Except.ok.inj h).symm⟩
  | cons token rest ih =>
    unfold Found.takeAll at h
    split at h
    · exact absurd h (by simp)
    · rename_i next hnext
      obtain ⟨role, hrole, rfl⟩ := take_eq_ok_iff.1 hnext
      obtain ⟨roles, hroles, rfl⟩ := ih h
      exact ⟨role :: roles, .cons ⟨_, _, hrole⟩ hroles, rfl⟩

/-! ## Nothing is lost -/

/-- What a token stands for, wherever it stands: a number that it spells, a path that it names
or assigns, or itself. -/
def StandsFor (files : FileSystem) (token : String) : TokenRole → Prop
  | .number n => SpellsNumber token n
  | .parameterFile file => file = .ofText token ∧ files.isFile file = true
  | .workdir directory =>
    directory = .ofText token ∧ files.isDirectoryPlace directory = true ∨
      ∃ d, directory = .ofText d ∧ '\n' ∉ d.toList
        ∧ (token = "workdir=" ++ d ∨ token = "tasks.workdir=" ++ d)
  | .option text => text = token ∧ '=' ∈ token.toList

theorem RoleOf.standsFor (h : RoleOf context token role) : StandsFor context.files token role := by
  cases h with
  | number hn => exact hn
  | parameterFile _ hfile => exact ⟨rfl, hfile.2⟩
  | place _ hplace => exact .inl ⟨rfl, hplace.2⟩
  | assigned _ _ _ hdirectory => exact .inr ⟨_, rfl, assignedWorkdir?_eq_some_iff.1 hdirectory⟩
  | option _ _ _ _ hequals _ => exact ⟨rfl, hequals⟩

/-- What spells a number stands for that number, whatever it leads to. -/
theorem RoleOf.eq_number (h : RoleOf context token role) (hn : SpellsNumber token n) :
    role = .number n := by
  cases h with
  | number hm => rw [hn.unique hm]
  | parameterFile hnone _ => exact absurd hnone hn.digits_ne_none
  | place hnone _ => exact absurd hnone hn.digits_ne_none
  | assigned hnone _ _ _ => exact absurd hnone hn.digits_ne_none
  | option hnone _ _ _ _ _ => exact absurd hnone hn.digits_ne_none

theorem exists_role_of_mem {R : String → TokenRole → Prop} (h : List.Forall₂ R tokens roles)
    (ht : token ∈ tokens) : ∃ role ∈ roles, R token role := by
  induction h with
  | nil => exact absurd ht List.not_mem_nil
  | cons hrole _ ih =>
    rcases List.mem_cons.1 ht with rfl | ht
    · exact ⟨_, List.mem_cons_self, hrole⟩
    · obtain ⟨role, hmem, hrole'⟩ := ih ht
      exact ⟨role, List.mem_cons_of_mem _ hmem, hrole'⟩

/-- The one number among the roles is what the sorting ends with. -/
theorem Tallies.number_eq (h : Tallies flags roles sorted) (hn : .number n ∈ roles) :
    sorted.number = some n := by
  have hmem : n ∈ roles.filterMap TokenRole.number? := List.mem_filterMap.2 ⟨.number n, hn, rfl⟩
  rw [h.number] at hmem
  exact Option.mem_toList.1 hmem

/-- **Sorting loses, doubles and reorders nothing.** Where it succeeds, each token stands for one
role, in order, and the outcome is what these roles and the named flags come to. A token that
spells a number stands for the number of the run, whatever else has its name. -/
theorem roles_of_sorted (h : sortTokens files flags sortingRules tokens = .ok sorted) :
    ∃ roles,
      List.Forall₂ (fun token role => StandsFor files token role
        ∧ ∀ n, SpellsNumber token n → role = .number n) tokens roles
      ∧ Tallies flags roles sorted
      ∧ ∀ token ∈ tokens, ∀ n, SpellsNumber token n → sorted.number = some n := by
  obtain ⟨found, hfound, hconclude⟩ := sortTokens_ok h
  obtain ⟨roles, hroles, rfl⟩ := takeAll_ok hfound
  have htallies : Tallies flags roles sorted := conclude_addAll_iff.1 hconclude
  have hmeaning : List.Forall₂ (fun token role => StandsFor files token role
      ∧ ∀ n, SpellsNumber token n → role = .number n) tokens roles := by
    refine hroles.imp fun token role hrole => ?_
    obtain ⟨parameterFiles, workdirs, hrole⟩ := hrole
    exact ⟨hrole.standsFor, fun n hn => hrole.eq_number hn⟩
  refine ⟨roles, hmeaning, htallies, fun token ht n hn => ?_⟩
  obtain ⟨role, hmem, -, hnumber⟩ := exists_role_of_mem hmeaning ht
  rw [hnumber n hn] at hmem
  exact htallies.number_eq hmem

/-- Two files, one of them named like a number. -/
def numberedFiles : FileSystem :=
  ⟨[([Text.utf8 "1234"], .file []), ([Text.utf8 "f"], .file [])], []⟩

/-- Tokens of every kind are told apart, and the number wins over the file of its name. -/
theorem numberedFiles_sorted :
    ∃ sorted roles,
      sortTokens numberedFiles { workdir := some (.ofText "w"), ell := some "7" } sortingRules
        ["b=2", "1234", "f", "a=1"] = .ok sorted
      ∧ numberedFiles.isFile (.ofText "1234") = true
      ∧ Tallies { workdir := some (.ofText "w"), ell := some "7" } roles sorted
      ∧ sorted.number = some ⟨1234⟩ ∧ sorted.options = ["b=2", "a=1", "ell=7"] := by
  have hsorted : sortTokens numberedFiles { workdir := some (.ofText "w"), ell := some "7" }
      sortingRules ["b=2", "1234", "f", "a=1"] =
        .ok ⟨some ⟨1234⟩, some (.ofText "f"), some (.ofText "w"), ["b=2", "a=1", "ell=7"]⟩ := by
    decide +kernel
  obtain ⟨roles, -, htallies, hnumber⟩ := roles_of_sorted hsorted
  have hspells : SpellsNumber "1234" ⟨1234⟩ := ⟨"1234".toList, .inl rfl, by decide +kernel⟩
  have hfile : numberedFiles.isFile (.ofText "1234") = true := by decide +kernel
  exact ⟨_, roles, hsorted, hfile, htallies, hnumber "1234" (by simp) _ hspells, rfl⟩

end SieveRun
