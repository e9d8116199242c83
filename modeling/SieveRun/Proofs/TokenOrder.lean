import Mathlib.Data.List.Perm.Basic
import SieveRun.Proofs.Roles

/-!
# The order of tokens

A path is taken while none of its kind is known, so what a token comes to may depend on what
stands before it. Where no token with an equals sign leads to a path, that is all that the order
can do: each token stands for one role on its own (`StandsAlone`), and it gets this role or the
sorting fails. So the sorting succeeds just when every token has such a role and all of them
together leave one number, one file and one directory (`sortTokens_eq_ok_iff`), and in this the
order does not occur.
-/

namespace SieveRun

variable {files : FileSystem} {flags : NamedFlags} {token : String} {role : TokenRole}
  {found : Found} {tokens tokens' : List String} {roles roles' : List TokenRole}
  {sorted sorted' : SortedTokens} {parameterFiles workdirs : Nat}

/-! ## One token -/

/-- If the token has an equals sign, it leads neither to a file nor to a place for a directory. -/
def NoPath (files : FileSystem) (token : String) : Prop :=
  '=' ∈ token.toList → files.isFile (.ofText token) = false
    ∧ files.isDirectoryPlace (.ofText token) = false

/-- What the token stands for where nothing is known yet. -/
def StandsAlone (files : FileSystem) (flags : NamedFlags) (token : String) (role : TokenRole) :
    Prop :=
  RoleOf ⟨files, flags, 0, 0⟩ token role

theorem equals_mem_of_assignedWorkdir? {directory : String}
    (h : assignedWorkdir? token = some directory) : '=' ∈ token.toList := by
  obtain ⟨-, htoken⟩ := assignedWorkdir?_eq_some_iff.1 h
  have hshort : '=' ∈ "workdir=".toList := by decide +kernel
  have hlong : '=' ∈ "tasks.workdir=".toList := by decide +kernel
  rcases htoken with rfl | rfl
  · rw [String.toList_append]
    exact List.mem_append_left _ hshort
  · rw [String.toList_append]
    exact List.mem_append_left _ hlong

theorem NoPath.not_wanted (h : NoPath files token) (hequals : '=' ∈ token.toList) :
    ¬ WantedFile ⟨files, flags, parameterFiles, workdirs⟩ token
      ∧ ¬ WantedPlace ⟨files, flags, parameterFiles, workdirs⟩ token := by
  obtain ⟨hnofile, hnoplace⟩ := h hequals
  exact ⟨not_wantedFile hnofile, not_wantedPlace hnoplace⟩

/-- A role that the token gets somewhere is the one it has on its own. -/
theorem MayStandFor.standsAlone (h : MayStandFor files flags token role)
    (hpath : NoPath files token) : StandsAlone files flags token role := by
  obtain ⟨parameterFiles, workdirs, hrole⟩ := h
  cases hrole with
  | number hn => exact .number hn
  | parameterFile hnone hfile => exact .parameterFile hnone ⟨rfl, hfile.2⟩
  | place hnone hplace => exact .place hnone ⟨rfl, hplace.2⟩
  | assigned hnone _ _ hdirectory =>
    obtain ⟨hnofile, hnoplace⟩ := hpath.not_wanted (equals_mem_of_assignedWorkdir? hdirectory)
    exact .assigned hnone hnofile hnoplace hdirectory
  | option hnone _ _ hother hequals hallows =>
    obtain ⟨hnofile, hnoplace⟩ := hpath.not_wanted hequals
    exact .option hnone hnofile hnoplace hother hequals hallows

/-- A token gets its own role wherever no path is known that takes its place. -/
theorem StandsAlone.roleOf (h : StandsAlone files flags token role)
    (hfile : ∀ file, role = .parameterFile file → parameterFiles = 0)
    (hworkdir : ∀ directory, role = .workdir directory → workdirs = 0) :
    RoleOf ⟨files, flags, parameterFiles, workdirs⟩ token role := by
  cases h with
  | number hn => exact .number hn
  | parameterFile hnone hwanted => exact .parameterFile hnone ⟨hfile _ rfl, hwanted.2⟩
  | place hnone hwanted => exact .place hnone ⟨hworkdir _ rfl, hwanted.2⟩
  | assigned hnone hnofile hnoplace hdirectory =>
    exact .assigned hnone (fun hw => hnofile ⟨rfl, hw.2⟩) (fun hw => hnoplace ⟨rfl, hw.2⟩)
      hdirectory
  | option hnone hnofile hnoplace hother hequals hallows =>
    exact .option hnone (fun hw => hnofile ⟨rfl, hw.2⟩) (fun hw => hnoplace ⟨rfl, hw.2⟩) hother
      hequals hallows

/-- The token is an option by its form: it has an equals sign and is neither a number nor a
working directory. -/
def isPlainOption (token : String) : Bool :=
  token.toList.contains '=' && (numberDigits? token).isNone && (assignedWorkdir? token).isNone

theorem StandsAlone.option?_eq (h : StandsAlone files flags token role)
    (hpath : NoPath files token) :
    role.option? = if isPlainOption token then some token else none := by
  cases h with
  | number hn =>
    obtain ⟨digits, hdigits⟩ := Option.ne_none_iff_exists'.1 hn.digits_ne_none
    simp [TokenRole.option?, isPlainOption, hdigits]
  | parameterFile _ hfile =>
    have hplain : '=' ∉ token.toList := fun hequals => (hpath.not_wanted hequals).1 hfile
    simp [TokenRole.option?, isPlainOption, hplain]
  | place _ hplace =>
    have hplain : '=' ∉ token.toList := fun hequals => (hpath.not_wanted hequals).2 hplace
    simp [TokenRole.option?, isPlainOption, hplain]
  | assigned _ _ _ hdirectory => simp [TokenRole.option?, isPlainOption, hdirectory]
  | option hnone _ _ hother hequals _ =>
    simp [TokenRole.option?, isPlainOption, hnone, hother, hequals]

/-! ## All tokens -/

theorem standsAlone_of_mayStandFor (hpaths : ∀ token ∈ tokens, NoPath files token)
    (h : List.Forall₂ (MayStandFor files flags) tokens roles) :
    List.Forall₂ (StandsAlone files flags) tokens roles := by
  induction h with
  | nil => exact .nil
  | cons hrole _ ih =>
    rw [List.forall_mem_cons] at hpaths
    exact .cons (hrole.standsAlone hpaths.1) (ih hpaths.2)

/-- Tokens that stand for something each are all taken where no path comes twice. -/
theorem takeAll_of_standsAlone (h : List.Forall₂ (StandsAlone files flags) tokens roles)
    (hfiles : (found.addAll roles).parameterFiles.length ≤ 1)
    (hworkdirs : (found.addAll roles).workdirs.length ≤ 1) :
    found.takeAll files flags sortingRules tokens = .ok (found.addAll roles) := by
  induction h generalizing found with
  | nil => rfl
  | @cons token role tokens roles hrole _ ih =>
    have hcontext : RoleOf (found.context files flags) token role := by
      rw [Found.addAll_eq] at hfiles hworkdirs
      refine hrole.roleOf (fun file hrole => ?_) (fun directory hrole => ?_)
      · -- the file of this token is the one that there may be
        subst hrole
        simp only [List.filterMap_cons, TokenRole.parameterFile?, List.length_append,
          List.length_cons] at hfiles
        omega
      · subst hrole
        simp only [List.filterMap_cons, TokenRole.workdir?, List.length_append,
          List.length_cons] at hworkdirs
        omega
    rw [Found.takeAll, take_eq_ok_iff.2 ⟨role, hcontext, rfl⟩]
    exact ih hfiles hworkdirs

/-- Success without an order: every token stands for a role on its own, and the roles come to
one outcome. -/
theorem sortTokens_eq_ok_iff (hpaths : ∀ token ∈ tokens, NoPath files token) :
    sortTokens files flags sortingRules tokens = .ok sorted ↔
      ∃ roles, List.Forall₂ (StandsAlone files flags) tokens roles ∧ Tallies flags roles sorted := by
  constructor
  · intro h
    obtain ⟨found, hfound, hconclude⟩ := sortTokens_ok h
    obtain ⟨roles, hroles, rfl⟩ := takeAll_ok hfound
    exact ⟨roles, standsAlone_of_mayStandFor hpaths hroles, conclude_addAll_iff.1 hconclude⟩
  · intro h
    obtain ⟨roles, hroles, htallies⟩ := h
    have hconclude := conclude_addAll_iff.2 htallies
    obtain ⟨-, hfiles, hworkdirs, -⟩ := conclude_eq_ok_iff.1 hconclude
    have htaken := takeAll_of_standsAlone hroles
      (by rw [hfiles]; exact Option.length_toList_le)
      (by rw [hworkdirs]; exact Option.length_toList_le)
    rw [sortTokens, htaken]
    exact hconclude

/-- The options are the tokens that are options by their form, in order. -/
theorem filterMap_option? (h : List.Forall₂ (StandsAlone files flags) tokens roles)
    (hpaths : ∀ token ∈ tokens, NoPath files token) :
    roles.filterMap TokenRole.option? = tokens.filter isPlainOption := by
  induction h with
  | nil => rfl
  | @cons token role tokens roles hrole _ ih =>
    rw [List.forall_mem_cons] at hpaths
    rw [List.filterMap_cons, List.filter_cons, hrole.option?_eq hpaths.1, ih hpaths.2]
    cases isPlainOption token with
    | true => rfl
    | false => rfl

/-! ## In another order -/

/-- A list with one member at most has no other order. -/
theorem perm_toList_iff {α : Type} {l : List α} {o : Option α} :
    l.Perm o.toList ↔ l = o.toList := by
  cases o with
  | none => exact List.perm_nil
  | some a => exact List.perm_singleton

theorem Tallies.perm (h : Tallies flags roles sorted) (hperm : roles'.Perm roles) :
    Tallies flags roles' { sorted with
      options := roles'.filterMap TokenRole.option?
        ++ (flags.ell.map fun ell => "ell=" ++ ell).toList } where
  number := by
    have hnumbers := hperm.filterMap TokenRole.number?
    rw [h.number] at hnumbers
    exact perm_toList_iff.1 hnumbers
  parameters := by
    have hfiles := (hperm.filterMap TokenRole.parameterFile?).append_left flags.parameters.toList
    rw [h.parameters] at hfiles
    exact perm_toList_iff.1 hfiles
  workdir := by
    have hworkdirs := (hperm.filterMap TokenRole.workdir?).append_left flags.workdir.toList
    rw [h.workdir] at hworkdirs
    exact perm_toList_iff.1 hworkdirs
  options := rfl

/-- The outcome of the same tokens in another order: it is there as well, and differs in the
order of the options alone. -/
theorem sortTokens_of_perm (hpaths : ∀ token ∈ tokens, NoPath files token)
    (hperm : tokens'.Perm tokens)
    (h : sortTokens files flags sortingRules tokens = .ok sorted) :
    sortTokens files flags sortingRules tokens' = .ok { sorted with
      options := tokens'.filter isPlainOption
        ++ (flags.ell.map fun ell => "ell=" ++ ell).toList } := by
  obtain ⟨roles, hroles, htallies⟩ := (sortTokens_eq_ok_iff hpaths).1 h
  obtain ⟨roles', hroles', hperm'⟩ := List.perm_comp_forall₂ hperm hroles
  have hpaths' : ∀ token ∈ tokens', NoPath files token :=
    fun token ht => hpaths token (hperm.subset ht)
  rw [← filterMap_option? hroles' hpaths']
  exact (sortTokens_eq_ok_iff hpaths').2 ⟨roles', hroles', htallies.perm hperm'⟩

/-- **The order of tokens does not matter for paths and number.** Where no token with an equals
sign leads to a file or to a place for a directory, the same tokens in two orders are both sorted
or both refused. If they are sorted, number, parameter file and working directory are the same,
and the options are in either case the tokens that are options by their form, as they stand,
before the one of `--ell`. -/
theorem sortTokens_perm (hperm : tokens.Perm tokens')
    (hpaths : ∀ token ∈ tokens, '=' ∈ token.toList → files.isFile (.ofText token) = false
      ∧ files.isDirectoryPlace (.ofText token) = false) :
    ((∃ sorted, sortTokens files flags sortingRules tokens = .ok sorted) ↔
        ∃ sorted', sortTokens files flags sortingRules tokens' = .ok sorted')
      ∧ ∀ sorted sorted', sortTokens files flags sortingRules tokens = .ok sorted →
          sortTokens files flags sortingRules tokens' = .ok sorted' →
          sorted'.number = sorted.number ∧ sorted'.parameters = sorted.parameters
            ∧ sorted'.workdir = sorted.workdir
            ∧ sorted.options = tokens.filter isPlainOption
                ++ (flags.ell.map fun ell => "ell=" ++ ell).toList
            ∧ sorted'.options = tokens'.filter isPlainOption
                ++ (flags.ell.map fun ell => "ell=" ++ ell).toList := by
  have hpaths' : ∀ token ∈ tokens', NoPath files token :=
    fun token ht => hpaths token (hperm.symm.subset ht)
  refine ⟨⟨?_, ?_⟩, ?_⟩
  · rintro ⟨sorted, h⟩
    exact ⟨_, sortTokens_of_perm hpaths hperm.symm h⟩
  · rintro ⟨sorted', h'⟩
    exact ⟨_, sortTokens_of_perm hpaths' hperm h'⟩
  · intro sorted sorted' h h'
    have hother := Except.ok.inj (h'.symm.trans (sortTokens_of_perm hpaths hperm.symm h))
    have hself := Except.ok.inj (h.symm.trans (sortTokens_of_perm hpaths (.refl tokens) h))
    refine ⟨?_, ?_, ?_, congrArg SortedTokens.options hself, ?_⟩
    · rw [hother]
    · rw [hother]
    · rw [hother]
    · rw [hother]

/-- A file, one that is named like an option, and a directory. -/
def optionFiles : FileSystem :=
  ⟨[([Text.utf8 "f"], .file []), ([Text.utf8 "workdir=d"], .file []),
    ([Text.utf8 "w"], .directory)], []⟩

/-- The file may come before or after the directory, and the options stay in order. -/
theorem optionFiles_perm :
    ∃ sorted sorted',
      sortTokens optionFiles { ell := some "7" } sortingRules
        ["b=2", "w", "1234", "f", "a=1"] = .ok sorted
      ∧ sortTokens optionFiles { ell := some "7" } sortingRules
        ["f", "a=1", "1234", "w", "b=2"] = .ok sorted'
      ∧ sorted'.number = sorted.number ∧ sorted'.parameters = sorted.parameters
      ∧ sorted'.workdir = sorted.workdir
      ∧ sorted.options = ["b=2", "a=1", "ell=7"] ∧ sorted'.options = ["a=1", "b=2", "ell=7"] := by
  have hpaths : ∀ token ∈ ["b=2", "w", "1234", "f", "a=1"], '=' ∈ token.toList →
      optionFiles.isFile (.ofText token) = false
        ∧ optionFiles.isDirectoryPlace (.ofText token) = false := by
    decide +kernel
  have hperm : ["b=2", "w", "1234", "f", "a=1"].Perm ["f", "a=1", "1234", "w", "b=2"] := by
    decide
  obtain ⟨hboth, hsame⟩ := @sortTokens_perm optionFiles { ell := some "7" } _ _ hperm hpaths
  have hsorted : sortTokens optionFiles { ell := some "7" } sortingRules
      ["b=2", "w", "1234", "f", "a=1"] = .ok ⟨some ⟨1234⟩, some (.ofText "f"), some (.ofText "w"),
        ["b=2", "a=1", "ell=7"]⟩ := by
    decide +kernel
  obtain ⟨sorted', hsorted'⟩ := hboth.1 ⟨_, hsorted⟩
  obtain ⟨hnumber, hparameters, hworkdir, hoptions, hoptions'⟩ := hsame _ _ hsorted hsorted'
  refine ⟨_, sorted', hsorted, hsorted', hnumber, hparameters, hworkdir, rfl, ?_⟩
  rw [hoptions']
  decide +kernel

/-- A file that is named like an option is taken for a file if it comes first. -/
example :
    (sortTokens optionFiles {} sortingRules ["f", "workdir=d"]).isOk = true
      ∧ (sortTokens optionFiles {} sortingRules ["workdir=d", "f"]).isOk = false := by
  decide +kernel

end SieveRun
