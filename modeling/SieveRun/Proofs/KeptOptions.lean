import SieveRun.Proofs.Changes
import SieveRun.Proofs.Tokens

/-!
# Whether every option is kept

A token becomes an option because it has an equals sign. The reader of options then treats it
as a line of a parameter file, and a line may be a remark: nothing but a comment, behind blanks
perhaps (`IsRemark`). So a token such as `#a=b` is taken for an option and never read.

These are the only tokens that are lost. Any other option makes one assignment or stops the
reading (`options_kept_iff`).
-/

namespace SieveRun

open Stage Assignment Text

variable {files : FileSystem} {flags : NamedFlags} {found final : Found} {t : String}
  {tokens : List String} {sorted : SortedTokens} {line : List Char} {s s' : Session}

/-! ## Lines without content -/

/-- A line that is all comment, behind blanks perhaps. -/
def IsRemark (line : List Char) : Prop :=
  ∃ blanks comment, line = blanks ++ '#' :: comment ∧ (∀ c ∈ blanks, isBlank c = true)
    ∧ ∀ c ∈ blanks.getLast?, isAsciiBlank c = true

/-- The content is empty where all is blank, or blank up to a comment. -/
theorem content_eq_nil_iff : content line = [] ↔ (∀ c ∈ line, isBlank c = true) ∨ IsRemark line := by
  rw [content, trim_eq_nil_iff]
  constructor
  · intro h
    rcases beforeComment_cases true line with hself | ⟨comment, hline, hopens⟩
    · rw [hself] at h
      exact .inl h
    · exact .inr ⟨_, comment, hline, h, opensAfter_true_iff.1 hopens⟩
  · intro h c hc
    rcases h with hall | ⟨blanks, comment, rfl, hblanks, hlast⟩
    · exact hall c ((beforeComment_leads true line).subset hc)
    · -- no blank is a `#`, so the comment opens right after the blanks
      have hhash := hash_not_mem_blanks hblanks
      have hopens := opensAfter_true_iff.2 hlast
      rw [beforeComment_append, if_pos (beforeComment_of_not_mem hhash), hopens] at hc
      simp only [beforeComment, and_self, if_true, List.append_nil] at hc
      exact hblanks c hc

/-- A line with an equals sign has content, unless it is a remark. -/
theorem content_eq_nil_iff_isRemark (h : '=' ∈ line) : content line = [] ↔ IsRemark line := by
  rw [content_eq_nil_iff]
  refine or_iff_right fun hall => ?_
  exact absurd (hall '=' h) (by decide)

/-! ## The equals sign of an option -/

theorem equals_mem_of_isOption {context : TokenContext}
    (h : isOption sortingRules context t = true) : '=' ∈ t.toList := by
  rw [isOption, Option.any_eq_true] at h
  obtain ⟨rule, hrule, hname⟩ := h
  obtain ⟨hmem, happlies⟩ := ruleFor?_ok hrule
  rw [eq_optionRule_of_name hmem (by simpa using hname)] at happlies
  simpa [optionRule] using happlies

theorem equals_mem_of_mem_optionTokens
    (h : t ∈ optionTokens files flags sortingRules found tokens) : '=' ∈ t.toList := by
  induction tokens generalizing found with
  | nil => exact absurd h (by simp [optionTokens])
  | cons token rest ih =>
    unfold optionTokens at h
    split at h
    · exact absurd h (by simp)
    · rcases List.mem_append.1 h with h | h
      · split at h
        · rename_i htaken
          obtain rfl := List.mem_singleton.1 h
          exact equals_mem_of_isOption htaken
        · exact absurd h (by simp)
      · exact ih h

/-- The option of `--ell` begins with a letter, so it is no remark. -/
theorem not_isRemark_ell (ell : String) : ¬ IsRemark ("ell=" ++ ell).toList := by
  intro h
  obtain ⟨blanks, comment, hline, hblanks, -⟩ := h
  rw [String.toList_append] at hline
  cases blanks with
  | nil => exact absurd (List.cons.inj hline).1 (by decide)
  | cons c blanks =>
    obtain ⟨rfl, -⟩ := List.cons.inj hline
    exact absurd (hblanks 'e' List.mem_cons_self) (by decide)

/-- No option is a remark where no token is. -/
theorem remarks_of_options (hs : sortTokens files flags sortingRules tokens = .ok sorted) :
    (∀ t ∈ sorted.options, ¬ IsRemark t.toList) ↔
      ∀ t ∈ optionTokens files flags sortingRules (.ofFlags flags) tokens, ¬ IsRemark t.toList := by
  rw [sortTokens_options hs, List.forall_mem_append]
  refine and_iff_left_of_imp fun _ t ht => ?_
  obtain ⟨ell, -, rfl⟩ := Option.map_eq_some_iff.1 (Option.mem_toList.1 ht)
  exact not_isRemark_ell ell

theorem equals_mem_of_mem_options (hs : sortTokens files flags sortingRules tokens = .ok sorted)
    (ht : t ∈ sorted.options) : '=' ∈ t.toList := by
  rw [sortTokens_options hs] at ht
  rcases List.mem_append.1 ht with ht | ht
  · exact equals_mem_of_mem_optionTokens ht
  · obtain ⟨ell, -, rfl⟩ := Option.map_eq_some_iff.1 (Option.mem_toList.1 ht)
    rw [String.toList_append]
    exact List.mem_append_left _ (by decide)

/-! ## One assignment for each option -/

/-- What the option assigns, if anything. -/
def assignment? (t : String) : Option (Key × String) := ofContent? (content t.toList)

theorem forall₂_filterMap_iff {α β : Type} {f : α → Option β} {xs : List α} :
    List.Forall₂ (fun x y => f x = some y) xs (xs.filterMap f) ↔ ∀ x ∈ xs, (f x).isSome = true := by
  induction xs with
  | nil => simp
  | cons x xs ih =>
    rw [List.filterMap_cons, List.forall_mem_cons]
    cases hx : f x with
    | none =>
      -- one element less is not enough for all
      simp only [Option.isSome_none, Bool.false_eq_true, false_and, iff_false]
      intro h
      have hlength := h.length_eq
      have hle := List.length_filterMap_le f xs
      rw [List.length_cons] at hlength
      omega
    | some y => simp [hx, ih]

/-- What can be read assigns something unless it is empty. -/
theorem assignment?_isSome_iff (h : content t.toList = [] ∨ (assignment? t).isSome = true) :
    (assignment? t).isSome = true ↔ content t.toList ≠ [] := by
  constructor
  · intro hsome hempty
    rw [assignment?, hempty, ofContent?_nil] at hsome
    simp at hsome
  · exact h.resolve_left

/-- Options without content assign nothing. -/
theorem filterMap_filter_content (options : List String) :
    (options.filter fun t => content t.toList ≠ []).filterMap assignment? =
      options.filterMap assignment? := by
  rw [List.filterMap_filter]
  refine List.filterMap_congr fun t _ => ?_
  by_cases hempty : content t.toList = []
  · rw [if_neg (by simpa using hempty), assignment?, hempty, ofContent?_nil]
  · rw [if_pos (by simpa using hempty)]

theorem ofOptions_eq_ok_iff {options : List String} {as : List (Key × String)} :
    ofOptions options = .ok as ↔
      (∀ t ∈ options, content t.toList = [] ∨ (assignment? t).isSome = true)
        ∧ options.filterMap assignment? = as := by
  rw [ofOptions, ofLines_eq_ok_iff, List.forall_mem_map, List.filterMap_map]
  rfl

/-- **Which options are lost.** The options of a command line are read without a fault. Then
every one that is no remark makes one assignment, in order; and all of them do exactly when no
token that was taken as an option is a remark. -/
theorem options_kept_iff (hs : sortTokens files flags sortingRules tokens = .ok sorted)
    (h : (mergeOptions sorted.options).runOn s = (.ok (), s')) :
    ∃ as, s' = (s.withParams (s.params.setAll as)).noting (storeNotes as)
      ∧ List.Forall₂ (fun t a => assignment? t = some a)
          (sorted.options.filter fun t => content t.toList ≠ []) as
      ∧ (List.Forall₂ (fun t a => assignment? t = some a) sorted.options as ↔
          ∀ t ∈ optionTokens files flags sortingRules (.ofFlags flags) tokens,
            ¬ IsRemark t.toList) := by
  rw [runOn_mergeOptions] at h
  cases has : ofOptions sorted.options with
  | error fault => rw [has] at h; exact absurd h (by simp)
  | ok as =>
    rw [has] at h
    obtain ⟨-, rfl⟩ := Prod.mk.inj h
    obtain ⟨hread, rfl⟩ := ofOptions_eq_ok_iff.1 has
    have hassigns : ∀ t ∈ sorted.options,
        (assignment? t).isSome = true ↔ ¬ IsRemark t.toList := by
      intro t ht
      rw [← content_eq_nil_iff_isRemark (equals_mem_of_mem_options hs ht)]
      exact assignment?_isSome_iff (hread t ht)
    refine ⟨_, rfl, ?_, ?_⟩
    · rw [← filterMap_filter_content]
      refine forall₂_filterMap_iff.2 fun t ht => ?_
      obtain ⟨hmem, hcontent⟩ := List.mem_filter.1 ht
      exact (hread t hmem).resolve_left (by simpa using hcontent)
    · rw [forall₂_filterMap_iff, ← remarks_of_options hs]
      exact forall₂_congr hassigns

/-- The flags of a run that names its working directory and sets `ell`. -/
def ellFlags : NamedFlags := { workdir := some (.ofText "/w"), ell := some "7" }

/-- A comment behind an option and a hash inside of its value lose nothing. -/
theorem hashed_options_kept :
    ∃ sorted as s', sortTokens ⟨[], []⟩ ellFlags sortingRules ["a=1#", "5", " b = 2 # c"] = .ok sorted
      ∧ sorted.options = ["a=1#", " b = 2 # c", "ell=7"]
      ∧ (mergeOptions sorted.options).runOn (.ofFiles ⟨[], []⟩) = (.ok (), s')
      ∧ s'.params = Hierarchy.empty.setAll as
      ∧ List.Forall₂ (fun t a => assignment? t = some a) sorted.options as := by
  have hs : sortTokens ⟨[], []⟩ ellFlags sortingRules ["a=1#", "5", " b = 2 # c"] =
      .ok ⟨some ⟨5⟩, none, some (.ofText "/w"), ["a=1#", " b = 2 # c", "ell=7"]⟩ := by
    decide +kernel
  have hread : ofOptions ["a=1#", " b = 2 # c", "ell=7"] =
      .ok [(⟨[], "a"⟩, "1#"), (⟨[], "b"⟩, "2"), (⟨[], "ell"⟩, "7")] := by decide +kernel
  have hrun := runOn_mergeOptions ["a=1#", " b = 2 # c", "ell=7"] (.ofFiles ⟨[], []⟩)
  rw [hread] at hrun
  obtain ⟨as, hmerged, -, hkept⟩ := options_kept_iff hs hrun
  have hcontent : ∀ t ∈ optionTokens ⟨[], []⟩ ellFlags sortingRules (.ofFlags ellFlags)
      ["a=1#", "5", " b = 2 # c"], content t.toList ≠ [] := by decide +kernel
  refine ⟨_, as, _, hs, rfl, hrun, by rw [hmerged]; rfl, hkept.2 fun t ht hremark => ?_⟩
  exact hcontent t ht (content_eq_nil_iff.2 (.inr hremark))

/-- A remark is taken for an option, and reading it assigns nothing. -/
theorem remark_dropped :
    ∃ sorted s', sortTokens ⟨[], []⟩ ellFlags sortingRules ["#a=b"] = .ok sorted
      ∧ sorted.options = ["#a=b", "ell=7"]
      ∧ (mergeOptions sorted.options).runOn (.ofFiles ⟨[], []⟩) = (.ok (), s')
      ∧ ofOptions sorted.options = .ok [(⟨[], "ell"⟩, "7")]
      ∧ s'.params = Hierarchy.empty.set ⟨[], "ell"⟩ "7" := by
  have hs : sortTokens ⟨[], []⟩ ellFlags sortingRules ["#a=b"] =
      .ok ⟨none, none, some (.ofText "/w"), ["#a=b", "ell=7"]⟩ := by decide +kernel
  have hread : ofOptions ["#a=b", "ell=7"] = .ok [(⟨[], "ell"⟩, "7")] := by decide +kernel
  have hrun := runOn_mergeOptions ["#a=b", "ell=7"] (.ofFiles ⟨[], []⟩)
  rw [hread] at hrun
  exact ⟨_, _, hs, rfl, hrun, hread, rfl⟩

end SieveRun
