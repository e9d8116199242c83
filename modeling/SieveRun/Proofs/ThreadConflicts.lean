import SieveRun.Proofs.Reading
import SieveRun.Proofs.Tokens
import SieveRun.Workers.Threads

/-!
# Thread flags and thread options

A thread flag rules out the options that assign the same thread counts. Two recognisers of
these options are at work: the table of rules looks at the token as it is written, and the
reader of options looks at its key after trimming. They agree on a key that is written
tightly (`Spells`) and in which no name has a hyphen; such an option is a conflict.

They differ in two ways. Blanks around the key hide it from the rules and not from the
reader, and a name with a hyphen is a name for the reader but no word for the rules. These
two are all that gets through, at any depth of nesting.
-/

namespace SieveRun

open Text Assignment

variable {t : String} {k : Key}

/-! ## Spelling a key in a token -/

/-- The token is an option that has exactly the text of the key before its equals sign. -/
def Spells (t : String) (k : Key) : Prop :=
  '=' ∈ t.toList ∧ keyPart t.toList = k.text.toList

/-- The token is an option that has the text of the key before its equals sign, and blanks
around it. -/
def SpellsLoosely (t : String) (k : Key) : Prop :=
  '=' ∈ t.toList ∧ trim (keyPart t.toList) = k.text.toList ∧ keyPart t.toList ≠ k.text.toList

theorem equals_not_mem_text (hk : k.isWellFormed = true) : '=' ∉ k.text.toList :=
  fun h => (Key.plainChar_of_mem_text hk h).ne_equals rfl

theorem spells_iff (hk : k.isWellFormed = true) :
    Spells t k ↔ ∃ after, t.toList = k.text.toList ++ '=' :: after :=
  keyPart_eq_iff (equals_not_mem_text hk)

/-- The reader sees a key however it is spelled. -/
theorem assigns_iff_spells (hk : k.isWellFormed = true) :
    Assigns t.toList k ↔ Spells t k ∨ SpellsLoosely t k := by
  rw [assigns_iff, Spells, SpellsLoosely]
  constructor
  · intro ha
    obtain ⟨heq, htrim, -⟩ := ha
    by_cases htight : keyPart t.toList = k.text.toList
    · exact .inl ⟨heq, htight⟩
    · exact .inr ⟨heq, htrim, htight⟩
  · intro hspells
    rcases hspells with ⟨heq, htight⟩ | ⟨heq, htrim, -⟩
    · exact ⟨heq, by rw [htight, Key.trim_text hk], hk⟩
    · exact ⟨heq, htrim, hk⟩

/-! ## The key of the server -/

theorem assignsServerThreads_iff : assignsServerThreads t = true ↔ Spells t serverThreadsKey := by
  rw [spells_iff (by decide +kernel), assignsServerThreads, Option.isSome_iff_exists]
  have hstart : "tasks.threads=".toList = serverThreadsKey.text.toList ++ ['='] := by
    decide +kernel
  simp only [afterStart?_eq_some_iff, hstart, List.append_assoc, List.singleton_append]

/-! ## The keys of the families -/

/-- The task families that have thread counts of their own. -/
def families : List String := ["sieve", "polyselect"]

/-- The thread count of a family or, with names in the middle, of a part of it. -/
def familyThreadsKey (family : String) (middle : List String) : Key :=
  ⟨"tasks" :: family :: middle, "threads"⟩

/-- Of the characters of a name, the rules only miss the hyphen. -/
theorem isWord_iff_ne_hyphen {c : Char} (hc : Key.isNameChar c = true) :
    isWord c = true ↔ c ≠ '-' := by
  by_cases hh : c = '-'
  · subst hh
    exact ⟨fun h => absurd h (by decide +kernel), fun h => absurd rfl h⟩
  · simp only [Key.isNameChar, Bool.or_eq_true, beq_iff_eq, hh, or_false] at hc
    refine ⟨fun _ => hh, fun _ => ?_⟩
    unfold isWord isAsciiLetter
    rcases hc with ((h | h) | h) | h <;> simp [h]

theorem all_isWord_iff {name : String} (hn : Key.isName name = true) :
    name.toList.all isWord = true ↔ '-' ∉ name.toList := by
  have hchars := (Key.isName_iff.1 hn).2
  rw [List.all_eq_true]
  constructor
  · exact fun h hm => (isWord_iff_ne_hyphen (hchars _ hm)).1 (h _ hm) rfl
  · exact fun h c hc => (isWord_iff_ne_hyphen (hchars c hc)).2 fun he => h (he ▸ hc)

/-- The rest of a family's option ends in threads where all the names between are words. -/
theorem endsInThreads_iff {middle : List String} (hm : ∀ name ∈ middle, Key.isName name = true)
    (first : List Char) (others : List (List Char)) :
    endsInThreads (middle.map String.toList ++ ("threads=".toList ++ first) :: others) = true ↔
      ∀ name ∈ middle, '-' ∉ name.toList := by
  induction middle with
  | nil =>
    have hstart := afterStart?_eq_some_iff.2 (rfl : "threads=".toList ++ first = _)
    rw [List.map_nil, List.nil_append, endsInThreads, hstart, Option.isSome_some, Bool.true_or]
    exact ⟨fun _ _ hn => absurd hn List.not_mem_nil, fun _ => rfl⟩
  | cons name middle ih =>
    have hname := hm name List.mem_cons_self
    -- a name has no equals sign, so the option does not end here yet
    have hstart : afterStart? "threads=".toList name.toList = none := by
      refine Option.eq_none_iff_forall_ne_some.2 fun rest hrest => ?_
      have heq : '=' ∈ name.toList := by
        rw [afterStart?_eq_some_iff.1 hrest]
        exact List.mem_append_left _ (by decide +kernel)
      exact absurd ((Key.isName_iff.1 hname).2 '=' heq) (by decide)
    rw [List.map_cons, List.cons_append, endsInThreads, hstart]
    simp only [Option.isSome_none, Bool.false_or, Bool.and_eq_true, decide_eq_true_eq,
      List.forall_mem_cons, all_isWord_iff hname,
      ih fun n hn => hm n (List.mem_cons_of_mem _ hn), (Key.isName_iff.1 hname).1, ne_eq,
      not_false_eq_true, true_and]

/-- The rules see a tight family option exactly where no name in the middle has a hyphen. -/
theorem assignsFamilyThreads_iff {family : String} (hf : family ∈ families) {middle : List String}
    (hk : (familyThreadsKey family middle).isWellFormed = true)
    (ht : Spells t (familyThreadsKey family middle)) :
    assignsFamilyThreads t = true ↔ ∀ name ∈ middle, '-' ∉ name.toList := by
  have hnames : ∀ name ∈ "tasks" :: family :: middle, Key.isName name = true := fun name hn =>
    Key.isWellFormed_iff.1 hk name (List.mem_append_left _ hn)
  have hdot : ∀ l ∈ ("tasks" :: family :: middle).map String.toList, '.' ∉ l := by
    intro l hl hd
    obtain ⟨name, hn, rfl⟩ := List.mem_map.1 hl
    exact absurd ((Key.isName_iff.1 (hnames name hn)).2 '.' hd) (by decide)
  obtain ⟨after, hafter⟩ := (spells_iff hk).1 ht
  have hno : '.' ∉ "threads=".toList := by decide +kernel
  obtain ⟨first, others, hlast⟩ := pieces_append hno after
  -- the last name of the key runs on into the value, up to the next full stop
  have hpieces : pieces '.' t.toList =
      ("tasks" :: family :: middle).map String.toList ++ ("threads=".toList ++ first) :: others := by
    have hjoin := pieces_join_append hdot "threads".toList ('=' :: after)
    have hthreads : "threads".toList ++ '=' :: after = "threads=".toList ++ after := by
      have hequals : "threads=".toList = "threads".toList ++ ['='] := by decide +kernel
      rw [hequals, List.append_assoc, List.singleton_append]
    rw [hthreads, hlast] at hjoin
    rw [hafter, Key.text_toList, ← hjoin, Key.names, familyThreadsKey, List.map_append]
    rfl
  have hfamily : (family.toList == "sieve".toList || family.toList == "polyselect".toList) = true := by
    rcases List.mem_cons.1 hf with rfl | hf
    · rw [beq_self_eq_true, Bool.true_or]
    · rw [List.mem_singleton.1 hf, beq_self_eq_true, Bool.or_true]
  rw [assignsFamilyThreads, hpieces]
  simp only [List.map_cons, List.cons_append, beq_self_eq_true, Bool.true_and, hfamily]
  exact endsInThreads_iff (fun n hn => hnames n (by simp [hn])) first others

/-! ## What gets past the flags -/

variable {files : FileSystem} {flags : NamedFlags} {tokens before after : List String}
  {token : String} {found : Found} {sorted : SortedTokens} {as : List (Key × String)}

/-- The key that the flag `--ell` assigns. -/
def ellKey : Key := ⟨[], "ell"⟩

/-- The option that `--ell` adds assigns nothing inside a namespace. -/
theorem not_assigns_ell (hk : k.path ≠ []) (ell : String) : ¬ Assigns ("ell=" ++ ell).toList k := by
  intro h
  have hell : ellKey.isWellFormed = true := by decide +kernel
  have hkey : keyPart ("ell=" ++ ell).toList = ellKey.text.toList := by
    have hspelled : ("ell=" ++ ell).toList = ellKey.text.toList ++ '=' :: ell.toList := by
      rw [String.toList_append]
      rfl
    rw [hspelled, keyPart_append (equals_not_mem_text hell)]
  obtain ⟨-, htrim, hwell⟩ := assigns_iff.1 h
  rw [hkey, Key.trim_text hell, String.toList_inj] at htrim
  have hsame : ellKey = k := by
    rw [← Key.ofText_text hell, ← Key.ofText_text hwell, htrim]
  exact hk (by rw [← hsame]; rfl)

/-- Where the rules see every tight spelling of a key that has no exception, only what is
spelled loosely and what is an exception gets through. -/
theorem assigned_iff_of_allows (hs : sortTokens files flags sortingRules tokens = .ok sorted)
    (ho : ofOptions sorted.options = .ok as) (hk : k.isWellFormed = true) (hpath : k.path ≠ [])
    {excepted : Prop} (hsees : ∀ t, flags.Allows t → Spells t k → excepted) :
    (∃ v, (k, v) ∈ as) ↔
      ∃ t ∈ sorted.options, SpellsLoosely t k ∨ (Spells t k ∧ excepted) := by
  rw [ofOptions_assigns_iff ho]
  constructor
  · intro h
    obtain ⟨t, ht, ha⟩ := h
    refine ⟨t, ht, ?_⟩
    rcases mem_options hs ht with hallows | ⟨ell, rfl⟩
    · rcases (assigns_iff_spells hk).1 ha with htight | hloose
      · exact .inr ⟨htight, hsees t hallows htight⟩
      · exact .inl hloose
    · exact absurd ha (not_assigns_ell hpath ell)
  · intro h
    obtain ⟨t, ht, hspells⟩ := h
    refine ⟨t, ht, (assigns_iff_spells hk).2 ?_⟩
    exact hspells.symm.imp_left And.left

theorem serverThreads_assigned_iff (hs : sortTokens files flags sortingRules tokens = .ok sorted)
    (ho : ofOptions sorted.options = .ok as) (hflag : flags.serverThreads = true) :
    (∃ v, (serverThreadsKey, v) ∈ as) ↔ ∃ t ∈ sorted.options, SpellsLoosely t serverThreadsKey := by
  have hsees : ∀ t, flags.Allows t → Spells t serverThreadsKey → False := by
    intro t hallows hspells
    have hserver := hallows.server hflag
    rw [assignsServerThreads_iff.2 hspells] at hserver
    exact absurd hserver (by simp)
  simpa using assigned_iff_of_allows hs ho (by decide +kernel) (by decide) hsees

theorem familyThreads_assigned_iff (hs : sortTokens files flags sortingRules tokens = .ok sorted)
    (ho : ofOptions sorted.options = .ok as) (hflag : flags.clientThreads = true) {family : String}
    (hf : family ∈ families) {middle : List String}
    (hk : (familyThreadsKey family middle).isWellFormed = true) :
    (∃ v, (familyThreadsKey family middle, v) ∈ as) ↔
      ∃ t ∈ sorted.options, SpellsLoosely t (familyThreadsKey family middle)
        ∨ (Spells t (familyThreadsKey family middle) ∧ ∃ name ∈ middle, '-' ∈ name.toList) := by
  refine assigned_iff_of_allows hs ho hk (by simp [familyThreadsKey]) fun t hallows hspells => ?_
  have h := hallows.family hflag
  by_contra hno
  push Not at hno
  rw [(assignsFamilyThreads_iff hf hk hspells).2 hno] at h
  exact absurd h (by simp)

/-- A token that the rule for options refuses is what the sorting ends with. -/
theorem sortTokens_refused {e : RunError}
    (hbefore : (Found.ofFlags flags).takeAll files flags sortingRules before = .ok found)
    (hrule : ruleFor? sortingRules (found.context files flags) token = some optionRule)
    (hrole : optionRule.role (found.context files flags) token = .error e) :
    sortTokens files flags sortingRules (before ++ token :: after) = .error e :=
  sortTokens_error hbefore (Found.take_error hrule hrole)

/-- A family's key is not the server's. -/
theorem not_assignsServerThreads {family : String} {middle : List String}
    (hk : (familyThreadsKey family middle).isWellFormed = true)
    (ht : Spells t (familyThreadsKey family middle)) : assignsServerThreads t = false := by
  rw [Bool.eq_false_iff]
  intro h
  have hsame := (assignsServerThreads_iff.1 h).2.symm.trans ht.2
  rw [String.toList_inj] at hsame
  have hkeys := congrArg Key.ofText hsame
  rw [Key.ofText_text (by decide +kernel), Key.ofText_text hk] at hkeys
  simp [serverThreadsKey, familyThreadsKey] at hkeys

/-- **What the thread flags rule out.** With a flag for the server's threads, the options
leave the server's key alone exactly when none of them spells it with blanks around it; with
a flag for the clients' threads, the same holds of every key of a family, however deep, and
besides no name in the middle of a tight key may have a hyphen. A tight key without such a
name is always refused as a conflict. -/
theorem thread_flags_hold_iff (files : FileSystem) (flags : NamedFlags) :
    (∀ tokens sorted as, sortTokens files flags sortingRules tokens = .ok sorted →
      ofOptions sorted.options = .ok as →
        (flags.serverThreads = true →
          ((∀ v, (serverThreadsKey, v) ∉ as) ↔
            ∀ t ∈ sorted.options, ¬ SpellsLoosely t serverThreadsKey))
        ∧ (flags.clientThreads = true → ∀ family ∈ families, ∀ middle,
            (familyThreadsKey family middle).isWellFormed = true →
              ((∀ v, (familyThreadsKey family middle, v) ∉ as) ↔
                ∀ t ∈ sorted.options, ¬ SpellsLoosely t (familyThreadsKey family middle)
                  ∧ (Spells t (familyThreadsKey family middle) →
                      ∀ name ∈ middle, '-' ∉ name.toList))))
    ∧ (∀ before token after found,
        (Found.ofFlags flags).takeAll files flags sortingRules before = .ok found →
        ruleFor? sortingRules (found.context files flags) token = some optionRule →
          (flags.serverThreads = true → Spells token serverThreadsKey →
            sortTokens files flags sortingRules (before ++ token :: after) =
              .error (.conflict (.serverThreads token)))
          ∧ (flags.clientThreads = true → ∀ family ∈ families, ∀ middle,
              (familyThreadsKey family middle).isWellFormed = true →
              (∀ name ∈ middle, '-' ∉ name.toList) →
              Spells token (familyThreadsKey family middle) →
                sortTokens files flags sortingRules (before ++ token :: after) =
                  .error (.conflict (.clientThreads token)))) := by
  refine ⟨fun tokens sorted as hs ho => ⟨fun hflag => ?_, fun hflag family hf middle hk => ?_⟩,
    fun before token after found hbefore hrule => ⟨fun hflag ht => ?_,
      fun hflag family hf middle hk hplain ht => ?_⟩⟩
  · have h := not_congr (serverThreads_assigned_iff hs ho hflag)
    simpa using h
  · have h := not_congr (familyThreads_assigned_iff hs ho hflag hf hk)
    simpa using h
  · refine sortTokens_refused hbefore hrule ?_
    have hsees := assignsServerThreads_iff.2 ht
    simp [optionRule, Found.context, hflag, hsees]
  · refine sortTokens_refused hbefore hrule ?_
    have hserver := not_assignsServerThreads hk ht
    have hsees := (assignsFamilyThreads_iff hf hk ht).2 hplain
    simp [optionRule, Found.context, hflag, hserver, hsees]

/-- Both thread flags. -/
def bothThreadFlags : NamedFlags := { serverThreads := true, clientThreads := true }

/-- A tight option is refused after one that is none of the flags' business. -/
theorem tight_option_refused :
    sortTokens ⟨[], []⟩ bothThreadFlags sortingRules ["name=c5", "tasks.threads=8"] =
        .error (.conflict (.serverThreads "tasks.threads=8"))
      ∧ ∀ v, (serverThreadsKey, v) ∉ [(⟨[], "name"⟩, "c5")] := by
  have h := thread_flags_hold_iff ⟨[], []⟩ bothThreadFlags
  refine ⟨((h.2 ["name=c5"] "tasks.threads=8" [] ⟨[], [], [], ["name=c5"]⟩ rfl rfl).1 rfl ?_), ?_⟩
  · exact assignsServerThreads_iff.1 (by decide +kernel)
  · refine ((h.1 ["name=c5"] ⟨none, none, none, ["name=c5"]⟩ _ rfl rfl).1 rfl).2 ?_
    intro t ht
    rw [List.mem_singleton.1 ht]
    exact fun hloose => absurd hloose.2.1 (by decide +kernel)

/-- A blank before the equals sign, or a hyphen in the middle, and both flags are passed by. -/
theorem loose_options_assigned :
    sortTokens ⟨[], []⟩ bothThreadFlags sortingRules
        ["tasks.threads =8", "tasks.sieve.las-2.threads=8"] =
          .ok ⟨none, none, none, ["tasks.threads =8", "tasks.sieve.las-2.threads=8"]⟩
      ∧ ofOptions ["tasks.threads =8", "tasks.sieve.las-2.threads=8"] =
          .ok [(serverThreadsKey, "8"), (familyThreadsKey "sieve" ["las-2"], "8")] := by
  decide +kernel

end SieveRun
