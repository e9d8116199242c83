import SieveRun.CommandLine.Parser
import SieveRun.Proofs.Cutting
import SieveRun.Proofs.Spelling

/-!
# Long names after a single dash

Three of the long names may follow one dash as well as two, alone or with a value attached
(`IsLongForm`). Before a command line is read, the arguments with one dash are respelt with two.
Each argument is respelt in its place and on its own, as long as none has ended the flags
(`getElem?_withTwoDashes`). It either is one of these names with one dash, and gets another dash, or
it is kept (`respelt_oneDash`, `respelt_of_ne`).

A respelt argument has two dashes and is not respelt again, nor does it end the flags. So respelling
twice is respelling once, and arguments that differ only in the dashes of such names are respelt to
the same ones (`Respelt.withTwoDashes_eq`), which is all that the reader sees of them.
-/

namespace SieveRun

open Text

variable {arg arg' : Argument} {args args' : List Argument} {body : String} {i : Nat}

/-! ## One argument -/

/-- What follows the dashes of a name that may have one or two: the name, alone or with a value
attached. -/
def IsLongForm (body : String) : Prop :=
  ∃ name ∈ singleDashNames, body = name ∨ ∃ value, body = name ++ "=" ++ value

/-- The argument with one dash. -/
def oneDash (body : String) : Argument := utf8 ("-" ++ body)

/-- The argument with two dashes. -/
def twoDashes (body : String) : Argument := utf8 ("--" ++ body)

theorem oneDash_eq (body : String) : oneDash body = dash :: utf8 body := utf8_append "-" body

theorem twoDashes_eq (body : String) : twoDashes body = dash :: oneDash body := by
  rw [oneDash_eq]
  exact utf8_append "--" body

/-- What follows the dashes begins with another character. -/
theorem IsLongForm.exists_cons (h : IsLongForm body) :
    ∃ b bs, utf8 body = b :: bs ∧ b ≠ dash := by
  have hnames : ∀ name ∈ singleDashNames, utf8 name ≠ [] ∧ (utf8 name).head? ≠ some dash := by
    decide +kernel
  obtain ⟨name, hmem, hbody⟩ := h
  obtain ⟨hne, hhead⟩ := hnames name hmem
  obtain ⟨b, bs, hbytes⟩ := List.exists_cons_of_ne_nil hne
  have hb : b ≠ dash := fun hdash => hhead (by rw [hbytes, hdash]; rfl)
  rcases hbody with rfl | ⟨value, rfl⟩
  · exact ⟨b, bs, hbytes, hb⟩
  · rw [String.append_assoc, utf8_append, hbytes]
    exact ⟨b, _, rfl, hb⟩

/-- An argument is respelt where it is text and spells one of the names with one dash. -/
theorem isSingleDash_iff :
    isSingleDash arg = true ↔ ∃ body, IsLongForm body ∧ arg = oneDash body := by
  rw [isSingleDash, Bool.and_eq_true, List.any_eq_true]
  constructor
  · rintro ⟨htext, name, hname, hrest⟩
    obtain ⟨t, ht⟩ := Option.isSome_iff_exists.1 htext
    split at hrest
    · -- nothing follows the name
      rename_i hafter
      rw [afterStart?_eq_some_iff, List.append_nil] at hafter
      exact ⟨name, ⟨name, hname, .inl rfl⟩, by rw [oneDash_eq, hafter]⟩
    · rename_i b bs hafter
      obtain rfl := eq_of_beq hrest
      rw [afterStart?_eq_some_iff] at hafter
      -- the bytes behind the equals sign are text because all of the argument is
      have hall : IsText (dash :: utf8 name ++ equalsSign :: bs) :=
        ⟨t, by rw [← hafter, eq_utf8_of_utf8? ht]⟩
      obtain ⟨value, rfl⟩ := ((isText_append_cons_iff (by decide)).1 hall).2
      refine ⟨name ++ "=" ++ value, ⟨name, hname, .inr ⟨value, rfl⟩⟩, ?_⟩
      rw [hafter, oneDash_eq, utf8_append, utf8_append, List.append_assoc]
      rfl
    · exact absurd hrest (by simp)
  · rintro ⟨body, ⟨name, hname, hbody⟩, rfl⟩
    refine ⟨by rw [oneDash, utf8?_utf8]; rfl, name, hname, ?_⟩
    rw [oneDash_eq]
    rcases hbody with rfl | ⟨value, rfl⟩
    · rw [afterStart?_eq_some_iff.2 (List.append_nil _).symm]
    · have hafter : dash :: utf8 (name ++ "=" ++ value) =
          (dash :: utf8 name) ++ equalsSign :: utf8 value := by
        rw [utf8_append, utf8_append, List.append_assoc]
        rfl
      rw [afterStart?_eq_some_iff.2 hafter]
      rfl

/-- An argument as it is read, before the end of the flags. -/
def respelt (arg : Argument) : Argument := if isSingleDash arg then dash :: arg else arg

theorem respelt_oneDash (h : IsLongForm body) : respelt (oneDash body) = twoDashes body := by
  rw [respelt, if_pos (isSingleDash_iff.2 ⟨body, h, rfl⟩), twoDashes_eq]

/-- Nothing else is respelt. -/
theorem respelt_of_ne (h : ∀ body, IsLongForm body → arg ≠ oneDash body) : respelt arg = arg := by
  rw [respelt, if_neg]
  intro hsingle
  obtain ⟨body, hbody, harg⟩ := isSingleDash_iff.1 hsingle
  exact h body hbody harg

theorem twoDashes_ne_oneDash {body' : String} (h : IsLongForm body') :
    twoDashes body ≠ oneDash body' := by
  intro heq
  obtain ⟨b, bs, hbytes, hb⟩ := h.exists_cons
  rw [twoDashes_eq, oneDash_eq, oneDash_eq, hbytes] at heq
  exact hb (List.cons.inj (List.cons.inj heq).2).1.symm

theorem respelt_twoDashes (body : String) : respelt (twoDashes body) = twoDashes body :=
  respelt_of_ne fun _ h => twoDashes_ne_oneDash h

theorem respelt_cases (arg : Argument) :
    respelt arg = arg
      ∨ ∃ body, IsLongForm body ∧ arg = oneDash body ∧ respelt arg = twoDashes body := by
  by_cases h : isSingleDash arg = true
  · obtain ⟨body, hbody, rfl⟩ := isSingleDash_iff.1 h
    exact .inr ⟨body, hbody, rfl, respelt_oneDash hbody⟩
  · exact .inl (by rw [respelt, if_neg h])

theorem respelt_respelt (arg : Argument) : respelt (respelt arg) = respelt arg := by
  rcases respelt_cases arg with h | ⟨body, -, -, h⟩
  · rw [h, h]
  · rw [h, respelt_twoDashes]

theorem oneDash_ne_endOfFlags (h : IsLongForm body) : oneDash body ≠ endOfFlags := by
  intro heq
  obtain ⟨b, bs, hbytes, hb⟩ := h.exists_cons
  rw [oneDash_eq, hbytes] at heq
  exact hb (List.cons.inj (List.cons.inj heq).2).1

theorem twoDashes_ne_endOfFlags (h : IsLongForm body) : twoDashes body ≠ endOfFlags := by
  intro heq
  obtain ⟨b, bs, hbytes, -⟩ := h.exists_cons
  rw [twoDashes_eq, oneDash_eq, hbytes] at heq
  exact absurd (congrArg List.length heq) (by simp [endOfFlags])

theorem respelt_ne_endOfFlags (h : arg ≠ endOfFlags) : respelt arg ≠ endOfFlags := by
  rcases respelt_cases arg with hself | ⟨body, hbody, -, hrespelt⟩
  · rwa [hself]
  · rw [hrespelt]
    exact twoDashes_ne_endOfFlags hbody

/-! ## All arguments -/

theorem withTwoDashes_cons (h : arg ≠ endOfFlags) (args : List Argument) :
    withTwoDashes (arg :: args) = respelt arg :: withTwoDashes args := by
  rw [withTwoDashes, if_neg h]
  rfl

theorem withTwoDashes_endOfFlags (args : List Argument) :
    withTwoDashes (endOfFlags :: args) = endOfFlags :: args := by
  rw [withTwoDashes, if_pos rfl]

theorem length_withTwoDashes (args : List Argument) :
    (withTwoDashes args).length = args.length := by
  induction args with
  | nil => rfl
  | cons arg args ih =>
    by_cases h : arg = endOfFlags
    · rw [h, withTwoDashes_endOfFlags]
    · rw [withTwoDashes_cons h, List.length_cons, ih, List.length_cons]

/-- Every argument is respelt in its place, up to the end of the flags. -/
theorem getElem?_withTwoDashes (args : List Argument) (i : Nat) :
    (withTwoDashes args)[i]? =
      if endOfFlags ∈ args.take (i + 1) then args[i]? else args[i]?.map respelt := by
  induction args generalizing i with
  | nil => rfl
  | cons arg args ih =>
    by_cases h : arg = endOfFlags
    · rw [h, withTwoDashes_endOfFlags, if_pos (by simp)]
    · rw [withTwoDashes_cons h]
      cases i with
      | zero => simp [Ne.symm h]
      | succ i =>
        rw [List.getElem?_cons_succ, List.getElem?_cons_succ, ih]
        simp [Ne.symm h]

theorem withTwoDashes_withTwoDashes (args : List Argument) :
    withTwoDashes (withTwoDashes args) = withTwoDashes args := by
  induction args with
  | nil => rfl
  | cons arg args ih =>
    by_cases h : arg = endOfFlags
    · rw [h, withTwoDashes_endOfFlags, withTwoDashes_endOfFlags]
    · rw [withTwoDashes_cons h, withTwoDashes_cons (respelt_ne_endOfFlags h), respelt_respelt, ih]

/-- Two lists of arguments that differ, before the end of the flags, in nothing but whether the
names that may have one dash or two have one or two. -/
inductive Respelt : List Argument → List Argument → Prop
  | nil : Respelt [] []
  | ended (rest : List Argument) : Respelt (endOfFlags :: rest) (endOfFlags :: rest)
  | same {args args' : List Argument} (arg : Argument) : arg ≠ endOfFlags → Respelt args args' →
      Respelt (arg :: args) (arg :: args')
  | dashes {arg arg' : Argument} {args args' : List Argument} {body : String} : IsLongForm body →
      arg ∈ [oneDash body, twoDashes body] → arg' ∈ [oneDash body, twoDashes body] →
      Respelt args args' → Respelt (arg :: args) (arg' :: args')

theorem withTwoDashes_cons_of_isLongForm (h : IsLongForm body)
    (harg : arg ∈ [oneDash body, twoDashes body]) (args : List Argument) :
    withTwoDashes (arg :: args) = twoDashes body :: withTwoDashes args := by
  rcases List.mem_pair.1 harg with rfl | rfl
  · rw [withTwoDashes_cons (oneDash_ne_endOfFlags h), respelt_oneDash h]
  · rw [withTwoDashes_cons (twoDashes_ne_endOfFlags h), respelt_twoDashes]

theorem Respelt.withTwoDashes_eq (h : Respelt args args') :
    withTwoDashes args = withTwoDashes args' := by
  induction h with
  | nil => rfl
  | ended => rfl
  | same arg hne _ ih => rw [withTwoDashes_cons hne, withTwoDashes_cons hne, ih]
  | dashes hbody harg harg' _ ih =>
    rw [withTwoDashes_cons_of_isLongForm hbody harg,
      withTwoDashes_cons_of_isLongForm hbody harg', ih]

/-! ## What is read

The name of the program is the first argument of a whole argument vector, and respelling goes over
it like over any other; the reader then drops it. -/

/-- Read a whole argument vector, the name of the program first. -/
def Invocation.ofVector (vector : List Argument) : Except UsageError Invocation :=
  ofTwoDashes (withTwoDashes vector).tail

/-- Unless the name of the program ends the flags, a vector is read like the arguments behind it. -/
theorem Invocation.ofVector_cons {name : Argument} (h : name ≠ endOfFlags) (args : List Argument) :
    ofVector (name :: args) = ofArguments args := by
  rw [ofVector, withTwoDashes_cons h, List.tail_cons, ofArguments]

/-- An argument stays as it is from the end of the flags on, if it is not text, and if it does not
spell one of the names with one dash. -/
theorem getElem?_withTwoDashes_of_kept (h : args[i]? = some arg)
    (hkept : endOfFlags ∈ args.take (i + 1) ∨ utf8? arg = none ∨
      ∀ body, IsLongForm body → arg ≠ oneDash body) :
    (withTwoDashes args)[i]? = some arg := by
  rw [getElem?_withTwoDashes]
  split
  · exact h
  · rename_i hflags
    rw [h, Option.map_some, Option.some_inj]
    refine respelt_of_ne ?_
    rcases hkept with hend | hbytes | hother
    · exact absurd hend hflags
    · rintro body - rfl
      rw [oneDash, utf8?_utf8] at hbytes
      exact Option.some_ne_none _ hbytes
    · exact hother

theorem getElem?_withTwoDashes_of_isLongForm (h : args[i]? = some (oneDash body))
    (hbody : IsLongForm body) (hflags : endOfFlags ∉ args.take i) :
    (withTwoDashes args)[i]? = some (twoDashes body) := by
  rw [getElem?_withTwoDashes, if_neg, h, Option.map_some, respelt_oneDash hbody]
  rw [List.take_add_one, h, List.mem_append]
  rintro (hmem | hmem)
  · exact hflags hmem
  · exact oneDash_ne_endOfFlags hbody (List.mem_singleton.1 hmem).symm

/-- **One dash is an alias of two.** Respelling keeps the number and the order of the arguments; it
keeps those from the end of the flags on, those that are not text and those that do not spell one of
the names with one dash, and it gives the others two dashes and keeps what follows; it does nothing
a second time. So argument vectors that differ in such dashes only are answered alike. -/
theorem single_dashes_are_aliases (args : List Argument) :
    (withTwoDashes args).length = args.length ∧
    (∀ (i : Nat) (arg : Argument), args[i]? = some arg →
      endOfFlags ∈ args.take (i + 1) ∨ utf8? arg = none ∨
        (∀ body, IsLongForm body → arg ≠ oneDash body) →
      (withTwoDashes args)[i]? = some arg) ∧
    (∀ (i : Nat) (body : String), args[i]? = some (oneDash body) → IsLongForm body →
      endOfFlags ∉ args.take i → (withTwoDashes args)[i]? = some (twoDashes body)) ∧
    withTwoDashes (withTwoDashes args) = withTwoDashes args ∧
    ∀ args', Respelt args args' →
      Invocation.ofVector args = Invocation.ofVector args' ∧
      Invocation.ofArguments args = Invocation.ofArguments args' := by
  refine ⟨length_withTwoDashes args, fun i arg => getElem?_withTwoDashes_of_kept,
    fun i body => getElem?_withTwoDashes_of_isLongForm, withTwoDashes_withTwoDashes args, ?_⟩
  intro args' h
  rw [Invocation.ofVector, Invocation.ofVector, Invocation.ofArguments, Invocation.ofArguments,
    h.withTwoDashes_eq]
  exact ⟨rfl, rfl⟩

/-- A vector whose attached value looks like the end of the flags, and whose last argument comes
after that end. -/
def dashedVector : List Argument :=
  [utf8 "cado-toplevel", oneDash "dlp", oneDash "ell=--", endOfFlags, oneDash "gfpext"]

theorem dashedVector_read :
    (withTwoDashes dashedVector)[2]? = some (twoDashes "ell=--") ∧
    (withTwoDashes dashedVector)[4]? = some (oneDash "gfpext") ∧
    Invocation.ofVector dashedVector =
      Invocation.ofVector
        [utf8 "cado-toplevel", twoDashes "dlp", oneDash "ell=--", endOfFlags, oneDash "gfpext"] ∧
    Invocation.ofVector dashedVector =
      .ok { discreteLog := true, ell := some "--", tokens := ["-gfpext"] } := by
  have hdlp : IsLongForm "dlp" := ⟨"dlp", by decide, .inl rfl⟩
  have hell : IsLongForm "ell=--" := ⟨"ell", by decide, .inr ⟨"--", rfl⟩⟩
  have hname : utf8 "cado-toplevel" ≠ endOfFlags := by decide +kernel
  have hell' : oneDash "ell=--" ≠ endOfFlags := oneDash_ne_endOfFlags hell
  obtain ⟨-, hkept, hrespelt, -, halias⟩ := single_dashes_are_aliases dashedVector
  refine ⟨hrespelt 2 "ell=--" rfl hell (by decide +kernel),
    hkept 4 _ rfl (.inl (by decide +kernel)), (halias _ ?_).1,
    (Invocation.ofVector_cons hname _).trans (by decide +kernel)⟩
  exact .same _ hname (.dashes hdlp (by simp) (by simp) (.same _ hell' (.ended _)))

end SieveRun
