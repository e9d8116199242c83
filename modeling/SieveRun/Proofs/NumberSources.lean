import SieveRun.Proofs.Independence
import SieveRun.Proofs.Inputs

/-!
# One number from two sources

The number may be given or left to the parameter file, and the two ways should come to the
same where the file records the number that is given. They are told apart by the key: a file
is asked for its number at the number's own key, and whether it agrees with a given number is
asked at the key of the tasks, where that number is seen too. So a file may record a number
for the tasks that one way never looks at, and that is all the other one has to go by
(`given_number_agrees_iff`).

What comes after the decision ignores how the number is spelled, so the rest of the inputs and
of the session is the same both ways.
-/

namespace SieveRun

open Stage Hierarchy Assignment

variable {s s' : Session} {sorted : SortedTokens} {defaults : ShippedFiles}
  {surroundings : Surroundings} {file : Path} {isDefault : Bool} {n : Number}
  {as : List (Key × String)}

/-! ## A given number -/

theorem answers_agreeWithFile {h : Hierarchy} {files : FileSystem} (file : Path)
    (hall : ∀ v, h.get? taskNumberKey = some v → Number.ofText? v = some n) :
    Answers (agreeWithFile n file) h files () := by
  refine (answers_read? taskNumberKey).bind ?_
  cases hv : h.get? taskNumberKey with
  | none => exact answers_pure ()
  | some v =>
    dsimp only
    rw [if_pos (hall v hv)]
    exact answers_pure ()

/-- The file to be read for a number: the one that is named, else a shipped one. -/
def fileFor? (named : Option Path) (defaults : ShippedFiles) (files : FileSystem) (n : Number) :
    Option (Path × Bool) :=
  match named with
  | some file => some (file, false)
  | none => (defaults.firstFile? files n).map fun file => (file, true)

theorem answers_find {h : Hierarchy} {files : FileSystem}
    (hfind : defaults.firstFile? files n = some file) :
    Answers (defaults.find n) h files file := by
  refine (answers_note _).bind (answers_get_bind fun s _ hs => ?_)
  rw [hs, hfind]
  exact (answers_note _).bind (answers_pure file)

theorem answers_fileFor {named : Option Path} {h : Hierarchy} {files : FileSystem}
    (hfile : fileFor? named defaults files n = some (file, isDefault)) :
    Answers (fileFor named defaults n) h files (file, isDefault) := by
  cases named with
  | some f =>
    obtain ⟨rfl, rfl⟩ := Prod.mk.inj (Option.some.inj hfile)
    exact answers_pure _
  | none =>
    obtain ⟨f, hfind, hr⟩ := Option.map_eq_some_iff.1 hfile
    obtain ⟨rfl, rfl⟩ := Prod.mk.inj hr
    exact (answers_find hfind).bind (answers_pure _)

/-- A file that goes with a given number is merged, and the number is stored. -/
theorem takes_withNumber {named : Option Path} (defaults : ShippedFiles)
    (hfile : fileFor? named defaults s.files n = some (file, isDefault))
    (hread : assignmentsIn s.files file = .ok as)
    (hall : ∀ v, (s.params.setAll as).get? taskNumberKey = some v → Number.ofText? v = some n) :
    Takes (withNumber n named defaults) s.params s.files (n, file, isDefault)
      ((s.params.setAll as).set numberKey n.text) := by
  refine (answers_fileFor hfile).takes.bind ((takes_mergeFile hread).bind ?_)
  refine (answers_agreeWithFile file hall).takes.bind ?_
  exact (takes_store numberKey n.text).bind (answers_pure _).takes

theorem withNumber_named (n : Number) (file : Path) (defaults : ShippedFiles) :
    withNumber n (some file) defaults =
      (mergeFile file >>= fun _ => agreeWithFile n file >>= fun _ =>
        store numberKey n.text >>= fun _ => pure (n, file, false)) := rfl

theorem withNumber_named_ok {r : Number × Path × Bool}
    (h : (withNumber n (some file) defaults).runOn s = (.ok r, s')) :
    ∃ as events, assignmentsIn s.files file = .ok as
      ∧ (∀ v, (s.params.setAll as).get? taskNumberKey = some v → Number.ofText? v = some n)
      ∧ r = (n, file, false)
      ∧ s' = (s.withParams ((s.params.setAll as).set numberKey n.text)).noting events := by
  rw [withNumber_named] at h
  obtain ⟨⟨⟩, s₁, hmerge, h⟩ := bind_ok h
  obtain ⟨⟨⟩, s₂, hagree, h⟩ := bind_ok h
  obtain ⟨as, events, has, rfl⟩ := mergeFile_ok hmerge
  obtain ⟨hall, more, rfl⟩ := agreeWithFile_ok hagree
  rw [runOn_bind_of_ok (runOn_store _ _ _)] at h
  obtain ⟨rfl, rfl⟩ := pure_ok h
  refine ⟨as, events ++ more ++ [.stored numberKey.text n.text], has, hall, rfl, ?_⟩
  simp

/-! ## Both ways -/

/-- The sorted tokens with this number, or none. -/
def SortedTokens.withNumber (sorted : SortedTokens) (number : Option Number) : SortedTokens :=
  { sorted with number }

theorem decideNumber_withNumber_some (sorted : SortedTokens) (defaults : ShippedFiles)
    (hn : n.isZero = false) :
    decideNumber (sorted.withNumber (some n)) defaults =
      withNumber n sorted.parameters defaults := by
  rw [decideNumber, SortedTokens.withNumber, Option.filter_some, hn]
  rfl

/-- The sorted tokens with this file and this number, if any. -/
def SortedTokens.naming (sorted : SortedTokens) (number : Option Number) (file : Path) :
    SortedTokens :=
  { sorted with number, parameters := some file }

theorem decideNumber_naming_none (sorted : SortedTokens) (file : Path) (defaults : ShippedFiles) :
    decideNumber (sorted.naming none file) defaults = numberFromFile file := rfl

theorem decideNumber_naming_some (sorted : SortedTokens) (file : Path) (defaults : ShippedFiles)
    (hn : n.isZero = false) :
    decideNumber (sorted.naming (some n) file) defaults = withNumber n (some file) defaults :=
  decideNumber_withNumber_some { sorted with parameters := some file } defaults hn

/-- The file supplies the number. -/
theorem decideInputs_naming_none_ok {inputs : DecidedInputs}
    (h : (decideInputs (sorted.naming none file) defaults surroundings).runOn s =
      (.ok inputs, s')) :
    ∃ as events, assignmentsIn s.files file = .ok as
      ∧ ((s.params.setAll as).value? numberKey).bind Number.ofText? = some inputs.number
      ∧ inputs.number.isZero = false
      ∧ (decideNumber (sorted.naming none file) defaults).runOn s =
          (.ok (inputs.number, file, false),
            (s.withParams (s.params.setAll as)).noting events) := by
  obtain ⟨⟨n, rest⟩, s₁, hnumber, h⟩ := bind_ok h
  obtain ⟨w, s₂, -, h⟩ := bind_ok h
  obtain ⟨rfl, -⟩ := pure_ok h
  obtain ⟨as, events, has, hvalue, hzero, rfl, rfl⟩ := numberFromFile_ok hnumber
  exact ⟨as, events, has, hvalue, hzero, hnumber⟩

/-- The number is given. -/
theorem decideInputs_naming_some_ok {inputs : DecidedInputs} (hn : n.isZero = false)
    (h : (decideInputs (sorted.naming (some n) file) defaults surroundings).runOn s =
      (.ok inputs, s')) :
    ∃ as events, assignmentsIn s.files file = .ok as
      ∧ (∀ v, (s.params.setAll as).get? taskNumberKey = some v → Number.ofText? v = some n)
      ∧ inputs.number = n
      ∧ (decideNumber (sorted.naming (some n) file) defaults).runOn s =
          (.ok (n, file, false),
            (s.withParams ((s.params.setAll as).set numberKey n.text)).noting events) := by
  obtain ⟨r, s₁, hnumber, h⟩ := bind_ok h
  obtain ⟨w, s₂, -, h⟩ := bind_ok h
  obtain ⟨rfl, -⟩ := pure_ok h
  have hgiven := hnumber
  rw [decideNumber_naming_some sorted file defaults hn] at hgiven
  obtain ⟨as, events, has, hall, rfl, rfl⟩ := withNumber_named_ok hgiven
  exact ⟨as, events, has, hall, rfl, hnumber⟩

theorem sameBut_set (s : Session) (h : Hierarchy) (k : Key) (v : String)
    (events more : List Event) :
    SameBut (· = k) ((s.withParams h).noting events) ((s.withParams (h.set k v)).noting more) :=
  ⟨fun _ hk => value?_set_ne _ _ hk, rfl, rfl⟩

/-- Parameters that hold no number hold what the file records, and where the file records none
for the tasks, they see the number itself. -/
theorem taskNumber_agrees_iff (hnumber : s.params.value? numberKey = none)
    (htask : s.params.value? taskNumberKey = none)
    (hvalue : (last? numberKey as).bind Number.ofText? = some n) :
    (∀ v, (s.params.setAll as).get? taskNumberKey = some v → Number.ofText? v = some n) ↔
      ∀ v, last? taskNumberKey as = some v → Number.ofText? v = some n := by
  rw [get?_taskNumberKey, value?_setAll, value?_setAll, hnumber, htask, Option.or_none,
    Option.or_none]
  cases last? taskNumberKey as with
  | some v => rw [Option.some_or]
  | none =>
    rw [Option.none_or]
    refine ⟨fun _ v hv => absurd hv (by simp), fun _ v hv => ?_⟩
    rwa [hv, Option.bind_some] at hvalue

/-- What follows the decision on the number is the same after both. -/
theorem decideInputs_sameBut {first second : SortedTokens} {inputs : DecidedInputs}
    {s₁ t₁ : Session} {r : Number × Path × Bool}
    (hfirst : (decideNumber first defaults).runOn s = (.ok r, s₁))
    (hsecond : (decideNumber second defaults).runOn s = (.ok r, t₁))
    (hsame : SameBut (· = numberKey) s₁ t₁)
    (h : (decideInputs first defaults surroundings).runOn s = (.ok inputs, s'))
    (hworkdir : first.workdir = second.workdir) :
    ∃ t, (decideInputs second defaults surroundings).runOn s = (.ok inputs, t)
      ∧ SameBut (· = numberKey) s' t := by
  rw [decideInputs, runOn_bind_of_ok hfirst] at h
  obtain ⟨w, s₂, hdecide, h⟩ := bind_ok h
  obtain ⟨rfl, rfl⟩ := pure_ok h
  rw [hworkdir] at hdecide
  obtain ⟨t, hdecide', hsame'⟩ :=
    (ignores_decideWorkdir second.workdir surroundings (by decide)).run hsame hdecide
  exact ⟨t, (runOn_bind_of_ok hsecond).trans (runOn_bind_of_ok hdecide'), hsame'⟩

/-- **When the two ways to supply the number agree.** The file is read into parameters that
hold no number yet. If it supplies the number, giving that number comes to the same exactly
when the last number that the file records for the tasks, if any, is this one too. If the
number is given and the file does not stand against it, leaving it to the file comes to the
same exactly when the file records it at the number's own key. -/
theorem given_number_agrees_iff (sorted : SortedTokens) (file : Path) (defaults : ShippedFiles)
    (surroundings : Surroundings) (hnumber : s.params.value? numberKey = none)
    (htask : s.params.value? taskNumberKey = none) :
    (∀ inputs s',
      (decideInputs (sorted.naming none file) defaults surroundings).runOn s = (.ok inputs, s') →
      ∃ as, assignmentsIn s.files file = .ok as
        ∧ ((∃ t, (decideInputs (sorted.naming (some inputs.number) file) defaults
                surroundings).runOn s = (.ok inputs, t) ∧ SameBut (· = numberKey) s' t) ↔
            ∀ v, last? taskNumberKey as = some v → Number.ofText? v = some inputs.number))
    ∧ ∀ n inputs s', n.isZero = false →
      (decideInputs (sorted.naming (some n) file) defaults surroundings).runOn s =
        (.ok inputs, s') →
      ∃ as, assignmentsIn s.files file = .ok as
        ∧ ((∃ t, (decideInputs (sorted.naming none file) defaults surroundings).runOn s =
              (.ok inputs, t) ∧ SameBut (· = numberKey) s' t) ↔
            (last? numberKey as).bind Number.ofText? = some n) := by
  have hread : ∀ as, (s.params.setAll as).value? numberKey = last? numberKey as := fun as => by
    rw [value?_setAll, hnumber, Option.or_none]
  constructor
  · intro inputs s' h
    obtain ⟨as, events, has, hvalue, hzero, hnone⟩ := decideInputs_naming_none_ok h
    rw [hread] at hvalue
    have hagrees := taskNumber_agrees_iff hnumber htask hvalue
    refine ⟨as, has, ?_, ?_⟩
    · rintro ⟨t, hgiven, -⟩
      obtain ⟨as', _, has', hall, -⟩ := decideInputs_naming_some_ok hzero hgiven
      obtain rfl := Except.ok.inj (has.symm.trans has')
      exact hagrees.1 hall
    · intro hall
      have hfile : fileFor? (some file) defaults s.files inputs.number = some (file, false) := rfl
      obtain ⟨more, hgiven⟩ := takes_withNumber defaults hfile has (hagrees.2 hall) s rfl rfl
      rw [← decideNumber_naming_some sorted file defaults hzero] at hgiven
      exact decideInputs_sameBut hnone hgiven (sameBut_set _ _ _ _ _ _) h rfl
  · intro n inputs s' hzero h
    obtain ⟨as, events, has, hall, rfl, hgiven⟩ := decideInputs_naming_some_ok hzero h
    refine ⟨as, has, ?_, ?_⟩
    · rintro ⟨t, hnone, -⟩
      obtain ⟨as', _, has', hvalue, -⟩ := decideInputs_naming_none_ok hnone
      obtain rfl := Except.ok.inj (has.symm.trans has')
      rwa [hread] at hvalue
    · intro hvalue
      rw [← hread] at hvalue
      obtain ⟨more, hnone⟩ := runOn_numberFromFile has hvalue hzero
      rw [← decideNumber_naming_none sorted file defaults] at hnone
      exact decideInputs_sameBut hgiven hnone (sameBut_set _ _ _ _ _ _).symm h rfl

/-- A directory to work in, and a parameter file with this text. -/
def sessionOn (text : String) : Session :=
  .ofFiles ⟨[([Text.utf8 "f"], .file (Text.utf8 text)), ([Text.utf8 "w"], .directory)], []⟩

/-- A decision on the parameter file and a number, if any. -/
def decisionFor (number : Option Number) (text : String) :
    Except RunError DecidedInputs × Session :=
  (decideInputs (SortedTokens.naming { workdir := some (.ofText "/w") } number (.ofText "/f"))
    ⟨.ofText "/data", .factoring, 0⟩ {}).runOn (sessionOn text)

/-- The file records the number twice, in two spellings: it may be left to the file, then be
given, and then be left to the file again. -/
theorem recorded_number_agrees :
    ∃ inputs s' t, decisionFor none "N = 05\ntasks.N = 5\n" = (.ok inputs, s')
      ∧ inputs.number = ⟨5⟩
      ∧ decisionFor (some ⟨5⟩) "N = 05\ntasks.N = 5\n" = (.ok inputs, t)
      ∧ SameBut (· = numberKey) s' t ∧ SameBut (· = numberKey) t s' := by
  have htest : passes (decisionFor none "N = 05\ntasks.N = 5\n") (fun inputs =>
      decide (inputs.number = ⟨5⟩)) = true := by decide +kernel
  obtain ⟨inputs, s', hrun, hinputs⟩ := exists_ok_of_passes htest
  have hnumber := of_decide_eq_true hinputs
  obtain ⟨hnone, hgiven⟩ := given_number_agrees_iff (s := sessionOn "N = 05\ntasks.N = 5\n")
    { workdir := some (.ofText "/w") } (.ofText "/f") ⟨.ofText "/data", .factoring, 0⟩ {} rfl rfl
  have hassigned : assignmentsIn (sessionOn "N = 05\ntasks.N = 5\n").files (.ofText "/f") =
      .ok [(numberKey, "05"), (taskNumberKey, "5")] := by decide +kernel
  obtain ⟨as, has, hiff⟩ := hnone inputs s' hrun
  obtain rfl := Except.ok.inj (has.symm.trans hassigned)
  obtain ⟨t, hgivenRun, hsame⟩ := hiff.2 (by rw [hnumber]; decide +kernel)
  rw [hnumber] at hgivenRun
  obtain ⟨as, has, hiff⟩ := hgiven ⟨5⟩ inputs t rfl hgivenRun
  obtain rfl := Except.ok.inj (has.symm.trans hassigned)
  obtain ⟨u, hagain, hback⟩ := hiff.2 (by decide +kernel)
  obtain rfl : u = s' := (Prod.mk.inj (hagain.symm.trans hrun)).2
  exact ⟨inputs, u, t, hrun, hnumber, hgivenRun, hsame, hback⟩

/-- A file that records another number for the tasks supplies its number, and refuses the
same number when it is given; a file that records the number for the tasks alone goes with it
when it is given, and does not supply it. -/
theorem number_sources_differ :
    passes (decisionFor none "N = 5\ntasks.N = 7\n") (fun inputs => inputs.number == ⟨5⟩) = true
      ∧ (decisionFor (some ⟨5⟩) "N = 5\ntasks.N = 7\n").1 =
          .error (.disagreement (.number ⟨5⟩ "7" (.ofText "/f")))
      ∧ passes (decisionFor (some ⟨5⟩) "tasks.N = 5\n") (fun inputs => inputs.number == ⟨5⟩) = true
      ∧ (decisionFor (some ⟨5⟩) "tasks.N = 5\n").2.params.get? taskNumberKey = some "5"
      ∧ (decisionFor none "tasks.N = 5\n").1 = .error (.noNumber (.notDefined (.ofText "/f"))) := by
  decide +kernel

end SieveRun
