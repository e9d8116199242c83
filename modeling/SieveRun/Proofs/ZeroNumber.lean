import SieveRun.Proofs.NumberSources

/-!
# Zero, wherever it comes from

Zero is a spelling of "no number". A zero that is given is dropped before anything else is
decided, so it makes no difference at all. A zero that a file records is dropped where the file
has to supply the number, and the file is refused as one that supplies none. Where the number is
given, the number that the file records is only compared with it, and there a zero is a number
like any other: a file that records zero for the tasks is refused, although it says what a file
without a number says (`zero_number_dropped`).
-/

namespace SieveRun

open Stage Hierarchy

variable {s : Session} {defaults : ShippedFiles} {surroundings : Surroundings} {file : Path}
  {isDefault : Bool} {n : Number} {as : List (Key × String)} {v : String}

/-- The text spells zero. -/
def SpellsZero (v : String) : Prop := ∃ z, Number.ofText? v = some z ∧ z.isZero = true

/-! ## A given zero -/

/-- A given zero is as good as none. -/
theorem decideInputs_withNumber_zero (sorted : SortedTokens) (defaults : ShippedFiles)
    (surroundings : Surroundings) (hn : n.isZero = true) :
    decideInputs (sorted.withNumber (some n)) defaults surroundings =
      decideInputs (sorted.withNumber none) defaults surroundings := by
  have hdecide : decideNumber (sorted.withNumber (some n)) defaults =
      decideNumber (sorted.withNumber none) defaults := by
    rw [decideNumber, decideNumber, SortedTokens.withNumber, SortedTokens.withNumber,
      Option.filter_some, hn]
    rfl
  rw [decideInputs, hdecide]
  rfl

/-! ## A zero in the file -/

/-- A file that records zero, or nothing, supplies no number. -/
theorem numberFromFile_refused (hread : assignmentsIn s.files file = .ok as)
    (hzero : ∀ v, (s.params.setAll as).value? numberKey = some v → SpellsZero v) :
    ∃ events, (numberFromFile file).runOn s =
      (.error (.noNumber (.notDefined file)), (s.withParams (s.params.setAll as)).noting events) := by
  have hanswers : Answers (readNumber? numberKey) (s.params.setAll as) s.files
      (((s.params.setAll as).get? numberKey).bind Number.ofText?) := by
    refine answers_readAs? fun v hv => ?_
    rw [get?_numberKey] at hv
    obtain ⟨z, hz, -⟩ := hzero v hv
    rw [hz]
    rfl
  have hnone : (((s.params.setAll as).get? numberKey).bind Number.ofText?).filter
      (fun n => !n.isZero) = none := by
    rw [get?_numberKey]
    cases hv : (s.params.setAll as).value? numberKey with
    | none => rfl
    | some v =>
      obtain ⟨z, hz, hzero⟩ := hzero v hv
      rw [Option.bind_some, hz, Option.filter_some, hzero]
      rfl
  obtain ⟨events, hrun⟩ := hanswers
    ((s.withParams (s.params.setAll as)).noting (.readingFile file :: storeNotes as)) rfl rfl
  refine ⟨.readingFile file :: storeNotes as ++ events, ?_⟩
  rw [numberFromFile, runOn_bind_of_ok (runOn_mergeFile_of_ok hread), runOn_bind_of_ok hrun, hnone,
    Session.noting_noting]
  rfl

/-! ## A given number -/

/-- A file that sees another number is refused. -/
theorem runOn_agreeWithFile_of_ne (file : Path) (hv : s.params.get? taskNumberKey = some v)
    (hne : Number.ofText? v ≠ some n) : ∃ events, (agreeWithFile n file).runOn s =
      (.error (.disagreement (.number n v file)), s.noting events) := by
  refine ⟨readNotes s.params taskNumberKey, ?_⟩
  rw [agreeWithFile, runOn_bind_of_ok (runOn_read? _ _), hv]
  dsimp only
  rw [if_neg hne, runOn_throw]

theorem withNumber_refused {named : Option Path}
    (hfile : fileFor? named defaults s.files n = some (file, isDefault))
    (hread : assignmentsIn s.files file = .ok as)
    (hv : (s.params.setAll as).get? taskNumberKey = some v) (hne : Number.ofText? v ≠ some n) :
    ∃ events, (withNumber n named defaults).runOn s =
      (.error (.disagreement (.number n v file)),
        (s.withParams (s.params.setAll as)).noting events) := by
  obtain ⟨before, hfor⟩ := answers_fileFor hfile s rfl rfl
  obtain ⟨merged, hmerge⟩ := takes_mergeFile hread (s.noting before) rfl rfl
  obtain ⟨after, hagree⟩ := runOn_agreeWithFile_of_ne
    (s := ((s.noting before).withParams ((s.noting before).params.setAll as)).noting merged)
    file hv hne
  refine ⟨before ++ merged ++ after, ?_⟩
  rw [withNumber, runOn_bind_of_ok hfor, runOn_bind_of_ok hmerge, runOn_bind_of_error hagree]
  simp

/-! ## All three -/

/-- **Where zero stands for no number.** A given zero is as good as none. A file that records
zero where it has to supply the number is refused as one that supplies none. But a zero that a
given number is compared with counts as another number: the file goes with the number exactly
when what is seen for the tasks, if anything, spells the number itself, and then what the run
does from there on is the same whether or not anything was seen. -/
theorem zero_number_dropped (sorted : SortedTokens) (defaults : ShippedFiles)
    (surroundings : Surroundings) (s : Session) :
    (∀ z : Number, z.isZero = true →
      decideInputs (sorted.withNumber (some z)) defaults surroundings =
        decideInputs (sorted.withNumber none) defaults surroundings)
    ∧ (∀ file as, sorted.parameters = some file → assignmentsIn s.files file = .ok as →
      (∀ v, (s.params.setAll as).value? numberKey = some v → SpellsZero v) →
        ∃ events, (decideInputs (sorted.withNumber none) defaults surroundings).runOn s =
          (.error (.noNumber (.notDefined file)),
            (s.withParams (s.params.setAll as)).noting events))
    ∧ ∀ (n : Number) file isDefault as, n.isZero = false →
      fileFor? sorted.parameters defaults s.files n = some (file, isDefault) →
      assignmentsIn s.files file = .ok as →
        ((∀ v, (s.params.setAll as).get? taskNumberKey = some v → Number.ofText? v = some n) →
          ∃ events, (decideInputs (sorted.withNumber (some n)) defaults surroundings).runOn s =
            ((fun w => ⟨n, file, isDefault, w⟩) <$>
              decideWorkdir sorted.workdir surroundings).runOn
                ((s.withParams ((s.params.setAll as).set numberKey n.text)).noting events))
        ∧ ∀ v, (s.params.setAll as).get? taskNumberKey = some v → Number.ofText? v ≠ some n →
          ∃ events, (decideInputs (sorted.withNumber (some n)) defaults surroundings).runOn s =
            (.error (.disagreement (.number n v file)),
              (s.withParams (s.params.setAll as)).noting events) := by
  refine ⟨fun z hz => decideInputs_withNumber_zero sorted defaults surroundings hz, ?_, ?_⟩
  · intro file as hfile hread hzero
    obtain ⟨events, hrun⟩ := numberFromFile_refused hread hzero
    have hdecide : decideNumber (sorted.withNumber none) defaults = numberFromFile file := by
      rw [decideNumber, SortedTokens.withNumber, hfile]
      rfl
    exact ⟨events, runOn_bind_of_error (by rw [hdecide, hrun])⟩
  · intro n file isDefault as hn hfile hread
    have hdecide := decideNumber_withNumber_some sorted defaults hn
    constructor
    · intro hall
      obtain ⟨events, hrun⟩ := takes_withNumber defaults hfile hread hall s rfl rfl
      refine ⟨events, ?_⟩
      rw [decideInputs, hdecide, runOn_bind_of_ok hrun, ← bind_pure_comp]
      rfl
    · intro v hv hne
      obtain ⟨events, hrun⟩ := withNumber_refused hfile hread hv hne
      exact ⟨events, runOn_bind_of_error (by rw [hdecide, hrun])⟩

/-- The tokens name the parameter file and a working directory. -/
def fileTokens : SortedTokens := { parameters := some (.ofText "/f"), workdir := some (.ofText "/w") }

/-- A given zero and a zero in the file are no number; and a given five goes with a file that
sees five for the tasks. -/
theorem zeros_dropped :
    decisionFor (some ⟨0⟩) "N = 7\n" = decisionFor none "N = 7\n"
    ∧ (decisionFor none "N = 00\n").1 = .error (.noNumber (.notDefined (.ofText "/f")))
    ∧ ∃ events, decisionFor (some ⟨5⟩) "tasks.N = 05\n" =
        ((fun w => ⟨⟨5⟩, .ofText "/f", false, w⟩) <$>
          decideWorkdir (some (.ofText "/w")) {}).runOn
            (((sessionOn "tasks.N = 05\n").withParams
              ((Hierarchy.empty.set taskNumberKey "05").set numberKey "5")).noting events) := by
  have hall := zero_number_dropped fileTokens ⟨.ofText "/data", .factoring, 0⟩ {}
  refine ⟨?_, ?_, ?_⟩
  · exact congrArg (fun stage : Stage DecidedInputs => stage.runOn (sessionOn "N = 7\n"))
      ((hall (sessionOn "N = 7\n")).1 ⟨0⟩ rfl)
  · have hread : assignmentsIn (sessionOn "N = 00\n").files (.ofText "/f") =
        .ok [(numberKey, "00")] := by decide +kernel
    obtain ⟨events, hrun⟩ := (hall (sessionOn "N = 00\n")).2.1 (.ofText "/f") _ rfl hread
      fun v hv => ⟨⟨0⟩, Option.some.inj hv ▸ by decide +kernel, rfl⟩
    exact congrArg Prod.fst hrun
  · have hread : assignmentsIn (sessionOn "tasks.N = 05\n").files (.ofText "/f") =
        .ok [(taskNumberKey, "05")] := by decide +kernel
    refine ((hall (sessionOn "tasks.N = 05\n")).2.2 ⟨5⟩ (.ofText "/f") false _ rfl rfl hread).1 ?_
    intro v hv
    have hfive : some "05" = some v := Eq.trans (by decide +kernel) hv
    rw [← Option.some.inj hfive]
    decide +kernel

/-- Where five is given, a file that records zero is refused, and one without a number is not. -/
theorem recorded_zero_refused :
    SpellsZero "0"
    ∧ (decisionFor (some ⟨5⟩) "N = 0\n").1 =
        .error (.disagreement (.number ⟨5⟩ "0" (.ofText "/f")))
    ∧ passes (decisionFor (some ⟨5⟩) "name = c5\n") (fun inputs =>
        decide (inputs = ⟨⟨5⟩, .ofText "/f", false, .ofText "/w"⟩)) = true :=
  ⟨⟨⟨0⟩, by decide +kernel, rfl⟩, by decide +kernel, by decide +kernel⟩

end SieveRun
