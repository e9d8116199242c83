import SieveRun.Proofs.Inputs
import SieveRun.Proofs.Numerals

/-!
# Which shipped file is found

A number is looked up by its size, which is the number of its significant digits: zeros at the
start of a spelling do not count, and one digit is left of zero (`Number.digits_of_ofText?`).

Two sizes are tried, the number's own and the multiple of five that is at most two away. There is
exactly one such multiple (`nearSize_iff`), and it is the size itself where that is a multiple of
five already. File names determine what they are for (`candidate_inj`), so the two sizes give one
name exactly then (`candidates_eq`, `candidates_nodup`), and what is found follows from two tests
(`firstFile?_eq`).
-/

namespace SieveRun

open Stage Text

namespace ShippedFiles

variable {goal goal' : Goal} {degree degree' size size' : Nat} {n : Number} {files : FileSystem}
  {d : ShippedFiles}

/-! ## Sizes and names -/

/-- A size for which files are shipped: a multiple of five, at most two away. -/
def NearSize (size near : Nat) : Prop := 5 ∣ near ∧ near ≤ size + 2 ∧ size ≤ near + 2

theorem nearSize_iff {near : Nat} : NearSize size near ↔ near = roundedSize size := by
  unfold NearSize roundedSize
  omega

theorem roundedSize_eq_self_iff : roundedSize size = size ↔ 5 ∣ size := by
  unfold roundedSize
  omega

/-- What follows the size in a name. -/
def ending (degree : Nat) : List Char :=
  if degree = 0 then [] else 'd' :: 'd' :: (numeral degree).toList

theorem toList_candidate (goal : Goal) (degree size : Nat) :
    (candidate goal degree size).toList =
      goal.letter.toList ++ ((numeral size).toList ++ ending degree) := by
  rw [candidate, ending]
  split <;> simp

theorem head?_ending (degree : Nat) : ∀ c ∈ (ending degree).head?, isDigit c = false := by
  intro c hc
  unfold ending at hc
  split at hc
  · exact absurd hc (by simp)
  · obtain rfl := Option.some.inj hc
    rfl

theorem ending_inj (h : ending degree = ending degree') : degree = degree' := by
  unfold ending at h
  by_cases hzero : degree = 0
  · by_cases hzero' : degree' = 0
    · omega
    · rw [if_pos hzero, if_neg hzero'] at h
      exact absurd h (by simp)
  · by_cases hzero' : degree' = 0
    · rw [if_neg hzero, if_pos hzero'] at h
      exact absurd h (by simp)
    · rw [if_neg hzero, if_neg hzero'] at h
      exact numeral_inj (List.cons.inj (List.cons.inj h).2).2

/-- A name says what it is for. -/
theorem candidate_inj (h : candidate goal degree size = candidate goal' degree' size') :
    goal = goal' ∧ degree = degree' ∧ size = size' := by
  have hlist := congrArg String.toList h
  rw [toList_candidate, toList_candidate] at hlist
  have hgoal : goal = goal' := by
    cases goal <;> cases goal'
    · rfl
    · exact absurd (List.cons.inj hlist).1 (by decide)
    · exact absurd (List.cons.inj hlist).1 (by decide)
    · rfl
  subst hgoal
  obtain ⟨hsize, hending⟩ := numeral_append_inj (head?_ending degree) (head?_ending degree')
    (List.append_cancel_left hlist)
  exact ⟨rfl, ending_inj hending, hsize⟩

/-- The sizes to look for, the exact one first. -/
def sizes (n : Number) : List Nat :=
  if 5 ∣ n.digits then [n.digits] else [n.digits, roundedSize n.digits]

theorem candidates_eq (n : Number) (goal : Goal) (degree : Nat) :
    candidates n goal degree = (sizes n).map (candidate goal degree) := by
  have hsame : candidate goal degree (roundedSize n.digits) = candidate goal degree n.digits ↔
      5 ∣ n.digits := by
    rw [← roundedSize_eq_self_iff]
    exact ⟨fun h => (candidate_inj h).2.2, fun h => by rw [h]⟩
  rw [candidates, sizes]
  simp only [hsame]
  split <;> rfl

theorem candidates_nodup (n : Number) (goal : Goal) (degree : Nat) :
    (candidates n goal degree).Nodup := by
  rw [candidates_eq]
  refine List.Nodup.map (fun a b h => (candidate_inj h).2.2) ?_
  unfold sizes
  split
  · exact List.nodup_singleton _
  · rename_i hfive
    have hne : n.digits ≠ roundedSize n.digits := fun h => hfive (roundedSize_eq_self_iff.1 h.symm)
    simpa using hne

/-! ## The search -/

/-- The shipped file for a size. -/
def fileOfSize (d : ShippedFiles) (size : Nat) : Path := d.file (candidate d.goal d.degree size)

theorem map_file_candidates (d : ShippedFiles) (n : Number) :
    (candidates n d.goal d.degree).map d.file = (sizes n).map d.fileOfSize := by
  rw [candidates_eq, List.map_map]
  rfl

theorem find?_fileOfSize_cons (d : ShippedFiles) (files : FileSystem) (size : Nat)
    (rest : List Nat) :
    ((size :: rest).map d.fileOfSize).find? files.isFile =
      if files.isFile (d.fileOfSize size) = true then some (d.fileOfSize size)
      else (rest.map d.fileOfSize).find? files.isFile := by
  by_cases hfile : files.isFile (d.fileOfSize size) = true
  · rw [if_pos hfile, List.map_cons, List.find?_cons_of_pos hfile]
  · rw [if_neg hfile, List.map_cons, List.find?_cons_of_neg hfile]

/-- The file of the exact size is taken where it is there, else that of the rounded size. -/
theorem firstFile?_eq (d : ShippedFiles) (files : FileSystem) (n : Number) :
    d.firstFile? files n =
      if files.isFile (d.fileOfSize n.digits) = true then some (d.fileOfSize n.digits)
      else if files.isFile (d.fileOfSize (roundedSize n.digits)) = true then
        some (d.fileOfSize (roundedSize n.digits))
      else none := by
  rw [firstFile?, map_file_candidates, sizes]
  by_cases hfive : 5 ∣ n.digits
  · rw [if_pos hfive, roundedSize_eq_self_iff.2 hfive, find?_fileOfSize_cons]
    by_cases hexact : files.isFile (d.fileOfSize n.digits) = true
    · rw [if_pos hexact, if_pos hexact]
    · rw [if_neg hexact, if_neg hexact, if_neg hexact]
      rfl
  · rw [if_neg hfive, find?_fileOfSize_cons, find?_fileOfSize_cons]
    rfl

theorem firstFile?_eq_some_iff {file : Path} :
    d.firstFile? files n = some file ↔
      files.isFile (d.fileOfSize n.digits) = true ∧ file = d.fileOfSize n.digits
      ∨ files.isFile (d.fileOfSize n.digits) = false
        ∧ files.isFile (d.fileOfSize (roundedSize n.digits)) = true
        ∧ file = d.fileOfSize (roundedSize n.digits) := by
  rw [firstFile?_eq]
  by_cases hexact : files.isFile (d.fileOfSize n.digits) = true
  · rw [if_pos hexact, Option.some.injEq, eq_comm]
    simp [hexact]
  · rw [if_neg hexact]
    by_cases hrounded : files.isFile (d.fileOfSize (roundedSize n.digits)) = true
    · rw [if_pos hrounded, Option.some.injEq, eq_comm]
      simp [hexact, hrounded]
    · rw [if_neg hrounded]
      simp [hexact, hrounded]

theorem firstFile?_eq_none_iff :
    d.firstFile? files n = none ↔
      ∀ name ∈ candidates n d.goal d.degree, files.isFile (d.file name) = false := by
  rw [firstFile?, List.find?_eq_none]
  simp

theorem fst_find (n : Number) (s : Session) :
    ((d.find n).runOn s).1 =
      match d.firstFile? s.files n with
      | some file => .ok file
      | none => .error (.noDefaultFile (candidates n d.goal d.degree)) := by
  rw [runOn_find]
  cases d.firstFile? s.files n <;> rfl

theorem find_ok_iff {s : Session} {file : Path} :
    ((d.find n).runOn s).1 = .ok file ↔ d.firstFile? s.files n = some file := by
  rw [fst_find]
  cases d.firstFile? s.files n <;> simp

theorem find_error_iff {s : Session} {e : RunError} :
    ((d.find n).runOn s).1 = .error e ↔
      e = .noDefaultFile (candidates n d.goal d.degree) ∧ d.firstFile? s.files n = none := by
  rw [fst_find]
  cases d.firstFile? s.files n <;> simp [eq_comm]

/-- Numbers of one size are served alike. -/
theorem find_congr {m : Number} (h : m.digits = n.digits) : d.find m = d.find n := by
  have hcandidates : candidates m d.goal d.degree = candidates n d.goal d.degree := by
    unfold candidates
    rw [h]
  unfold find firstFile?
  rw [hcandidates]

/-- **Which shipped file is found.** Two sizes are tried in this order: the number's own, and the one
multiple of five that is at most two away. Where they coincide, which is where five divides the
number's size, there is one name to look for, else there are two. Each name has the goal's letter,
and it names the degree exactly where there is an extension field.

The first of the files that is there is taken, so the rounded size is served only where the exact
one is not. The search fails exactly where no file is there, and its error names the exact size and
lists all names. Nothing but the journal changes.

Of the number only its size matters: numbers with as many digits are served alike. A spelling
counts as many digits as are left without the zeros at its start, and with more of them it spells
the same number. -/
theorem shipped_file_found (d : ShippedFiles) (n : Number) (s : Session) :
    (∀ near, NearSize n.digits near ↔ near = roundedSize n.digits)
    ∧ candidates n d.goal d.degree =
        (if 5 ∣ n.digits then [n.digits] else [n.digits, roundedSize n.digits]).map (fun size =>
          d.goal.letter ++ numeral size ++ if d.degree = 0 then "" else "dd" ++ numeral d.degree)
    ∧ (candidates n d.goal d.degree).Nodup
    ∧ (∀ file, ((d.find n).runOn s).1 = .ok file ↔
        s.files.isFile (d.fileOfSize n.digits) = true ∧ file = d.fileOfSize n.digits
        ∨ s.files.isFile (d.fileOfSize n.digits) = false
          ∧ s.files.isFile (d.fileOfSize (roundedSize n.digits)) = true
          ∧ file = d.fileOfSize (roundedSize n.digits))
    ∧ (∀ e, ((d.find n).runOn s).1 = .error e ↔
        e = .noDefaultFile (candidates n d.goal d.degree)
          ∧ ∀ name ∈ candidates n d.goal d.degree, s.files.isFile (d.file name) = false)
    ∧ (RunError.noDefaultFile (candidates n d.goal d.degree)).message =
        "No parameter file found for " ++ candidate d.goal d.degree n.digits ++ " (tried " ++
          commaSeparated (candidates n d.goal d.degree) ++ ")"
    ∧ (∃ events, ((d.find n).runOn s).2 = s.noting events)
    ∧ (∀ m : Number, m.digits = n.digits → d.find m = d.find n)
    ∧ ∀ text, Number.ofText? text = some n →
        n.digits = max 1 (significant (trim text.toList)).length
        ∧ ∀ padded k, trim padded.toList = List.replicate k '0' ++ trim text.toList →
            Number.ofText? padded = some n := by
  have hhead : (candidates n d.goal d.degree).headD "" = candidate d.goal d.degree n.digits := by
    rw [candidates_eq, sizes]
    split <;> rfl
  refine ⟨fun near => nearSize_iff, candidates_eq n d.goal d.degree, candidates_nodup _ _ _,
    fun file => ?_, fun e => ?_, ?_, ?_, fun m h => find_congr h, fun text h =>
      ⟨Number.digits_of_ofText? h, fun padded k hpadded => Number.ofText?_padded hpadded h⟩⟩
  · rw [find_ok_iff, firstFile?_eq_some_iff]
  · rw [find_error_iff, firstFile?_eq_none_iff]
  · rw [← hhead]
    rfl
  · rw [runOn_find]
    cases d.firstFile? s.files n <;> exact ⟨_, rfl⟩

/-- Files are shipped for numbers of ten digits only. -/
def tenDigits : FileSystem :=
  ⟨[([utf8 "factor"], .directory), ([utf8 "factor", utf8 "params.c10"], .file [])], []⟩

/-- A number of twelve digits takes the file for ten, also when it is spelt with more zeros, and so
does every other number of twelve digits. -/
theorem tenDigits_found :
    ((find ⟨.ofText "/", .factoring, 0⟩ ⟨123456789012⟩).runOn (.ofFiles tenDigits)).1 =
        .ok (.ofText "/factor/params.c10")
      ∧ find ⟨.ofText "/", .factoring, 0⟩ ⟨999999999999⟩ =
        find ⟨.ofText "/", .factoring, 0⟩ ⟨123456789012⟩
      ∧ Number.ofText? "000123456789012" = some ⟨123456789012⟩ := by
  obtain ⟨-, -, -, hfound, -, -, -, hsame, hspelt⟩ := shipped_file_found
    ⟨.ofText "/", .factoring, 0⟩ ⟨123456789012⟩ (.ofFiles tenDigits)
  refine ⟨(hfound _).2 (.inr ⟨by decide +kernel, by decide +kernel, by decide +kernel⟩),
    hsame _ (by decide +kernel), ?_⟩
  exact (hspelt "123456789012" (by decide +kernel)).2 "000123456789012" 3 (by decide +kernel)

end ShippedFiles

end SieveRun
