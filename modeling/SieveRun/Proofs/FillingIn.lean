import SieveRun.Proofs.Clients
import SieveRun.Proofs.Origins

/-!
# Filling in defaults

A default is stored where a read sees nothing, and else it is dropped. Of several defaults for
one key, applied in order, the first one takes, and it takes only where nothing was seen before
(`filledIn_fillAll`), provided that no other default is stored where the key inherits from.
Nothing that a read saw is lost (`extends_fillAll`), not even by inheritance. So filling in any
number of values, each at its own key, only extends what is there, and each call says whether it
stored its value (`storeEachIfMissing_extends`).
-/

namespace SieveRun

open Stage Hierarchy

variable {h h₁ h₂ : Hierarchy} {k q : Key} {v w : String} {ds : List (Key × String)}
  {x y : Option String}

namespace Hierarchy

/-- With a value stored at the key, unless a read of the key sees one. -/
def fillIn (h : Hierarchy) (k : Key) (v : String) : Hierarchy :=
  if h.get? k = none then h.set k v else h

/-- With defaults filled in, in order. -/
def fillAll (h : Hierarchy) : List (Key × String) → Hierarchy
  | [] => h
  | d :: ds => (h.fillIn d.1 d.2).fillAll ds

theorem value?_fillIn_ne (h : Hierarchy) (v : String) (hq : q ≠ k) :
    (h.fillIn k v).value? q = h.value? q := by
  unfold fillIn
  split
  · exact value?_set_ne h v hq
  · rfl

theorem value?_fillAll (h : Hierarchy) (hk : ∀ d ∈ ds, d.1 ≠ k) :
    (h.fillAll ds).value? k = h.value? k := by
  induction ds generalizing h with
  | nil => rfl
  | cons d ds ih =>
    have hd : k ≠ d.1 := (hk d List.mem_cons_self).symm
    rw [fillAll, ih _ fun e he => hk e (List.mem_cons_of_mem _ he), value?_fillIn_ne _ _ hd]

theorem fillAll_append (h : Hierarchy) (ds es : List (Key × String)) :
    h.fillAll (ds ++ es) = (h.fillAll ds).fillAll es := by
  induction ds generalizing h with
  | nil => rfl
  | cons d ds ih => exact ih _

theorem value?_eq_none_of_get? (hk : h.get? k = none) : h.value? k = none := by
  cases hv : h.value? k with
  | none => rfl
  | some v => exact absurd ((get?_of_value? hv).symm.trans hk) (by simp)

end Hierarchy

/-! ## Nothing is lost -/

/-- What is stored stays, and a read that saw a value is answered where it was and sees what it
saw. -/
structure Extends (h h' : Hierarchy) : Prop where
  stored : ∀ k v, h.value? k = some v → h'.value? k = some v
  reads : ∀ q o, h.origin? q = some o → h'.origin? q = some o ∧ h'.get? q = h.get? q

namespace Extends

theorem refl (h : Hierarchy) : Extends h h := ⟨fun _ _ hv => hv, fun _ _ ho => ⟨ho, rfl⟩⟩

theorem trans (h₁₂ : Extends h h₁) (h₂₃ : Extends h₁ h₂) : Extends h h₂ := by
  refine ⟨fun k v hv => h₂₃.stored k v (h₁₂.stored k v hv), fun q o ho => ?_⟩
  obtain ⟨ho₁, hget₁⟩ := h₁₂.reads q o ho
  obtain ⟨ho₂, hget₂⟩ := h₂₃.reads q o ho₁
  exact ⟨ho₂, hget₂.trans hget₁⟩

theorem get? (he : Extends h h₁) (hq : h.get? q = some w) : h₁.get? q = some w := by
  cases ho : h.origin? q with
  | none => exact absurd ((get?_eq_none_iff.2 ho).symm.trans hq) (by simp)
  | some o => rw [(he.reads q o ho).2, hq]

end Extends

/-- A value that is stored where nothing was seen is in nobody's way. -/
theorem extends_set (hk : h.get? k = none) (v : String) : Extends h (h.set k v) := by
  refine ⟨fun q w hq => ?_, fun q o ho => ?_⟩
  · have hne : q ≠ k := fun he => by simp [he, value?_eq_none_of_get? hk] at hq
    rw [value?_set_ne h v hne, hq]
  · obtain ⟨horigin, hget⟩ := origin?_set_of_not_leftTo (not_leftTo_of_unseen hk ho) v
    exact ⟨horigin.trans ho, hget⟩

theorem extends_fillIn (h : Hierarchy) (k : Key) (v : String) : Extends h (h.fillIn k v) := by
  unfold fillIn
  split
  · exact extends_set ‹_› v
  · exact Extends.refl h

theorem extends_fillAll (h : Hierarchy) (ds : List (Key × String)) : Extends h (h.fillAll ds) := by
  induction ds generalizing h with
  | nil => exact Extends.refl h
  | cons d ds ih => exact (extends_fillIn h d.1 d.2).trans (ih _)

/-! ## One key -/

/-- The key went from `h` to `h'` by having a default filled in, if there is one: where nothing
was seen, the default is stored at the key and is seen now; else what is stored at the key and
what is seen stay. -/
structure FilledIn (h h' : Hierarchy) (k : Key) (default : Option String) : Prop where
  seen : h'.get? k = (h.get? k).or default
  stored : h'.value? k = if h.get? k = none then default else h.value? k

/-- Nothing is filled in where all sources of the key stay. -/
theorem filledIn_none (hsources : ∀ source ∈ k.sources, h₁.value? source = h.value? source) :
    FilledIn h h₁ k none := by
  refine ⟨by rw [Option.or_none, get?_congr hsources], ?_⟩
  rw [hsources k (self_mem_sources k)]
  split
  · rename_i hk
    exact value?_eq_none_of_get? hk
  · rfl

theorem filledIn_fillIn (h : Hierarchy) (k : Key) (v : String) :
    FilledIn h (h.fillIn k v) k (some v) := by
  unfold fillIn
  by_cases hk : h.get? k = none
  · rw [if_pos hk]
    refine ⟨?_, ?_⟩
    · rw [hk, get?_of_value? (value?_set_self h k v)]
      rfl
    · rw [if_pos hk, value?_set_self]
  · rw [if_neg hk]
    refine ⟨?_, by rw [if_neg hk]⟩
    obtain ⟨w, hw⟩ := Option.ne_none_iff_exists'.1 hk
    rw [hw]
    rfl

/-- Of two defaults the first takes. -/
theorem FilledIn.trans (hx : FilledIn h h₁ k x) (hy : FilledIn h₁ h₂ k y) :
    FilledIn h h₂ k (x.or y) := by
  refine ⟨by rw [hy.seen, hx.seen, Option.or_assoc], ?_⟩
  rw [hy.stored, hx.seen, hx.stored]
  cases hk : h.get? k with
  | some w => simp
  | none =>
    cases x with
    | some v => simp
    | none => simp

/-- **Defaults in order.** The first default for a key takes, where nothing was seen. -/
theorem filledIn_fillAll (h : Hierarchy) (hsources : ∀ d ∈ ds, d.1 ∈ k.sources → d.1 = k) :
    FilledIn h (h.fillAll ds) k (ds.lookup k) := by
  induction ds generalizing h with
  | nil => exact filledIn_none fun _ _ => rfl
  | cons d ds ih =>
    have hrest := ih (h.fillIn d.1 d.2) fun e he => hsources e (List.mem_cons_of_mem _ he)
    rw [lookup_cons_eq_ite]
    by_cases hd : d.1 = k
    · subst hd
      rw [if_pos rfl]
      exact (filledIn_fillIn h d.1 d.2).trans hrest
    · have hnot : d.1 ∉ k.sources := fun hmem => hd (hsources d List.mem_cons_self hmem)
      have hsame : FilledIn h (h.fillIn d.1 d.2) k none := by
        refine filledIn_none fun source hs => value?_fillIn_ne h d.2 ?_
        exact fun he => hnot (he ▸ hs)
      rw [if_neg (Ne.symm hd)]
      exact hsame.trans hrest

/-! ## The stage -/

theorem takes_storeIfMissing {files : FileSystem} (k : Key) (v : String) :
    Takes (storeIfMissing k v) h files (decide (h.get? k = none)) (h.fillIn k v) := by
  unfold fillIn
  cases hk : h.get? k with
  | some w =>
    have hanswers : Answers (storeIfMissing k v) h files false :=
      answers_storeIfMissing (by rw [hk]; rfl)
    exact hanswers.takes
  | none =>
    have hread : Answers (read? k) h files none := hk ▸ answers_read? k
    exact hread.takes.bind ((takes_store k v).bind (answers_pure true).takes)

theorem takes_fillIn {files : FileSystem} (k : Key) (v : String) :
    Takes (discard (storeIfMissing k v) : Stage Unit) h files () (h.fillIn k v) :=
  (takes_storeIfMissing k v).bind (answers_pure ()).takes

/-! ## A sequence of calls -/

/-- Store each value unless a read of its key sees one; which of them were stored. -/
def storeEachIfMissing : List (Key × String) → Stage (List Bool)
  | [] => pure []
  | d :: ds => do
    let stored ← storeIfMissing d.1 d.2
    let others ← storeEachIfMissing ds
    pure (stored :: others)

/-- The answers of the calls: those are stored whose key sees nothing when it is their turn. -/
def fillAnswers (h : Hierarchy) : List (Key × String) → List Bool
  | [] => []
  | d :: ds => decide (h.get? d.1 = none) :: fillAnswers (h.fillIn d.1 d.2) ds

theorem length_fillAnswers (h : Hierarchy) (ds : List (Key × String)) :
    (fillAnswers h ds).length = ds.length := by
  induction ds generalizing h with
  | nil => rfl
  | cons d ds ih => simp [fillAnswers, ih]

theorem fillAnswers_append (h : Hierarchy) (ds es : List (Key × String)) :
    fillAnswers h (ds ++ es) = fillAnswers h ds ++ fillAnswers (h.fillAll ds) es := by
  induction ds generalizing h with
  | nil => rfl
  | cons d ds ih => rw [List.cons_append, fillAnswers, fillAnswers, ih, List.cons_append, fillAll]

theorem takes_storeEachIfMissing {files : FileSystem} (h : Hierarchy) (ds : List (Key × String)) :
    Takes (storeEachIfMissing ds) h files (fillAnswers h ds) (h.fillAll ds) := by
  induction ds generalizing h with
  | nil => exact (answers_pure []).takes
  | cons d ds ih =>
    exact (takes_storeIfMissing d.1 d.2).bind ((ih _).bind (answers_pure _).takes)

/-- **Filling in extends.** Any sequence of calls succeeds. Afterwards everything is stored that was
stored, and every read that saw a value is answered where it was and sees what it saw. A call
answers that it stored its value exactly when a read of its key saw nothing at that moment; then
such a read sees the value, right after the call and in the end. -/
theorem storeEachIfMissing_extends (calls : List (Key × String)) (s : Session) :
    ∃ answers s', (storeEachIfMissing calls).runOn s = (.ok answers, s')
      ∧ answers.length = calls.length
      ∧ Extends s.params s'.params
      ∧ ∀ earlier k v later, calls = earlier ++ (k, v) :: later →
        ∃ before t stored t', (storeEachIfMissing earlier).runOn s = (.ok before, t)
          ∧ (storeIfMissing k v).runOn t = (.ok stored, t')
          ∧ answers[earlier.length]? = some stored
          ∧ (stored = true ↔ t.params.get? k = none)
          ∧ (stored = true → t'.params.get? k = some v ∧ s'.params.get? k = some v) := by
  obtain ⟨events, hrun⟩ := takes_storeEachIfMissing s.params calls s rfl rfl
  refine ⟨_, _, hrun, length_fillAnswers _ _, extends_fillAll _ _, ?_⟩
  rintro earlier k v later rfl
  obtain ⟨events₁, hearlier⟩ := takes_storeEachIfMissing s.params earlier s rfl rfl
  obtain ⟨events₂, hcall⟩ := takes_storeIfMissing k v
    ((s.withParams (s.params.fillAll earlier)).noting events₁) rfl rfl
  refine ⟨_, _, _, _, hearlier, hcall, ?_, decide_eq_true_iff, fun hstored => ?_⟩
  · rw [fillAnswers_append, List.getElem?_append_right (by rw [length_fillAnswers]),
      length_fillAnswers, Nat.sub_self]
    rfl
  · have hnone : (s.params.fillAll earlier).get? k = none := of_decide_eq_true hstored
    have hseen : ((s.params.fillAll earlier).fillIn k v).get? k = some v := by
      rw [(filledIn_fillIn _ k v).seen, hnone]
      rfl
    refine ⟨hseen, ?_⟩
    show (s.params.fillAll (earlier ++ (k, v) :: later)).get? k = some v
    rw [fillAll_append]
    exact (extends_fillAll _ later).get? hseen

/-- The second call stores nothing, because it inherits from the first; the third stores outside
of both. -/
theorem threeCalls_extend :
    ∃ answers s', (storeEachIfMissing [(⟨["tasks"], "threads"⟩, "4"),
          (⟨["tasks", "sieve"], "threads"⟩, "2"), (⟨[], "threads"⟩, "8")]).runOn
            (Session.ofFiles ⟨[], []⟩) = (.ok answers, s')
      ∧ answers = [true, false, true]
      ∧ s'.params.get? ⟨["tasks"], "threads"⟩ = some "4" := by
  have htest : passes ((storeEachIfMissing [(⟨["tasks"], "threads"⟩, "4"),
      (⟨["tasks", "sieve"], "threads"⟩, "2"), (⟨[], "threads"⟩, "8")]).runOn
        (Session.ofFiles ⟨[], []⟩)) (fun answers => decide (answers = [true, false, true])) =
          true := by decide +kernel
  obtain ⟨answers', s₁, hrun', hanswers⟩ := exists_ok_of_passes htest
  obtain ⟨answers, s', hrun, -, -, hcalls⟩ := storeEachIfMissing_extends
    [(⟨["tasks"], "threads"⟩, "4"), (⟨["tasks", "sieve"], "threads"⟩, "2"), (⟨[], "threads"⟩, "8")]
    (Session.ofFiles ⟨[], []⟩)
  obtain rfl := Except.ok.inj (congrArg Prod.fst (hrun.symm.trans hrun'))
  obtain rfl := of_decide_eq_true hanswers
  obtain ⟨before, t, stored, t', -, -, hfirst, -, hseen⟩ := hcalls [] _ _ _ rfl
  obtain rfl : true = stored := Option.some.inj hfirst
  exact ⟨_, s', hrun, rfl, (hseen rfl).2⟩

end SieveRun
