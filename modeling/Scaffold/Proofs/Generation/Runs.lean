import Scaffold.Generation
import Scaffold.Proofs.Dict
import Scaffold.Proofs.Fallible

/-!
# What becomes of the leaves of a run

A run asks the files only which paths are taken, and a file that it writes is never the
file of a leaf that it has yet to ask about, since a later leaf of the same place is a
duplicate.  So the files as they are before the run settle what becomes of every leaf,
and the run comes down to generating and writing the leaves that are due, one by one.

Places are told apart by their components, files by the text of their paths; paths of
different places have different texts.

## Main definitions

* `Job.place`, `FirstIn` — where the file of a leaf goes, and which leaf comes first there.
* `judge` — what becomes of every leaf; `due`, `passedOver` — its two halves.
* `FileStore.make`, `FileStore.fill` — leaves generated and written without a look.

## Main results

* `run_runLeaves` — a run over leaves fills in those that are due.
* `FileStore.get?_files_of_fill` — the files after that.
* `exists_of_runLeaves_eq_error` — a run that fails, up to the leaf at which it does.
-/

namespace Scaffold

/-! ### Places -/

/-- Places are lists of names; how they are compared is settled here once for all that
follows. -/
local instance lawfulBEq_place : LawfulBEq (List String) := inferInstance

/-- The place of the file of a leaf. -/
def Job.place (o : RunOptions) (j : Job) : List String := (j.target o).components

theorem Job.text_ne_of_place_ne {o : RunOptions} {i j : Job} (h : i.place o ≠ j.place o) :
    (i.target o).text ≠ (j.target o).text := by
  intro htext
  refine h ?_
  unfold place
  rw [show i.target o = j.target o from congrArg Path.mk htext]

namespace Progress

@[simp] theorem seen_skip {o : RunOptions} {p : Progress} {j : Job} {reason : SkipReason} :
    (p.skip o j reason).seen = p.seen := rfl

@[simp] theorem seen_write {o : RunOptions} {p : Progress} {j : Job} :
    (p.write o j).seen = p.seen := rfl

@[simp] theorem seen_see {o : RunOptions} {p : Progress} {j : Job} :
    (p.see o j).seen = j.place o :: p.seen := rfl

end Progress

/-- The leaf is the first of a list at its place. -/
def FirstIn (o : RunOptions) (js : List Job) (j : Job) : Prop :=
  ∃ before after, js = before ++ j :: after ∧ ∀ i ∈ before, i.place o ≠ j.place o

theorem not_firstIn_nil {o : RunOptions} {j : Job} : ¬FirstIn o [] j := by
  rintro ⟨before, after, h, -⟩
  exact List.cons_ne_nil _ _ (List.append_eq_nil_iff.mp h.symm).2

theorem firstIn_cons_iff {o : RunOptions} {i j : Job} {js : List Job} :
    FirstIn o (i :: js) j ↔ j = i ∨ i.place o ≠ j.place o ∧ FirstIn o js j := by
  constructor
  · rintro ⟨before, after, h, hfirst⟩
    cases before with
    | nil => exact .inl (List.cons.inj h).1.symm
    | cons k before =>
      obtain ⟨rfl, rfl⟩ := List.cons.inj h
      have ⟨hk, hbefore⟩ := List.forall_mem_cons.mp hfirst
      exact .inr ⟨hk, before, after, rfl, hbefore⟩
  · rintro (rfl | ⟨hne, before, after, rfl, hfirst⟩)
    · exact ⟨[], js, rfl, List.forall_mem_nil _⟩
    · exact ⟨i :: before, after, rfl, List.forall_mem_cons.mpr ⟨hne, hfirst⟩⟩

/-- The places seen when leaves have been met. -/
def placesSeen (o : RunOptions) (seen : List (List String)) : List Job → List (List String)
  | [] => seen
  | j :: js => placesSeen o (if j.place o ∈ seen then seen else j.place o :: seen) js

theorem mem_placesSeen_iff {o : RunOptions} {seen : List (List String)} {js : List Job}
    {place : List String} :
    place ∈ placesSeen o seen js ↔ place ∈ seen ∨ ∃ j ∈ js, j.place o = place := by
  induction js generalizing seen with
  | nil => simp [placesSeen]
  | cons j js ih =>
    rw [placesSeen, ih]
    simp only [List.mem_cons, exists_eq_or_imp, ← or_assoc]
    refine or_congr_left ?_
    split
    · next hseen =>
      refine (or_iff_left_of_imp ?_).symm
      rintro rfl
      exact hseen
    · rw [List.mem_cons, or_comm, eq_comm]

/-! ### Verdicts -/

section Verdicts

variable (o : RunOptions) (s : FileStore)

/-- What becomes of each leaf: the reason for which it is skipped, or none if its file is
to be written. -/
def judge (seen : List (List String)) : List Job → List (Job × Option SkipReason)
  | [] => []
  | j :: js =>
    if j.place o ∈ seen then (j, some .duplicate) :: judge seen js
    else (j, if s.has (j.target o) then some .present else none) :: judge (j.place o :: seen) js

/-- The leaves whose files are to be written. -/
def due (seen : List (List String)) (js : List Job) : List Job :=
  (judge o s seen js).filterMap fun (j, verdict) => if verdict = none then some j else none

/-- The leaves that are skipped. -/
def passedOver (seen : List (List String)) (js : List Job) : List Skip :=
  (judge o s seen js).filterMap fun (j, verdict) =>
    verdict.map (Skip.mk j.leaf.path (j.target o))

/-- How far a run has come when it has met leaves and none of them failed. -/
def Progress.past (p : Progress) (js : List Job) : Progress where
  written := p.written ++ (due o s p.seen js).map (·.target o)
  skipped := p.skipped ++ passedOver o s p.seen js
  seen := placesSeen o p.seen js

variable {o s} {seen : List (List String)} {j : Job} {js : List Job}

theorem judge_of_mem (h : j.place o ∈ seen) :
    judge o s seen (j :: js) = (j, some .duplicate) :: judge o s seen js := if_pos h

theorem judge_of_not_mem (h : j.place o ∉ seen) :
    judge o s seen (j :: js)
      = (j, if s.has (j.target o) then some .present else none) ::
          judge o s (j.place o :: seen) js := if_neg h

/-- **Verdicts depend on the options, the files and the places seen** only through the paths
of leaves, through whether those at new places are taken, and through which are new. -/
theorem judge_eq_judge {o' : RunOptions} {s' : FileStore} {seen' : List (List String)}
    (htarget : ∀ j ∈ js, j.target o' = j.target o)
    (hhas : ∀ j ∈ js, j.place o ∉ seen → s'.has (j.target o) = s.has (j.target o))
    (hnew : ∀ j ∈ js, j.place o ∈ seen' ↔ j.place o ∈ seen) :
    judge o' s' seen' js = judge o s seen js := by
  induction js generalizing seen seen' with
  | nil => rfl
  | cons j js ih =>
    have ⟨htarget_j, htarget_js⟩ := List.forall_mem_cons.mp htarget
    have ⟨hhas_j, hhas_js⟩ := List.forall_mem_cons.mp hhas
    have ⟨hnew_j, hnew_js⟩ := List.forall_mem_cons.mp hnew
    have hplace : j.place o' = j.place o := congrArg Path.components htarget_j
    by_cases hseen : j.place o ∈ seen
    · rw [judge_of_mem (hplace ▸ hnew_j.mpr hseen), judge_of_mem hseen,
        ih htarget_js hhas_js hnew_js]
    · have hseen' : j.place o' ∉ seen' := fun hmem => hseen (hnew_j.mp (hplace ▸ hmem))
      rw [judge_of_not_mem hseen', judge_of_not_mem hseen, htarget_j, hplace, hhas_j hseen,
        ih htarget_js]
      · exact fun i hi hfresh => hhas_js i hi fun hmem => hfresh (List.mem_cons_of_mem _ hmem)
      · intro i hi
        rw [List.mem_cons, List.mem_cons, hnew_js i hi]

/-- Files that agree on new places lead to the same verdicts. -/
theorem judge_congr {s' : FileStore}
    (h : ∀ j ∈ js, j.place o ∉ seen → s'.has (j.target o) = s.has (j.target o)) :
    judge o s' seen js = judge o s seen js :=
  judge_eq_judge (fun _ _ => rfl) h fun _ _ => Iff.rfl

theorem judge_append (xs ys : List Job) :
    judge o s seen (xs ++ ys) = judge o s seen xs ++ judge o s (placesSeen o seen xs) ys := by
  induction xs generalizing seen with
  | nil => rfl
  | cons x xs ih =>
    rw [List.cons_append]
    by_cases hseen : x.place o ∈ seen
    · rw [judge_of_mem hseen, judge_of_mem hseen, ih, List.cons_append, placesSeen,
        if_pos hseen]
    · rw [judge_of_not_mem hseen, judge_of_not_mem hseen, ih, List.cons_append, placesSeen,
        if_neg hseen]

/-- Every leaf gets one verdict, in its turn. -/
theorem map_fst_judge : (judge o s seen js).map (·.1) = js := by
  induction js generalizing seen with
  | nil => rfl
  | cons j js ih =>
    by_cases hseen : j.place o ∈ seen
    · rw [judge_of_mem hseen, List.map_cons, ih]
    · rw [judge_of_not_mem hseen, List.map_cons, ih]

theorem due_append (xs ys : List Job) :
    due o s seen (xs ++ ys) = due o s seen xs ++ due o s (placesSeen o seen xs) ys := by
  rw [due, judge_append, List.filterMap_append, due, due]

theorem passedOver_append (xs ys : List Job) :
    passedOver o s seen (xs ++ ys)
      = passedOver o s seen xs ++ passedOver o s (placesSeen o seen xs) ys := by
  rw [passedOver, judge_append, List.filterMap_append, passedOver, passedOver]

/-- A leaf is due or passed over. -/
theorem length_due_add_length_passedOver (o : RunOptions) (s : FileStore)
    (seen : List (List String)) (js : List Job) :
    (due o s seen js).length + (passedOver o s seen js).length = js.length := by
  have hlength : (judge o s seen js).length = js.length := by
    rw [← List.length_map, map_fst_judge]
  rw [← hlength, due, passedOver]
  generalize judge o s seen js = verdicts
  induction verdicts with
  | nil => rfl
  | cons head verdicts ih =>
    obtain ⟨j, verdict⟩ := head
    cases verdict with
    | none => exact (Nat.add_right_comm _ 1 _).trans (congrArg (· + 1) ih)
    | some reason => exact congrArg (· + 1) ih

theorem due_of_mem (h : j.place o ∈ seen) : due o s seen (j :: js) = due o s seen js := by
  rw [due, judge_of_mem h]
  rfl

theorem due_of_has (h : j.place o ∉ seen) (hhas : s.has (j.target o) = true) :
    due o s seen (j :: js) = due o s (j.place o :: seen) js := by
  rw [due, judge_of_not_mem h, if_pos hhas]
  rfl

theorem due_of_not_has (h : j.place o ∉ seen) (hhas : s.has (j.target o) = false) :
    due o s seen (j :: js) = j :: due o s (j.place o :: seen) js := by
  rw [due, judge_of_not_mem h, if_neg (Bool.not_eq_true _ ▸ hhas)]
  rfl

theorem Progress.past_of_mem {p : Progress} (h : j.place o ∈ p.seen) :
    p.past o s (j :: js) = (p.skip o j .duplicate).past o s js := by
  simp [past, skip, due, passedOver, judge_of_mem h, placesSeen, h]

theorem Progress.past_of_has {p : Progress} (h : j.place o ∉ p.seen)
    (hhas : s.has (j.target o) = true) :
    p.past o s (j :: js) = ((p.see o j).skip o j .present).past o s js := by
  have hcomponents : (j.target o).components ∉ p.seen := h
  simp [past, skip, see, due, passedOver, judge_of_not_mem h, hhas, placesSeen, Job.place,
    hcomponents]

theorem Progress.past_of_not_has {p : Progress} (h : j.place o ∉ p.seen)
    (hhas : s.has (j.target o) = false) :
    p.past o s (j :: js) = ((p.see o j).write o j).past o s js := by
  have hcomponents : (j.target o).components ∉ p.seen := h
  simp [past, write, see, due, passedOver, judge_of_not_mem h, hhas, placesSeen, Job.place,
    hcomponents]

/-- **The leaves that are due** are those at new places whose files are missing, and of
several at one place the first. -/
theorem mem_due_iff :
    j ∈ due o s seen js
      ↔ j.place o ∉ seen ∧ FirstIn o js j ∧ s.has (j.target o) = false := by
  induction js generalizing seen with
  | nil => exact iff_of_false List.not_mem_nil fun h => not_firstIn_nil h.2.1
  | cons i js ih =>
    rw [firstIn_cons_iff]
    by_cases hseen : i.place o ∈ seen
    · rw [due_of_mem hseen, ih]
      constructor
      · rintro ⟨hnew, hfirst, hhas⟩
        exact ⟨hnew, .inr ⟨fun h => hnew (h ▸ hseen), hfirst⟩, hhas⟩
      · rintro ⟨hnew, rfl | ⟨-, hfirst⟩, hhas⟩
        · exact absurd hseen hnew
        · exact ⟨hnew, hfirst, hhas⟩
    -- a new place: the leaf itself, or a later one elsewhere
    have hlater : j ∈ due o s (i.place o :: seen) js
        ↔ j.place o ∉ seen ∧ (i.place o ≠ j.place o ∧ FirstIn o js j) ∧
          s.has (j.target o) = false := by
      simp only [ih, List.mem_cons, not_or, eq_comm (a := j.place o), ne_eq, and_assoc,
        and_left_comm]
    cases hhas : s.has (i.target o) with
    | true =>
      rw [due_of_has hseen hhas, hlater]
      constructor
      · exact fun ⟨hnew, hfirst, hmissing⟩ => ⟨hnew, .inr hfirst, hmissing⟩
      · rintro ⟨hnew, rfl | hfirst, hmissing⟩
        · rw [hhas] at hmissing
          cases hmissing
        · exact ⟨hnew, hfirst, hmissing⟩
    | false =>
      rw [due_of_not_has hseen hhas, List.mem_cons, hlater]
      constructor
      · rintro (rfl | ⟨hnew, hfirst, hmissing⟩)
        · exact ⟨hseen, .inl rfl, hhas⟩
        · exact ⟨hnew, .inr hfirst, hmissing⟩
      · rintro ⟨hnew, rfl | hfirst, hmissing⟩
        · exact .inl rfl
        · exact .inr ⟨hnew, hfirst, hmissing⟩

/-- Where no two leaves have one place, a leaf is skipped only for its file. -/
theorem judge_of_pairwise (hseen : ∀ j ∈ js, j.place o ∉ seen)
    (h : js.Pairwise fun i j => i.place o ≠ j.place o) :
    judge o s seen js
      = js.map fun j => (j, if s.has (j.target o) then some .present else none) := by
  induction js generalizing seen with
  | nil => rfl
  | cons j js ih =>
    have ⟨hj, hjs⟩ := List.pairwise_cons.mp h
    have ⟨hnew, hrest⟩ := List.forall_mem_cons.mp hseen
    rw [judge_of_not_mem hnew, List.map_cons, ih (fun i hi => ?_) hjs]
    rw [List.mem_cons, not_or]
    exact ⟨(hj i hi).symm, hrest i hi⟩

theorem due_of_pairwise (h : js.Pairwise fun i j => i.place o ≠ j.place o) :
    due o s [] js = js.filter fun j => !s.has (j.target o) := by
  rw [due, judge_of_pairwise (fun _ _ => List.not_mem_nil) h, List.filterMap_map,
    ← List.filterMap_eq_filter]
  refine congrArg (List.filterMap · js) (funext fun j => ?_)
  cases hhas : s.has (j.target o) with
  | true => simp [Option.guard, hhas]
  | false => simp [Option.guard, hhas]

theorem passedOver_of_pairwise (h : js.Pairwise fun i j => i.place o ≠ j.place o) :
    passedOver o s [] js
      = (js.filter fun j => s.has (j.target o)).map
          fun j => ⟨j.leaf.path, j.target o, .present⟩ := by
  rw [passedOver, judge_of_pairwise (fun _ _ => List.not_mem_nil) h, List.filterMap_map,
    ← List.filterMap_eq_filter, List.map_filterMap]
  refine congrArg (List.filterMap · js) (funext fun j => ?_)
  cases hhas : s.has (j.target o) with
  | true => simp [Option.guard, hhas]
  | false => simp [Option.guard, hhas]

/-- No two leaves are due at one place. -/
theorem pairwise_due : (due o s seen js).Pairwise fun i j => i.place o ≠ j.place o := by
  induction js generalizing seen with
  | nil => exact .nil
  | cons j js ih =>
    by_cases hseen : j.place o ∈ seen
    · rw [due_of_mem hseen]
      exact ih
    cases hhas : s.has (j.target o) with
    | true =>
      rw [due_of_has hseen hhas]
      exact ih
    | false =>
      rw [due_of_not_has hseen hhas]
      refine .cons (fun i hi heq => ?_) ih
      exact (mem_due_iff.mp hi).1 (List.mem_cons.mpr (.inl heq.symm))

end Verdicts

/-! ### Leaves generated and written -/

section Runs

variable (templates : TemplateSet) (o : RunOptions)

/-- Why a leaf fails: its source cannot be generated, or it cannot be written. -/
inductive Job.Fails (s : FileStore) (j : Job) : RunFault → Prop
  | generate {fault : SourceFault} (h : j.source o templates = .error fault) :
    Fails s j (.generate j.leaf.path fault)
  | write {content : String} {fault : FileFault} (h : j.source o templates = .ok content)
    (refused : s.fault? (j.target o) = some fault) : Fails s j (.write (j.target o) fault)

namespace FileStore

/-- Generate a leaf and write its file, whether or not one is there. -/
def make (s : FileStore) (j : Job) : Except RunFault Unit × FileStore :=
  match j.source o templates with
  | .error fault => (.error (.generate j.leaf.path fault), s)
  | .ok content => (writeLeaf FileStore.system o j content).run s

/-- Generate leaves and write their files, until one fails. -/
def fill (s : FileStore) : List Job → Except RunFault Unit × FileStore
  | [] => (.ok (), s)
  | j :: js =>
    match s.make templates o j with
    | (.error fault, s') => (.error fault, s')
    | (.ok _, s') => fill s' js

end FileStore

variable {templates o} {s s' : FileStore} {p p' : Progress} {j : Job} {js : List Job}

/-- Why a leaf fails does not depend on the files there are. -/
theorem Job.Fails.of_fault? {fault : RunFault} (h : j.Fails templates o s fault)
    (hsame : s.fault? = s'.fault?) : j.Fails templates o s' fault := by
  cases h with
  | generate h => exact .generate h
  | write h refused => exact .write h (hsame ▸ refused)

/-- What it comes to, to write the file of a leaf. -/
theorem run_writeLeaf (s : FileStore) (j : Job) (content : String) :
    (writeLeaf FileStore.system o j content).run s
      = if o.dryRun then (.ok (), s)
        else match s.fault? (j.target o) with
          | some fault => (.error (.write (j.target o) fault), s)
          | none => (.ok (), { s with files := s.files.insert (j.target o).text content }) := by
  unfold writeLeaf
  split
  · rfl
  · have hwrite : (FileStore.system.write (j.target o) content).run s
        = s.write (j.target o) content := rfl
    rw [StateT.run_bind, hwrite, FileStore.write]
    cases s.fault? (j.target o) with
    | none => rfl
    | some fault => rfl

/-- What it comes to, to take one leaf. -/
theorem run_runLeaf (p : Progress) (j : Job) (s : FileStore) :
    (runLeaf FileStore.system templates o p j).run s
      = if j.place o ∈ p.seen then (.ok (p.skip o j .duplicate), s)
        else if s.has (j.target o) then (.ok ((p.see o j).skip o j .present), s)
        else ((s.make templates o j).1.map fun _ => (p.see o j).write o j,
          (s.make templates o j).2) := by
  unfold runLeaf
  rw [show j.place o = (j.target o).components from rfl]
  split
  · rfl
  · have htaken : (FileStore.system.taken (j.target o)).run s = (s.has (j.target o), s) := rfl
    rw [StateT.run_bind, htaken]
    show StateT.run (if s.has (j.target o) = true then _ else _) s = _
    split
    · rfl
    · unfold FileStore.make
      cases j.source o templates with
      | error fault => rfl
      | ok content =>
        dsimp only
        rw [StateT.run_bind]
        generalize (writeLeaf FileStore.system o j content).run s = written
        obtain ⟨result, s'⟩ := written
        cases result with
        | error fault => rfl
        | ok _ => rfl

/-- One leaf after the other. -/
theorem run_runLeaves_cons (p : Progress) (j : Job) (js : List Job) (s : FileStore) :
    (runLeaves FileStore.system templates o p (j :: js)).run s
      = match (runLeaf FileStore.system templates o p j).run s with
        | (.error fault, s') => (.error fault, s')
        | (.ok p', s') => (runLeaves FileStore.system templates o p' js).run s' := by
  rw [runLeaves, StateT.run_bind]
  generalize (runLeaf FileStore.system templates o p j).run s = taken
  obtain ⟨result, s'⟩ := taken
  cases result with
  | error fault => rfl
  | ok p' => rfl

namespace FileStore

/-- **Making a leaf** fails without a change, or leaves its file behind. -/
theorem make_cases (templates : TemplateSet) (o : RunOptions) (s : FileStore) (j : Job) :
    (∃ fault, s.make templates o j = (.error fault, s) ∧ j.Fails templates o s fault) ∨
      ∃ content, j.source o templates = .ok content ∧
        (o.dryRun = true ∧ s.make templates o j = (.ok (), s) ∨
          o.dryRun = false ∧ s.fault? (j.target o) = none ∧ s.make templates o j
            = (.ok (), { s with files := s.files.insert (j.target o).text content })) := by
  unfold make
  cases hsource : j.source o templates with
  | error fault => exact .inl ⟨_, rfl, .generate hsource⟩
  | ok content =>
    dsimp only
    rw [run_writeLeaf]
    cases hdry : o.dryRun with
    | true => exact .inr ⟨content, rfl, .inl ⟨rfl, rfl⟩⟩
    | false =>
      cases hfault : s.fault? (j.target o) with
      | some fault => exact .inl ⟨_, rfl, .write hsource hfault⟩
      | none => exact .inr ⟨content, rfl, .inr ⟨rfl, rfl, rfl⟩⟩

/-- A leaf is made by writing its source. -/
theorem make_eq_ok_iff (hwet : o.dryRun = false) :
    s.make templates o j = (.ok (), s')
      ↔ ∃ content, j.source o templates = .ok content ∧ s.fault? (j.target o) = none ∧
        s' = { s with files := s.files.insert (j.target o).text content } := by
  rcases make_cases templates o s j with
    ⟨fault, hmake, hfails⟩ | ⟨content, hsource, ⟨hdry, -⟩ | ⟨-, hfault, hmake⟩⟩
  · rw [hmake]
    refine iff_of_false (fun h => Except.error_ne_ok _ _ (Prod.mk.inj h).1) ?_
    rintro ⟨content, hsource, hfault, -⟩
    cases hfails with
    | generate herror => rw [hsource] at herror; cases herror
    | write _ refused => rw [hfault] at refused; cases refused
  · rw [hwet] at hdry
    cases hdry
  · rw [hmake]
    constructor
    · intro h
      exact ⟨content, hsource, hfault, (Prod.mk.inj h).2.symm⟩
    · rintro ⟨content', hsource', -, rfl⟩
      obtain rfl := Except.ok.inj (hsource.symm.trans hsource')
      rfl

/-- Making a leaf takes no other path. -/
theorem has_make (templates : TemplateSet) {o : RunOptions} {s : FileStore} {j : Job} {path : Path}
    (h : (j.target o).text ≠ path.text) :
    (s.make templates o j).2.has path = s.has path := by
  rcases make_cases templates o s j with
    ⟨fault, hmake, -⟩ | ⟨content, -, ⟨-, hmake⟩ | ⟨-, -, hmake⟩⟩
  · rw [hmake]
  · rw [hmake]
  · rw [hmake, has, Dict.contains, Dict.get?_insert_of_ne h]
    rfl

theorem fill_append (s : FileStore) (xs ys : List Job) :
    s.fill templates o (xs ++ ys)
      = match s.fill templates o xs with
        | (.error fault, s') => (.error fault, s')
        | (.ok _, s') => s'.fill templates o ys := by
  induction xs generalizing s with
  | nil => rfl
  | cons x xs ih =>
    rw [List.cons_append, fill, fill]
    generalize s.make templates o x = made
    obtain ⟨result, s'⟩ := made
    cases result with
    | error fault => rfl
    | ok _ => exact ih s'

theorem fill_cons_eq_ok_iff :
    s.fill templates o (j :: js) = (.ok (), s')
      ↔ ∃ s₁, s.make templates o j = (.ok (), s₁) ∧ s₁.fill templates o js = (.ok (), s') := by
  rw [fill]
  generalize s.make templates o j = made
  obtain ⟨result, s₁⟩ := made
  cases result with
  | error fault =>
    refine iff_of_false (fun h => Except.error_ne_ok _ _ (Prod.mk.inj h).1) ?_
    rintro ⟨_, h, -⟩
    cases h
  | ok _ =>
    constructor
    · exact fun h => ⟨s₁, rfl, h⟩
    · rintro ⟨_, ⟨⟩, h⟩
      exact h

/-- What making each leaf keeps, filling in all of them keeps. -/
theorem fill_keeps {β : Type} (field : FileStore → β) {o : RunOptions} {js : List Job}
    (h : ∀ j ∈ js, ∀ s, field (s.make templates o j).2 = field s) (s : FileStore) :
    field (s.fill templates o js).2 = field s := by
  induction js generalizing s with
  | nil => rfl
  | cons j js ih =>
    have ⟨hj, hjs⟩ := List.forall_mem_cons.mp h
    have hmake := hj s
    rw [fill]
    generalize s.make templates o j = made at hmake
    obtain ⟨result, s'⟩ := made
    cases result with
    | error fault => exact hmake
    | ok _ => exact (ih hjs s').trans hmake

/-- Filling in leaves takes no other path. -/
theorem has_fill (templates : TemplateSet) {o : RunOptions} {s : FileStore} {js : List Job}
    {path : Path} (h : ∀ j ∈ js, (j.target o).text ≠ path.text) :
    (s.fill templates o js).2.has path = s.has path :=
  fill_keeps (·.has path) (fun j hj _ => has_make templates (h j hj)) s

/-- What fails when a path is written does not change. -/
theorem fault?_make (templates : TemplateSet) (o : RunOptions) (s : FileStore) (j : Job) :
    (s.make templates o j).2.fault? = s.fault? := by
  rcases make_cases templates o s j with
    ⟨fault, hmake, -⟩ | ⟨content, -, ⟨-, hmake⟩ | ⟨-, -, hmake⟩⟩
  · rw [hmake]
  · rw [hmake]
  · rw [hmake]

theorem fault?_fill (templates : TemplateSet) (o : RunOptions) (s : FileStore)
    (js : List Job) : (s.fill templates o js).2.fault? = s.fault? :=
  fill_keeps (·.fault?) (fun j _ s => fault?_make templates o s j) s

/-- Leaves that are not filled in have one that fails among them. -/
theorem exists_fails_of_fill {fault : RunFault}
    (h : s.fill templates o js = (.error fault, s')) : ∃ j ∈ js, j.Fails templates o s fault := by
  induction js generalizing s with
  | nil => exact absurd (Prod.mk.inj h).1.symm (Except.error_ne_ok _ _)
  | cons j js ih =>
    have hsame := fault?_make templates o s j
    rw [fill] at h
    rcases make_cases templates o s j with ⟨fault', hmake, hfails⟩ | ⟨content, -, hmade⟩
    · rw [hmake] at h
      obtain rfl := Except.error.inj (Prod.mk.inj h).1
      exact ⟨j, List.mem_cons_self, hfails⟩
    · obtain ⟨s₁, hmake⟩ : ∃ s₁, s.make templates o j = (.ok (), s₁) := by
        rcases hmade with ⟨-, hmake⟩ | ⟨-, -, hmake⟩
        · exact ⟨_, hmake⟩
        · exact ⟨_, hmake⟩
      rw [hmake] at h hsame
      obtain ⟨i, hi, hfails⟩ := ih h
      exact ⟨i, List.mem_cons_of_mem _ hi, hfails.of_fault? hsame⟩

/-- A dry run changes nothing. -/
theorem fill_of_dryRun (templates : TemplateSet) {o : RunOptions} (hdry : o.dryRun = true)
    (s : FileStore) (js : List Job) :
    (s.fill templates o js).2 = s := by
  induction js with
  | nil => rfl
  | cons j js ih =>
    rw [fill]
    rcases make_cases templates o s j with
      ⟨fault, hmake, -⟩ | ⟨content, -, ⟨-, hmake⟩ | ⟨hwet, -, -⟩⟩
    · rw [hmake]
    · rw [hmake]
      exact ih
    · rw [hdry] at hwet
      cases hwet

/-- Leaves that are filled in have sources. -/
theorem exists_source_of_fill (h : s.fill templates o js = (.ok (), s')) :
    ∀ j ∈ js, ∃ content, j.source o templates = .ok content := by
  induction js generalizing s with
  | nil => exact List.forall_mem_nil _
  | cons j js ih =>
    obtain ⟨s₁, hmake, hfill⟩ := fill_cons_eq_ok_iff.mp h
    refine List.forall_mem_cons.mpr ⟨?_, ih hfill⟩
    rcases make_cases templates o s j with
      ⟨fault, hmake', -⟩ | ⟨content, hsource, -⟩
    · rw [hmake] at hmake'
      cases hmake'
    · exact ⟨content, hsource⟩

/-- **The files after leaves were filled in** are those before and one for each leaf. -/
theorem get?_files_of_fill (hwet : o.dryRun = false) (h : s.fill templates o js = (.ok (), s'))
    (hplaces : js.Pairwise fun i j => i.place o ≠ j.place o)
    (hmissing : ∀ j ∈ js, s.has (j.target o) = false) {text content : String} :
    s'.files.get? text = some content
      ↔ s.files.get? text = some content ∨
        ∃ j ∈ js, (j.target o).text = text ∧ j.source o templates = .ok content := by
  induction js generalizing s with
  | nil =>
    obtain rfl := (Prod.mk.inj h).2
    simp
  | cons j js ih =>
    obtain ⟨s₁, hmake, hfill⟩ := fill_cons_eq_ok_iff.mp h
    have ⟨hj, hjs⟩ := List.pairwise_cons.mp hplaces
    have ⟨hmissing_j, hmissing_js⟩ := List.forall_mem_cons.mp hmissing
    -- the first leaf goes elsewhere, so the others are still missing
    have hmissing' : ∀ i ∈ js, s₁.has (i.target o) = false := by
      intro i hi
      have hhas := has_make templates (s := s) (Job.text_ne_of_place_ne (hj i hi))
      rw [hmake] at hhas
      exact hhas.trans (hmissing_js i hi)
    rw [ih hfill hjs hmissing']
    simp only [List.mem_cons, exists_eq_or_imp, ← or_assoc]
    refine or_congr_left ?_
    rcases make_cases templates o s j with
      ⟨fault, hmake', -⟩ | ⟨content', hsource, ⟨hdry, -⟩ | ⟨-, -, hmake'⟩⟩
    · rw [hmake] at hmake'
      cases hmake'
    · rw [hwet] at hdry
      cases hdry
    · rw [hmake] at hmake'
      obtain rfl := (Prod.mk.inj hmake').2
      -- its file is new, and all others are what they were
      have hnone : s.files.get? (j.target o).text = none :=
        Option.isSome_eq_false_iff.mp hmissing_j |> Option.isNone_iff_eq_none.mp
      rw [Dict.get?_insert, hsource]
      split
      · next heq =>
        subst heq
        simp [hnone]
      · next hne => simp [hne]

end FileStore

/-! ### Runs -/

/-- **A run over leaves fills in those that are due**, as the files before it settle. -/
theorem run_runLeaves (p : Progress) (js : List Job) (s : FileStore) :
    (runLeaves FileStore.system templates o p js).run s
      = ((s.fill templates o (due o s p.seen js)).1.map fun _ => p.past o s js,
        (s.fill templates o (due o s p.seen js)).2) := by
  induction js generalizing p s with
  | nil =>
    have hpast : p.past o s [] = p := by
      simp [Progress.past, due, passedOver, judge, placesSeen]
    rw [show due o s p.seen [] = [] from rfl, FileStore.fill, hpast]
    rfl
  | cons j js ih =>
    rw [run_runLeaves_cons, run_runLeaf]
    by_cases hseen : j.place o ∈ p.seen
    · rw [if_pos hseen, due_of_mem hseen, Progress.past_of_mem hseen]
      dsimp only
      rw [ih, Progress.seen_skip]
    rw [if_neg hseen]
    cases hhas : s.has (j.target o) with
    | true =>
      rw [if_pos rfl, due_of_has hseen hhas, Progress.past_of_has hseen hhas]
      dsimp only
      rw [ih, Progress.seen_skip, Progress.seen_see]
    | false =>
      rw [if_neg Bool.false_ne_true, due_of_not_has hseen hhas,
        Progress.past_of_not_has hseen hhas, FileStore.fill]
      -- what the leaf leaves behind is at its own place, and no later leaf is judged by it
      have hjudge : judge o (s.make templates o j).2 (j.place o :: p.seen) js
          = judge o s (j.place o :: p.seen) js := by
        refine judge_congr fun i _ hnew => FileStore.has_make templates (Job.text_ne_of_place_ne ?_)
        exact fun heq => hnew (List.mem_cons.mpr (.inl heq.symm))
      generalize s.make templates o j = made at hjudge
      obtain ⟨result, s'⟩ := made
      cases result with
      | error fault => rfl
      | ok _ =>
        have hdue : due o s' (j.place o :: p.seen) js = due o s (j.place o :: p.seen) js := by
          rw [due, hjudge, due]
        have hpast : ((p.see o j).write o j).past o s' js
            = ((p.see o j).write o j).past o s js := by
          unfold Progress.past due passedOver
          rw [Progress.seen_write, Progress.seen_see, hjudge]
        show (runLeaves FileStore.system templates o ((p.see o j).write o j) js).run s' = _
        rw [ih, hpast, Progress.seen_write, Progress.seen_see, hdue]

/-- A leaf that fails is the first at its place, its file is missing, and nothing changes. -/
theorem of_runLeaf_eq_error {fault : RunFault}
    (h : (runLeaf FileStore.system templates o p j).run s = (.error fault, s')) :
    j.place o ∉ p.seen ∧ s.has (j.target o) = false ∧ s' = s ∧ j.Fails templates o s fault := by
  rw [run_runLeaf] at h
  split at h
  · exact absurd (Prod.mk.inj h).1.symm (Except.error_ne_ok _ _)
  next hnew =>
  split at h
  · exact absurd (Prod.mk.inj h).1.symm (Except.error_ne_ok _ _)
  next hhas =>
  refine ⟨hnew, Bool.eq_false_iff.mpr hhas, ?_⟩
  rcases FileStore.make_cases templates o s j with
    ⟨fault', hmake, hfails⟩ | ⟨content, -, ⟨-, hmake⟩ | ⟨-, -, hmake⟩⟩
  · rw [hmake] at h
    obtain ⟨hfault, rfl⟩ := Prod.mk.inj h
    obtain rfl := Except.error.inj hfault
    exact ⟨rfl, hfails⟩
  · rw [hmake] at h
    exact absurd (Prod.mk.inj h).1.symm (Except.error_ne_ok _ _)
  · rw [hmake] at h
    exact absurd (Prod.mk.inj h).1.symm (Except.error_ne_ok _ _)

/-- **A run that fails** goes through the leaves before the one that fails, and stops. -/
theorem exists_of_runLeaves_eq_error {fault : RunFault}
    (h : (runLeaves FileStore.system templates o p js).run s = (.error fault, s')) :
    ∃ before j after reached, js = before ++ j :: after ∧
      (runLeaves FileStore.system templates o p before).run s = (.ok reached, s') ∧
      (runLeaf FileStore.system templates o reached j).run s' = (.error fault, s') := by
  induction js generalizing p s with
  | nil => exact absurd (Prod.mk.inj h).1.symm (Except.error_ne_ok _ _)
  | cons j js ih =>
    rw [run_runLeaves_cons] at h
    cases hstep : (runLeaf FileStore.system templates o p j).run s with
    | mk result s₁ =>
    rw [hstep] at h
    cases result with
    | error fault' =>
      obtain ⟨hfault, rfl⟩ := Prod.mk.inj h
      obtain rfl := Except.error.inj hfault
      obtain ⟨-, -, rfl, -⟩ := of_runLeaf_eq_error hstep
      exact ⟨[], j, js, p, rfl, rfl, hstep⟩
    | ok p₁ =>
      obtain ⟨before, k, after, reached, rfl, hbefore, hk⟩ := ih h
      refine ⟨j :: before, k, after, reached, rfl, ?_, hk⟩
      rw [run_runLeaves_cons, hstep]
      exact hbefore

/-- A run that goes through all leaves has filled in those that were due. -/
theorem runLeaves_eq_ok_iff :
    (runLeaves FileStore.system templates o p js).run s = (.ok p', s')
      ↔ s.fill templates o (due o s p.seen js) = (.ok (), s') ∧ p' = p.past o s js := by
  rw [run_runLeaves, Except.map_fst_eq_ok_iff]
  exact ⟨fun ⟨_, hfill, hp⟩ => ⟨hfill, hp⟩, fun ⟨hfill, hp⟩ => ⟨(), hfill, hp⟩⟩

/-! ### Runs over blueprints -/

/-- A run over blueprints is one over their leaves. -/
theorem run_generate (templates : TemplateSet) (o : RunOptions) (blueprints : List Blueprint)
    (s : FileStore) :
    (generate FileStore.system templates o blueprints).run s
      = match (runLeaves FileStore.system templates o {} (jobs blueprints)).run s with
        | (.error fault, s') => (.error fault, s')
        | (.ok p, s') => (.ok (p.report o (blueprints.map (·.domain))), s') := by
  rw [generate, StateT.run_bind]
  generalize (runLeaves FileStore.system templates o {} (jobs blueprints)).run s = run
  obtain ⟨result, s'⟩ := run
  cases result with
  | error fault => rfl
  | ok p => rfl

/-- The files that are due settle how it ends. -/
theorem run_generate_eq_fill (templates : TemplateSet) (o : RunOptions)
    (blueprints : List Blueprint) (s : FileStore) :
    (generate FileStore.system templates o blueprints).run s
      = ((s.fill templates o (due o s [] (jobs blueprints))).1.map fun _ =>
          ((({} : Progress).past o s (jobs blueprints)).report o (blueprints.map (·.domain))),
        (s.fill templates o (due o s [] (jobs blueprints))).2) := by
  have hseen : ({} : Progress).seen = [] := rfl
  rw [run_generate, run_runLeaves, hseen]
  generalize s.fill templates o (due o s [] (jobs blueprints)) = filled
  obtain ⟨result, s'⟩ := filled
  cases result with
  | error fault => rfl
  | ok _ => rfl

/-- The report of a run that has gone through all leaves. -/
theorem report_past (o : RunOptions) (s : FileStore) (js : List Job) (domains : List String) :
    (({} : Progress).past o s js).report o domains
      = { domains, written := (due o s [] js).map (·.target o), skipped := passedOver o s [] js
          dryRun := o.dryRun } := by
  simp [Progress.past, Progress.report]

/-- **A run that ends well** has filled in the leaves that were due, and reports what became
of all leaves. -/
theorem generate_eq_ok_iff {blueprints : List Blueprint} {report : RunReport} :
    (generate FileStore.system templates o blueprints).run s = (.ok report, s')
      ↔ s.fill templates o (due o s [] (jobs blueprints)) = (.ok (), s') ∧
        report =
          { domains := blueprints.map (·.domain)
            written := (due o s [] (jobs blueprints)).map (·.target o)
            skipped := passedOver o s [] (jobs blueprints)
            dryRun := o.dryRun } := by
  rw [run_generate_eq_fill, report_past, Except.map_fst_eq_ok_iff]
  exact ⟨fun ⟨_, hfill, hp⟩ => ⟨hfill, hp⟩, fun ⟨hfill, hp⟩ => ⟨(), hfill, hp⟩⟩

/-! ### Runs over a schema -/

variable {schema : Schema} {blueprints : List Blueprint}

/-- A run whose domains cannot be expanded does nothing. -/
theorem run_execute_of_error {fault : ExpandFault} (h : schema.expand o.domain = .error fault)
    (s : FileStore) :
    (execute FileStore.system templates o schema).run s = (.error (.expand fault), s) := by
  rw [execute, h]
  rfl

/-- Any other run is one over their blueprints. -/
theorem execute_of_ok (h : schema.expand o.domain = .ok blueprints) :
    execute FileStore.system templates o schema
      = generate FileStore.system templates o blueprints := by
  rw [execute, h]

/-- It is one over the leaves of its domains. -/
theorem run_execute_of_ok (h : schema.expand o.domain = .ok blueprints) (s : FileStore) :
    (execute FileStore.system templates o schema).run s
      = match (runLeaves FileStore.system templates o {} (jobs blueprints)).run s with
        | (.error fault, s') => (.error fault, s')
        | (.ok p, s') => (.ok (p.report o (blueprints.map (·.domain))), s') := by
  rw [execute_of_ok h, run_generate]

/-- The files that are due settle how a run ends. -/
theorem run_execute (h : schema.expand o.domain = .ok blueprints) (s : FileStore) :
    (execute FileStore.system templates o schema).run s
      = ((s.fill templates o (due o s [] (jobs blueprints))).1.map fun _ =>
          ((({} : Progress).past o s (jobs blueprints)).report o (blueprints.map (·.domain))),
        (s.fill templates o (due o s [] (jobs blueprints))).2) := by
  rw [execute_of_ok h, run_generate_eq_fill]

/-- A run over a schema that ends well has done so for its blueprints. -/
theorem execute_eq_ok_iff (h : schema.expand o.domain = .ok blueprints) {report : RunReport} :
    (execute FileStore.system templates o schema).run s = (.ok report, s')
      ↔ s.fill templates o (due o s [] (jobs blueprints)) = (.ok (), s') ∧
        report =
          { domains := blueprints.map (·.domain)
            written := (due o s [] (jobs blueprints)).map (·.target o)
            skipped := passedOver o s [] (jobs blueprints)
            dryRun := o.dryRun } := by
  rw [execute_of_ok h, generate_eq_ok_iff]

/-- A run ends well if all leaves have sources and nothing is refused. -/
theorem exists_report_of_sources (h : schema.expand o.domain = .ok blueprints)
    (hsource : ∀ j ∈ jobs blueprints, (j.source o templates).isOk = true)
    (hfault : ∀ path, s.fault? path = none) :
    ∃ report s', (execute FileStore.system templates o schema).run s = (.ok report, s') := by
  rw [run_execute h]
  cases hfill : s.fill templates o (due o s [] (jobs blueprints)) with
  | mk result s' =>
  cases result with
  | ok _ => exact ⟨_, _, rfl⟩
  | error fault =>
    obtain ⟨j, hj, hfails⟩ := FileStore.exists_fails_of_fill hfill
    obtain ⟨-, ⟨before, after, hjobs, -⟩, -⟩ := mem_due_iff.mp hj
    cases hfails with
    | generate herror =>
      have hok := hsource j (hjobs ▸ List.mem_append_right _ List.mem_cons_self)
      rw [herror] at hok
      cases hok
    | write _ refused =>
      rw [hfault] at refused
      cases refused

/-- Where nothing is refused, no run ends at a write. -/
theorem execute_ne_write_of_unrefused (h : ∀ path, s.fault? path = none) (path : Path)
    (why : FileFault) :
    ((execute FileStore.system templates o schema).run s).1 ≠ .error (.write path why) := by
  intro hwrite
  cases hexpand : schema.expand o.domain with
  | error fault =>
    rw [run_execute_of_error hexpand] at hwrite
    cases hwrite
  | ok blueprints =>
    rw [run_execute hexpand] at hwrite
    cases hfill : s.fill templates o (due o s [] (jobs blueprints)) with
    | mk result s' =>
    rw [hfill] at hwrite
    cases result with
    | ok _ => cases hwrite
    | error fault =>
      obtain rfl := Except.error.inj hwrite
      obtain ⟨j, -, hfails⟩ := FileStore.exists_fails_of_fill hfill
      cases hfails with
      | write _ refused =>
        rw [h] at refused
        cases refused

/-- **How a run ends**: it goes through all leaves, or through those before one that fails. -/
theorem exists_reached (templates : TemplateSet) {o : RunOptions}
    (h : schema.expand o.domain = .ok blueprints) (s : FileStore) :
    ∃ before after reached, jobs blueprints = before ++ after ∧
      (runLeaves FileStore.system templates o {} before).run s
        = (.ok reached, ((execute FileStore.system templates o schema).run s).2) ∧
      (((execute FileStore.system templates o schema).run s).1
          = .ok (reached.report o (blueprints.map (·.domain))) ∧ after = [] ∨
        ∃ fault j rest, ((execute FileStore.system templates o schema).run s).1 = .error fault ∧
          after = j :: rest ∧ j.place o ∉ reached.seen ∧
          ((execute FileStore.system templates o schema).run s).2.has (j.target o) = false ∧
          j.Fails templates o ((execute FileStore.system templates o schema).run s).2 fault) := by
  rw [run_execute_of_ok h]
  cases hrun : (runLeaves FileStore.system templates o {} (jobs blueprints)).run s with
  | mk result s' =>
  cases result with
  | ok p => exact ⟨jobs blueprints, [], p, (List.append_nil _).symm, hrun, .inl ⟨rfl, rfl⟩⟩
  | error fault =>
    obtain ⟨before, j, after, reached, hjobs, hbefore, hj⟩ := exists_of_runLeaves_eq_error hrun
    obtain ⟨hnew, hmissing, -, hfails⟩ := of_runLeaf_eq_error hj
    exact ⟨before, j :: after, reached, hjobs, hbefore,
      .inr ⟨fault, j, after, rfl, rfl, hnew, hmissing, hfails⟩⟩

end Runs

end Scaffold
