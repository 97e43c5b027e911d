import Scaffold.Proofs.Expansion.Names
import Scaffold.Proofs.Generation.WriteOnce
import Scaffold.Template

/-!
# Running again

A run that a refused write cuts short has done a first part of what it was to do, and
what it has written stands in the way of nothing that is left: the leaves of the first
part are all passed over when the run is repeated, and those after it fare as they would
have fared.  So the repetition ends as the run would have ended had nothing been
refused, and a repetition of a run that ended well has nothing to do.

## Main definitions

* `FileStore.mended` — the same files, and nothing goes wrong with them.

## Main results

* `due_of_runLeaves` — what is left to do after a first part.
* `execute_again` — a run after a run that was cut short, or that ended well.
-/

namespace Scaffold

/-- The files, with nothing that goes wrong when a path is written. -/
def FileStore.mended (s : FileStore) : FileStore := { files := s.files }

variable {templates : TemplateSet} {o : RunOptions} {s s' : FileStore} {p : Progress}
  {js done rest : List Job}

/-! ### What is left to do -/

/-- Only leaves at new places are told apart by what a run has written. -/
theorem has_eq_of_runLeaves (hwet : o.dryRun = false)
    (h : (runLeaves FileStore.system templates o {} js).run s = (.ok p, s')) {j : Job}
    (hnew : j.place o ∉ placesSeen o [] js) : s'.has (j.target o) = s.has (j.target o) := by
  refine Bool.eq_iff_iff.mpr ⟨fun htaken => ?_, fun htaken => ?_⟩
  · rcases (has_of_runLeaves hwet h).mp htaken with
      hbefore | ⟨i, ⟨earlier, later, rfl, -⟩, -, htext⟩
    · exact hbefore
    · -- the file is that of a leaf of the same place, which was met
      have hplace : i.place o = j.place o := not_not.mp fun hne => Job.text_ne_of_place_ne hne htext
      exact absurd (mem_placesSeen_iff.mpr (.inr ⟨i, by simp, hplace⟩)) hnew
  · exact (has_of_runLeaves hwet h).mpr (.inl htaken)

/-- Nothing is due of what a run went through. -/
theorem due_eq_nil_of_runLeaves (hwet : o.dryRun = false)
    (h : (runLeaves FileStore.system templates o {} js).run s = (.ok p, s')) :
    due o s' [] js = [] := by
  refine List.eq_nil_iff_forall_not_mem.mpr fun j hj => ?_
  obtain ⟨-, hfirst, hmissing⟩ := mem_due_iff.mp hj
  have htaken : s'.has (j.target o) = true := by
    refine (has_of_runLeaves hwet h).mpr ?_
    cases hbefore : s.has (j.target o) with
    | true => exact .inl rfl
    | false => exact .inr ⟨j, hfirst, hbefore, rfl⟩
  rw [hmissing] at htaken
  cases htaken

/-- **What is left to do** after a first part of a run is what was due after it. -/
theorem due_of_runLeaves (hwet : o.dryRun = false)
    (h : (runLeaves FileStore.system templates o {} done).run s = (.ok p, s'))
    (rest : List Job) :
    due o s' [] (done ++ rest) = due o s (placesSeen o [] done) rest := by
  rw [due_append, due_eq_nil_of_runLeaves hwet h, List.nil_append, due, due,
    judge_congr fun j _ hnew => has_eq_of_runLeaves hwet h hnew]

/-! ### Mended files -/

/-- What is due depends on what files there are, and not on what goes wrong with them. -/
theorem due_of_files_eq {seen : List (List String)} (h : s.files = s'.files) :
    due o s seen js = due o s' seen js := by
  have hhas (path : Path) : s.has path = s'.has path := by
    rw [FileStore.has, h, FileStore.has]
  rw [due, judge_congr fun j _ _ => hhas (j.target o), due]

theorem due_mended (s : FileStore) (seen : List (List String)) (js : List Job) :
    due o s.mended seen js = due o s seen js := due_of_files_eq rfl

theorem Progress.past_mended (p : Progress) (s : FileStore) (js : List Job) :
    p.past o s.mended js = p.past o s js := by
  have hjudge (seen : List (List String)) : judge o s.mended seen js = judge o s seen js :=
    judge_congr fun _ _ _ => rfl
  rw [past, due, passedOver, hjudge, past, due, passedOver]

/-- What is filled in without a fault is filled in where nothing goes wrong. -/
theorem FileStore.fill_mended (h : s.fill templates o js = (.ok (), s')) :
    s.mended.fill templates o js = (.ok (), s'.mended) := by
  induction js generalizing s with
  | nil =>
    obtain rfl := (Prod.mk.inj h).2
    rfl
  | cons j js ih =>
    obtain ⟨s₁, hmake, hfill⟩ := fill_cons_eq_ok_iff.mp h
    refine fill_cons_eq_ok_iff.mpr ⟨s₁.mended, ?_, ih hfill⟩
    rcases make_cases templates o s j with
      ⟨fault, hmake', -⟩ | ⟨content, hsource, ⟨hdry, hmake'⟩ | ⟨hwet, -, hmake'⟩⟩
    · rw [hmake] at hmake'
      cases hmake'
    · obtain rfl := (Prod.mk.inj (hmake.symm.trans hmake')).2
      rw [make, hsource]
      dsimp only
      rw [run_writeLeaf, if_pos hdry]
    · obtain rfl := (Prod.mk.inj (hmake.symm.trans hmake')).2
      rw [make, hsource]
      dsimp only
      rw [run_writeLeaf, if_neg (Bool.eq_false_iff.mp hwet)]
      rfl

/-- Where nothing goes wrong with the files, only a source that cannot be generated ends a
run. -/
theorem FileStore.exists_generate_of_fill_mended {fault : RunFault}
    (h : s.mended.fill templates o js = (.error fault, s')) :
    ∃ artifact why, fault = .generate artifact why := by
  obtain ⟨j, -, hfails⟩ := exists_fails_of_fill h
  cases hfails with
  | generate h => exact ⟨_, _, rfl⟩
  | write h refused => cases refused

/-! ### Leaves that are passed over -/

/-- Where every file is there, each leaf is skipped in its turn. -/
theorem getElem?_passedOver {seen : List (List String)} (hnone : due o s seen js = [])
    {before after : List Job} {j : Job} (hjs : js = before ++ j :: after) :
    (passedOver o s seen js)[before.length]?
      = some ⟨j.leaf.path, j.target o,
          if j.place o ∈ placesSeen o seen before then .duplicate else .present⟩ := by
  subst hjs
  rw [due_append, List.append_eq_nil_iff] at hnone
  have hlength : (passedOver o s seen before).length = before.length := by
    have hsum := length_due_add_length_passedOver o s seen before
    rw [hnone.1, List.length_nil, Nat.zero_add] at hsum
    exact hsum
  rw [passedOver_append, List.getElem?_append_right hlength.le, hlength, Nat.sub_self, passedOver]
  split
  · next hseen =>
    rw [judge_of_mem hseen]
    rfl
  · next hseen =>
    cases hhas : s.has (j.target o) with
    | true =>
      rw [judge_of_not_mem hseen, if_pos hhas]
      rfl
    | false =>
      have hdue := hnone.2
      rw [due_of_not_has hseen hhas] at hdue
      cases hdue

/-! ### Runs -/

/-- The paths that a run over leaves has written are the new ones. -/
theorem exists_written_iff (hwet : o.dryRun = false)
    (h : (runLeaves FileStore.system templates o {} js).run s = (.ok p, s')) (path : Path) :
    s.has path = false ∧ s'.has path = true ↔ ∃ w ∈ p.written, w.text = path.text := by
  obtain ⟨-, rfl⟩ := runLeaves_eq_ok_iff.mp h
  have hwritten : (({} : Progress).past o s js).written = (due o s [] js).map (·.target o) := rfl
  rw [new_iff_of_runLeaves hwet h]
  simp only [hwritten, List.mem_map, exists_exists_and_eq_and]
  refine exists_congr fun j => ?_
  rw [mem_due_iff, and_iff_right List.not_mem_nil, and_assoc]

/-- What is due of a run is what a first part of it wrote, and what is due after that. -/
theorem due_append_of_runLeaves (hwet : o.dryRun = false)
    (h : (runLeaves FileStore.system templates o {} done).run s = (.ok p, s'))
    (rest : List Job) :
    due o s [] (done ++ rest) = due o s [] done ++ due o s' [] (done ++ rest) := by
  rw [due_append, due_of_runLeaves hwet h]

/-- **To do the rest is to do the whole**, once a first part of it is done. -/
theorem fill_due_mended (hwet : o.dryRun = false)
    (h : (runLeaves FileStore.system templates o {} done).run s = (.ok p, s'))
    (rest : List Job) :
    s.mended.fill templates o (due o s [] (done ++ rest))
      = s'.mended.fill templates o (due o s' [] (done ++ rest)) := by
  rw [due_append_of_runLeaves hwet h, FileStore.fill_append,
    FileStore.fill_mended (runLeaves_eq_ok_iff.mp h).1]

/-- What a first part and the rest have written is what the whole writes. -/
theorem written_append_of_runLeaves (hwet : o.dryRun = false)
    (h : (runLeaves FileStore.system templates o {} done).run s = (.ok p, s'))
    (rest : List Job) :
    p.written ++ (({} : Progress).past o s' (done ++ rest)).written
      = (({} : Progress).past o s (done ++ rest)).written := by
  obtain ⟨-, rfl⟩ := runLeaves_eq_ok_iff.mp h
  show ([] ++ (due o s [] done).map (·.target o)) ++ ([] ++ (due o s' [] _).map (·.target o))
    = [] ++ (due o s [] _).map (·.target o)
  rw [due_append_of_runLeaves hwet h, List.map_append, List.nil_append, List.nil_append,
    List.nil_append]

variable {schema : Schema} {blueprints : List Blueprint}

/-- A run that a refused write cuts short has gone through the leaves before that of the
write. -/
theorem exists_of_refused {path : Path} {fault : FileFault}
    (h : (execute FileStore.system templates o schema).run s = (.error (.write path fault), s')) :
    ∃ blueprints done j rest reached,
      schema.expand o.domain = .ok blueprints ∧ jobs blueprints = done ++ j :: rest ∧
      j.target o = path ∧
      (runLeaves FileStore.system templates o {} done).run s = (.ok reached, s') := by
  cases hexpand : schema.expand o.domain with
  | error why =>
    rw [run_execute_of_error hexpand] at h
    cases h
  | ok blueprints =>
  obtain ⟨done, after, reached, hjobs, hdone, hend⟩ := exists_reached templates hexpand s
  rw [h] at hdone hend
  rcases hend with ⟨hok, -⟩ | ⟨_, j, rest, herror, rfl, -, -, hfails⟩
  · cases hok
  · obtain rfl := Except.error.inj herror
    cases hfails with
    | write => exact ⟨blueprints, done, j, rest, reached, rfl, hjobs, rfl, hdone⟩

/-- A run that ends well has gone through all leaves. -/
theorem exists_of_ended {report : RunReport}
    (h : (execute FileStore.system templates o schema).run s = (.ok report, s')) :
    ∃ blueprints reached, schema.expand o.domain = .ok blueprints ∧
      (runLeaves FileStore.system templates o {} (jobs blueprints)).run s = (.ok reached, s') := by
  cases hexpand : schema.expand o.domain with
  | error why =>
    rw [run_execute_of_error hexpand] at h
    cases h
  | ok blueprints =>
  obtain ⟨done, after, reached, hjobs, hdone, hend⟩ := exists_reached templates hexpand s
  rw [h] at hdone hend
  rcases hend with ⟨-, rfl⟩ | ⟨_, _, _, herror, -⟩
  · rw [List.append_nil] at hjobs
    exact ⟨blueprints, reached, rfl, hjobs ▸ hdone⟩
  · cases herror

/-- The rest of a run ends as the whole does, and what is written adds up. -/
theorem run_execute_mended (hwet : o.dryRun = false)
    (hexpand : schema.expand o.domain = .ok blueprints) (hjobs : jobs blueprints = done ++ rest)
    (h : (runLeaves FileStore.system templates o {} done).run s = (.ok p, s')) :
    let whole := (execute FileStore.system templates o schema).run s.mended
    let again := (execute FileStore.system templates o schema).run s'.mended
    again.2 = whole.2 ∧
      ((∃ r r', whole.1 = .ok r ∧ again.1 = .ok r' ∧ p.written ++ r'.written = r.written) ∨
        ∃ artifact why, whole.1 = .error (.generate artifact why) ∧
          again.1 = .error (.generate artifact why)) := by
  intro whole again
  have hwhole : whole = _ := run_execute hexpand s.mended
  have hagain : again = _ := run_execute hexpand s'.mended
  have hfill := fill_due_mended hwet h rest
  rw [due_mended, Progress.past_mended, hjobs] at hwhole hagain
  rw [← hfill] at hagain
  cases hresult : s.mended.fill templates o (due o s [] (done ++ rest)) with
  | mk result store =>
  rw [hresult] at hwhole hagain
  rw [hwhole, hagain]
  refine ⟨rfl, ?_⟩
  cases result with
  | error fault =>
    obtain ⟨artifact, why, rfl⟩ := FileStore.exists_generate_of_fill_mended hresult
    exact .inr ⟨artifact, why, rfl, rfl⟩
  | ok _ =>
    exact .inl ⟨_, _, rfl, rfl, written_append_of_runLeaves hwet h rest⟩

/-- A run after one that ended well skips all leaves. -/
theorem run_execute_of_ended (hwet : o.dryRun = false)
    (hexpand : schema.expand o.domain = .ok blueprints)
    (h : (runLeaves FileStore.system templates o {} (jobs blueprints)).run s = (.ok p, s'))
    (faults : Path → Option FileFault) :
    ∃ again, (execute FileStore.system templates o schema).run { s' with fault? := faults }
        = (.ok again, { s' with fault? := faults }) ∧
      again.written = [] ∧ again.skipped.length = (jobs blueprints).length ∧
      ∀ before j after, jobs blueprints = before ++ j :: after →
        again.skipped[before.length]? = some ⟨j.leaf.path, j.target o,
          if ∃ i ∈ before, i.place o = j.place o then .duplicate else .present⟩ := by
  generalize hs : ({ s' with fault? := faults } : FileStore) = s₁
  have hfiles : s₁.files = s'.files := by rw [← hs]
  -- what was due has been written, so nothing is due again
  have hnone : due o s₁ [] (jobs blueprints) = [] := by
    rw [due_of_files_eq hfiles, due_eq_nil_of_runLeaves hwet h]
  have hskipped : (({} : Progress).past o s₁ (jobs blueprints)).skipped
      = passedOver o s₁ [] (jobs blueprints) := List.nil_append _
  refine ⟨(({} : Progress).past o s₁ (jobs blueprints)).report o (blueprints.map (·.domain)),
    ?_, ?_, ?_, ?_⟩
  · rw [run_execute hexpand, hnone]
    rfl
  · show [] ++ (due o s₁ [] _).map (·.target o) = []
    rw [hnone]
    rfl
  · show (Progress.past o s₁ _ _).skipped.length = _
    rw [hskipped, ← length_due_add_length_passedOver o s₁ [] (jobs blueprints), hnone,
      List.length_nil, Nat.zero_add]
  · intro before j after hjobs
    show (Progress.past o s₁ _ _).skipped[_]? = _
    rw [hskipped, getElem?_passedOver hnone hjobs]
    simp only [mem_placesSeen_iff, List.not_mem_nil, false_or]

/-- **Running again.**  A run that a refused write cut short is completed by another one
in which nothing is refused: the files and the outcome are those of one run in which
nothing is refused, and so is what both have written, taken together.  After a run that
ended well there is nothing to do. -/
theorem execute_again (templates : TemplateSet) {o : RunOptions} (schema : Schema)
    (s : FileStore) (hwet : o.dryRun = false) :
    let run (s : FileStore) := (execute FileStore.system templates o schema).run s
    (∀ path fault s₁, run s = (.error (.write path fault), s₁) →
      ∃ blueprints done j rest reached,
        schema.expand o.domain = .ok blueprints ∧ jobs blueprints = done ++ j :: rest ∧
        j.target o = path ∧
        (runLeaves FileStore.system templates o {} done).run s = (.ok reached, s₁) ∧
        (∀ path : Path, s.has path = false ∧ s₁.has path = true ↔
          ∃ w ∈ reached.written, w.text = path.text) ∧
        (run s₁.mended).2 = (run s.mended).2 ∧
        ((∃ whole again, (run s.mended).1 = .ok whole ∧ (run s₁.mended).1 = .ok again ∧
            reached.written ++ again.written = whole.written) ∨
          ∃ artifact why, (run s.mended).1 = .error (.generate artifact why) ∧
            (run s₁.mended).1 = .error (.generate artifact why))) ∧
    ∀ report s₁ faults, run s = (.ok report, s₁) →
      ∃ blueprints again, schema.expand o.domain = .ok blueprints ∧
        run { s₁ with fault? := faults } = (.ok again, { s₁ with fault? := faults }) ∧
        again.written = [] ∧ again.skipped.length = (jobs blueprints).length ∧
        ∀ before j after, jobs blueprints = before ++ j :: after →
          again.skipped[before.length]? = some ⟨j.leaf.path, j.target o,
            if ∃ i ∈ before, i.place o = j.place o then .duplicate else .present⟩ := by
  intro run
  refine ⟨fun path fault s₁ h => ?_, fun report s₁ faults h => ?_⟩
  · obtain ⟨blueprints, done, j, rest, reached, hexpand, hjobs, htarget, hdone⟩ :=
      exists_of_refused h
    exact ⟨blueprints, done, j, rest, reached, hexpand, hjobs, htarget, hdone,
      exists_written_iff hwet hdone, run_execute_mended hwet hexpand hjobs hdone⟩
  · obtain ⟨blueprints, reached, hexpand, hdone⟩ := exists_of_ended h
    obtain ⟨again, hagain⟩ := run_execute_of_ended hwet hexpand hdone faults
    exact ⟨blueprints, again, hexpand, hagain⟩

/-- No files, and one path that cannot be written. -/
def fullDisk : FileStore where
  fault? path :=
    if path.text = "generated/Shop/Domain/ValueObject/Price.php" then some (.other "disk full")
    else none

theorem execute_again_fullDisk :
    let run (s : FileStore) := (execute FileStore.system builtinTemplates {} ⟨[orderDomain]⟩).run s
    (run fullDisk).1 = .error (.write ⟨"generated/Shop/Domain/ValueObject/Price.php"⟩
        (.other "disk full")) ∧
      (run fullDisk).2.has ⟨"generated/Shop/Domain/Entity/OrderEntity.php"⟩ = true ∧
      (run (run fullDisk).2.mended).2 = (run fullDisk.mended).2 := by
  intro run
  have hrun : (run fullDisk).1
        = .error (.write ⟨"generated/Shop/Domain/ValueObject/Price.php"⟩ (.other "disk full")) ∧
      (run fullDisk).2.has ⟨"generated/Shop/Domain/Entity/OrderEntity.php"⟩ = true := by
    decide +kernel
  have hagain := execute_again (o := {}) builtinTemplates ⟨[orderDomain]⟩ fullDisk rfl
  generalize hcut : run fullDisk = cut at hrun ⊢
  obtain ⟨result, s₁⟩ := cut
  obtain ⟨rfl, hwritten⟩ := hrun
  obtain ⟨_, _, _, _, _, hrest⟩ := hagain.1 _ _ _ hcut
  exact ⟨rfl, hwritten, hrest.2.2.2.2.2.1⟩

end Scaffold
