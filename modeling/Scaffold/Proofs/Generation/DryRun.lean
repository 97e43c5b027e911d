import Scaffold.Proofs.Generation.Faults

/-!
# Dry runs

A run that writes keeps changing the files that it asks about, and a dry run does not.
Still they come to the same: what becomes of every leaf is settled by the files before the
run, since a file that the run has written is never that of a leaf it has yet to ask about.
Both generate the same sources, in the same order, so only a refused write can make a
difference.

## Main results

* `FileStore.fill_of_dry` — filling in leaves, dry or not.
* `dryRun_predicts` — a dry run ends as a run that writes.
-/

namespace Scaffold

variable {templates : TemplateSet} {s s' : FileStore} {js : List Job}

/-! ### Options that differ in what is written -/

section Options

variable (o : RunOptions) (dry : Bool)

/-- Verdicts are the same whether a run is dry or not. -/
theorem judge_withDryRun (s : FileStore) (seen : List (List String)) (js : List Job) :
    judge { o with dryRun := dry } s seen js = judge o s seen js :=
  judge_eq_judge (fun _ _ => rfl) (fun _ _ _ => rfl) fun _ _ => Iff.rfl

theorem due_withDryRun (s : FileStore) (seen : List (List String)) (js : List Job) :
    due { o with dryRun := dry } s seen js = due o s seen js := by
  rw [due, judge_withDryRun, due]

theorem passedOver_withDryRun (s : FileStore) (seen : List (List String)) (js : List Job) :
    passedOver { o with dryRun := dry } s seen js = passedOver o s seen js := by
  rw [passedOver, judge_withDryRun]
  rfl

end Options

/-! ### Filling in without writing -/

/-- **Filling in leaves ends alike, dry or not,** unless a write is refused.  The stores
need not be the same, since a source does not depend on files. -/
theorem FileStore.fill_of_dry {o wet : RunOptions}
    (h : ∀ path why, (s'.fill templates wet js).1 ≠ .error (.write path why))
    (hwet : wet.dryRun = false) (hdry : o.dryRun = true)
    (hsource : ∀ j ∈ js, j.source o templates = j.source wet templates) :
    (s.fill templates o js).1 = (s'.fill templates wet js).1 := by
  -- on the leaves, with both stores free, since only one of them changes on the way
  induction js generalizing s s' with
  | nil => rfl
  | cons j js ih =>
    have ⟨hsource_j, hsource_js⟩ := List.forall_mem_cons.mp hsource
    rw [fill] at h
    rw [fill, fill]
    rcases make_cases templates wet s' j with
      ⟨fault, hmake, hfails⟩ | ⟨content, hcontent, ⟨hdry', -⟩ | ⟨-, -, hmake⟩⟩
    · rw [hmake] at h ⊢
      cases hfails with
      | generate hfault => rw [make, hsource_j, hfault]
      | write => exact absurd rfl (h _ _)
    · rw [hwet] at hdry'
      cases hdry'
    · have hkept : s.make templates o j = (.ok (), s) := by
        rw [make, hsource_j, hcontent]
        dsimp only
        rw [run_writeLeaf, if_pos hdry]
      rw [hmake] at h
      rw [hmake, hkept]
      exact ih h hsource_js

/-! ### Runs -/

/-- Verdicts, paths and sources are those of the options, whether a run is dry or not. -/
theorem run_execute_withDryRun {o : RunOptions} {schema : Schema} {blueprints : List Blueprint}
    (h : schema.expand o.domain = .ok blueprints) (dry : Bool) (s : FileStore) :
    (execute FileStore.system templates { o with dryRun := dry } schema).run s
      = ((s.fill templates { o with dryRun := dry } (due o s [] (jobs blueprints))).1.map fun _ =>
          { domains := blueprints.map (·.domain)
            written := (due o s [] (jobs blueprints)).map (·.target o)
            skipped := passedOver o s [] (jobs blueprints)
            dryRun := dry },
        (s.fill templates { o with dryRun := dry } (due o s [] (jobs blueprints))).2) := by
  rw [run_execute (o := { o with dryRun := dry }) h, report_past, due_withDryRun,
    passedOver_withDryRun]
  rfl

/-- **A dry run tells how a run will go.**  It changes nothing, and ends as a run that
writes does, provided that no write is refused: with the same fault, or with the same
domains, the same list of written paths and the same artifacts skipped.  After the other
run all of these paths are taken. -/
theorem dryRun_predicts (templates : TemplateSet) (o : RunOptions) (schema : Schema)
    (s : FileStore)
    (hwrites : ∀ path why,
      ((execute FileStore.system templates { o with dryRun := false } schema).run s).1
        ≠ .error (.write path why)) :
    let dry := (execute FileStore.system templates { o with dryRun := true } schema).run s
    let run := (execute FileStore.system templates { o with dryRun := false } schema).run s
    dry.2 = s ∧ dry.1 = run.1.map (fun report => { report with dryRun := true }) ∧
      ∀ report, run.1 = .ok report →
        report.dryRun = false ∧ ∀ path ∈ report.written, run.2.has path = true := by
  intro dry run
  change ∀ path why, run.1 ≠ .error (.write path why) at hwrites
  cases hexpand : schema.expand o.domain with
  | error fault =>
    have hdry : dry = (.error (.expand fault), s) :=
      run_execute_of_error (o := { o with dryRun := true }) hexpand s
    have hrun : run = (.error (.expand fault), s) :=
      run_execute_of_error (o := { o with dryRun := false }) hexpand s
    rw [hdry, hrun]
    exact ⟨rfl, rfl, nofun⟩
  | ok blueprints =>
  -- both runs are left with the same leaves, each at a place of its own
  have hdry : dry = _ := run_execute_withDryRun hexpand true s
  have hrun : run = _ := run_execute_withDryRun hexpand false s
  have hkept := FileStore.fill_of_dryRun templates (o := { o with dryRun := true }) rfl s
    (due o s [] (jobs blueprints))
  have hmissing : ∀ j ∈ due o s [] (jobs blueprints), s.has (j.target o) = false :=
    fun j hj => (mem_due_iff.mp hj).2.2
  have hplaces : (due o s [] (jobs blueprints)).Pairwise fun i j => i.place o ≠ j.place o :=
    pairwise_due
  -- which leaves these are makes no difference from here on
  generalize due o s [] (jobs blueprints) = leaves at hdry hrun hkept hmissing hplaces
  cases hfill : s.fill templates { o with dryRun := false } leaves with
  | mk result s' =>
  have hends : ∀ path why,
      (s.fill templates { o with dryRun := false } leaves).1 ≠ .error (.write path why) := by
    intro path why heq
    refine hwrites path why ?_
    rw [hrun, heq]
    rfl
  have hsame := FileStore.fill_of_dry (o := { o with dryRun := true }) (s := s) hends rfl rfl
    fun _ _ => rfl
  rw [hfill] at hsame hrun
  rw [hdry, hrun, hkept, hsame]
  refine ⟨rfl, ?_, fun report hreport => ?_⟩
  · cases result with
    | error fault => rfl
    | ok _ => rfl
  · cases result with
    | error fault => cases hreport
    | ok _ =>
      obtain rfl := Except.ok.inj hreport
      refine ⟨rfl, fun path hpath => ?_⟩
      obtain ⟨j, hj, rfl⟩ := List.mem_map.mp hpath
      -- a leaf that was filled in has a source, so its file is there
      obtain ⟨content, hsource⟩ := FileStore.exists_source_of_fill hfill j hj
      have hfile := (FileStore.get?_files_of_fill rfl hfill hplaces hmissing).mpr
        (.inr ⟨j, hj, rfl, hsource⟩)
      exact Option.isSome_iff_exists.mpr ⟨content, hfile⟩

/-- The file of the entity is there already. -/
def shopStore : FileStore where
  files := .ofList [("generated/Shop/Domain/Entity/OrderEntity.php", "<?php\n")]

/-- Both runs start by passing over the entity, and end well. -/
theorem dryRun_predicts_orderDomain :
    ∃ (report : RunReport) (s' : FileStore),
      (execute FileStore.system builtinTemplates { dryRun := true } ⟨[orderDomain]⟩).run shopStore
        = (.ok { report with dryRun := true }, shopStore) ∧
      (execute FileStore.system builtinTemplates {} ⟨[orderDomain]⟩).run shopStore
        = (.ok report, s') ∧
      report.skipped.head? = some ⟨"domain.entity.order",
        ⟨"generated/Shop/Domain/Entity/OrderEntity.php"⟩, .present⟩ ∧
      ∀ path ∈ report.written, s'.has path = true := by
  have hfacts : orderDomain.anyBlueprint (fun b =>
      decide ((∀ l ∈ b.leaves, l.type ≠ .migrations) ∧
        (passedOver {} shopStore [] (jobs [b])).head? = some ⟨"domain.entity.order",
          ⟨"generated/Shop/Domain/Entity/OrderEntity.php"⟩, .present⟩)) = true := by
    decide +kernel
  obtain ⟨b, hb, hpass⟩ := Domain.exists_of_anyBlueprint hfacts
  obtain ⟨hne, hhead⟩ := of_decide_eq_true hpass
  have hexpand := Schema.expand_singleton hb
  obtain ⟨report, s', hrun⟩ := exists_report_of_ne_migrations (o := {}) (s := shopStore) hexpand
    (fun _ => rfl) (List.forall_mem_singleton.mpr hne)
  obtain ⟨hstore, hdry, htaken⟩ := dryRun_predicts builtinTemplates {} ⟨[orderDomain]⟩ shopStore
    (execute_ne_write_of_unrefused fun _ => rfl)
  rw [show (execute FileStore.system builtinTemplates { ({} : RunOptions) with dryRun := false }
    ⟨[orderDomain]⟩).run shopStore = _ from hrun] at hdry htaken
  refine ⟨report, s', Prod.ext hdry hstore, hrun, ?_, (htaken report rfl).2⟩
  rw [((execute_eq_ok_iff (o := {}) hexpand).mp hrun).2]
  exact hhead

end Scaffold
