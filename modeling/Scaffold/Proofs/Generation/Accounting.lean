import Mathlib.Algebra.Ring.Nat
import Scaffold.Proofs.Generation.Faults
import Scaffold.Proofs.Generation.Places

/-!
# What a report accounts for

A run keeps two lists and changes the files on the way, and its report still says of every
leaf what the files before the run and the leaves before it settle: a leaf whose place an
earlier one had is a duplicate, even if there is a file as well; of the others those are
present whose file was there at the start, and the rest is written.  Each leaf is in one of
the two lists, once and in its turn.

This is about any list of blueprints, expanded from a schema or not.

## Main results

* `verdict_of_judge` — the verdict on a leaf, from the leaves before it.
* `generate_accounts` — a report accounts for every leaf.
-/

namespace Scaffold

variable {templates : TemplateSet} {o : RunOptions} {s s' : FileStore}
  {blueprints : List Blueprint}

/-! ### Verdicts -/

/-- **The verdict on a leaf** depends on the leaves before it and on the files. -/
theorem verdict_of_judge {js : List Job} {before after : List (Job × Option SkipReason)}
    {j : Job} {verdict : Option SkipReason}
    (h : judge o s [] js = before ++ (j, verdict) :: after) :
    verdict = if ∃ e ∈ before, e.1.place o = j.place o then some .duplicate
      else if s.has (j.target o) then some .present else none := by
  have hleaves : (judge o s [] js).map (·.1) = js := map_fst_judge
  rw [h, List.map_append, List.map_cons] at hleaves
  have hlength : (judge o s [] (before.map (·.1))).length = before.length := by
    rw [← List.length_map, map_fst_judge, List.length_map]
  have hseen : j.place o ∈ placesSeen o [] (before.map (·.1))
      ↔ ∃ e ∈ before, e.1.place o = j.place o := by
    rw [mem_placesSeen_iff, or_iff_right List.not_mem_nil]
    simp only [List.mem_map, exists_exists_and_eq_and]
  -- the verdicts on the leaves before it come from those leaves alone
  rw [← hleaves, judge_append] at h
  obtain ⟨-, hrest⟩ := List.append_inj h hlength
  by_cases hmem : j.place o ∈ placesSeen o [] (before.map (·.1))
  · rw [judge_of_mem hmem] at hrest
    rw [if_pos (hseen.mp hmem)]
    exact (Prod.mk.inj (List.cons.inj hrest).1).2.symm
  · rw [judge_of_not_mem hmem] at hrest
    rw [if_neg fun hearlier => hmem (hseen.mpr hearlier)]
    exact (Prod.mk.inj (List.cons.inj hrest).1).2.symm

/-! ### Reports -/

theorem length_jobs (blueprints : List Blueprint) :
    (jobs blueprints).length = (blueprints.map Blueprint.size).sum := by
  rw [jobs, List.length_flatMap]
  simp only [List.length_map]
  rfl

/-- **A report accounts for every leaf** of the blueprints, once and in its turn.  A leaf is a
duplicate exactly when an earlier one has its place; the first leaf of a place is skipped for
its file exactly when that was there before the run, and is written otherwise.  So the paths
that are written have different places, and none of them was taken. -/
theorem generate_accounts {report : RunReport}
    (h : (generate FileStore.system templates o blueprints).run s = (.ok report, s')) :
    ∃ verdicts : List (Job × Option SkipReason),
      verdicts.map (·.1) = jobs blueprints ∧
      (∀ before j verdict after, verdicts = before ++ (j, verdict) :: after →
        (verdict = some .duplicate ↔ ∃ e ∈ before, e.1.place o = j.place o) ∧
        ((∀ e ∈ before, e.1.place o ≠ j.place o) →
          (verdict = some .present ↔ s.has (j.target o) = true) ∧
          (verdict = none ↔ s.has (j.target o) = false))) ∧
      report.written = verdicts.filterMap
        (fun e => if e.2 = none then some (e.1.target o) else none) ∧
      report.skipped = verdicts.filterMap
        (fun e => e.2.map (Skip.mk e.1.leaf.path (e.1.target o))) ∧
      report.domains = blueprints.map (·.domain) ∧
      report.total = (blueprints.map Blueprint.size).sum ∧
      report.written.Pairwise (fun p q => p.components ≠ q.components) ∧
      ∀ path ∈ report.written, s.has path = false := by
  obtain ⟨-, rfl⟩ := generate_eq_ok_iff.mp h
  refine ⟨judge o s [] (jobs blueprints), map_fst_judge, ?_, ?_, rfl, rfl, ?_, ?_, ?_⟩
  · intro before j verdict after hsplit
    obtain rfl := verdict_of_judge hsplit
    constructor
    · split
      · -- a place taken by an earlier leaf counts more than a file that is there
        next hearlier => exact iff_of_true rfl hearlier
      · next hfirst =>
        refine iff_of_false ?_ hfirst
        split <;> nofun
    · intro hfirst
      have hnone : ¬ ∃ e ∈ before, e.1.place o = j.place o := by
        rintro ⟨e, he, heq⟩
        exact hfirst e he heq
      rw [if_neg hnone]
      cases s.has (j.target o) with
      | true => decide
      | false => decide
  · show (due o s [] (jobs blueprints)).map (·.target o) = _
    rw [due, List.map_filterMap]
    refine congrArg (List.filterMap · _) (funext fun e => ?_)
    obtain ⟨j, verdict⟩ := e
    cases verdict with
    | none => rfl
    | some reason => rfl
  · rw [← length_jobs, ← length_due_add_length_passedOver o s [] (jobs blueprints)]
    exact congrArg (· + _) (List.length_map _)
  · exact List.pairwise_map.mpr pairwise_due
  · intro path hpath
    obtain ⟨j, hj, rfl⟩ := List.mem_map.mp hpath
    exact (mem_due_iff.mp hj).2.2

/-- A repository and two interfaces, which have one file. -/
def userDomain : Domain where
  name := "User"
  sections := .ofList
    [("entity", .null), ("value_object", .null), ("command", .null),
      ("repository", .map [("user", .null)]), ("repository_interface", .map [("user", .null)])]

/-- The file of the repository is there already. -/
def userStore : FileStore where
  files := .ofList [("generated/User/Infrastructure/Repository/UserRepository.php", "<?php\n")]

/-- One leaf is written, one is a duplicate, and one is present. -/
theorem generate_accounts_userDomain :
    ∃ b report s', userDomain.expand = .ok b ∧
      (generate FileStore.system builtinTemplates {} [b]).run userStore = (.ok report, s') ∧
      report.total = b.size ∧
      report.written
        = [⟨"generated/User/Domain/RepositoryInterface/UserRepositoryInterface.php"⟩] ∧
      report.skipped
        = [⟨"domain.repository_interface.user",
              ⟨"generated/User/Domain/RepositoryInterface/UserRepositoryInterface.php"⟩,
              .duplicate⟩,
            ⟨"infrastructure.repository.user",
              ⟨"generated/User/Infrastructure/Repository/UserRepository.php"⟩, .present⟩] ∧
      report.written.Pairwise (fun p q => p.components ≠ q.components) ∧
      ∀ path ∈ report.written, userStore.has path = false := by
  have hfacts : userDomain.anyBlueprint (fun b =>
      decide ((∀ l ∈ b.leaves, l.type ≠ .migrations) ∧
        (due {} userStore [] (jobs [b])).map (·.target {})
          = [⟨"generated/User/Domain/RepositoryInterface/UserRepositoryInterface.php"⟩] ∧
        passedOver {} userStore [] (jobs [b])
          = [⟨"domain.repository_interface.user",
                ⟨"generated/User/Domain/RepositoryInterface/UserRepositoryInterface.php"⟩,
                .duplicate⟩,
              ⟨"infrastructure.repository.user",
                ⟨"generated/User/Infrastructure/Repository/UserRepository.php"⟩,
                .present⟩])) = true := by
    decide +kernel
  obtain ⟨b, hb, hpass⟩ := Domain.exists_of_anyBlueprint hfacts
  obtain ⟨hne, hdue, hskipped⟩ := of_decide_eq_true hpass
  have hexpand := Schema.expand_singleton hb
  obtain ⟨report, s', hrun⟩ := exists_report_of_ne_migrations (o := {}) (s := userStore) hexpand
    (fun _ => rfl) (List.forall_mem_singleton.mpr hne)
  rw [execute_of_ok (o := {}) hexpand] at hrun
  obtain ⟨_, -, -, -, -, -, htotal, hplaces, hmissing⟩ := generate_accounts hrun
  have hreport := (generate_eq_ok_iff.mp hrun).2
  exact ⟨b, report, s', hb, hrun, htotal, by rw [hreport]; exact hdue,
    by rw [hreport]; exact hskipped, hplaces, hmissing⟩

end Scaffold
