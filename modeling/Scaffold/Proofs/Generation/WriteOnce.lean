import Scaffold.Proofs.Blueprint
import Scaffold.Proofs.Expansion.Obligations
import Scaffold.Proofs.Generation.Runs

/-!
# Files are written once

However a run ends, a file that was there before is as it was, and every new file holds
what the first leaf of its place comes to.  A run that fails has written the files of
the leaves before the one that failed, and no others.  It writes nothing at all if it is
dry, or if one of its domains cannot be expanded.

A write is refused by the path it is for.  This covers every way in which the writes of
a run may fail, since no run writes a path twice.

## Main results

* `get?_files_of_runLeaves` — the files after leaves were gone through.
* `files_of_execute` — the files after a run.
-/

namespace Scaffold

variable {templates : TemplateSet} {o : RunOptions} {s s' : FileStore} {p : Progress}
  {js : List Job}

/-- The files after a run over leaves that did not fail. -/
theorem get?_files_of_runLeaves (hwet : o.dryRun = false)
    (h : (runLeaves FileStore.system templates o {} js).run s = (.ok p, s'))
    {text content : String} :
    s'.files.get? text = some content
      ↔ s.files.get? text = some content ∨
        ∃ j, FirstIn o js j ∧ s.has (j.target o) = false ∧ (j.target o).text = text ∧
          j.source o templates = .ok content := by
  have hfill := (runLeaves_eq_ok_iff.mp h).1
  rw [FileStore.get?_files_of_fill hwet hfill pairwise_due fun j hj => (mem_due_iff.mp hj).2.2]
  refine or_congr_right (exists_congr fun j => ?_)
  rw [mem_due_iff, and_iff_right List.not_mem_nil, and_assoc]

/-- The paths taken after a run over leaves that did not fail. -/
theorem has_of_runLeaves (hwet : o.dryRun = false)
    (h : (runLeaves FileStore.system templates o {} js).run s = (.ok p, s')) {path : Path} :
    s'.has path = true
      ↔ s.has path = true ∨
        ∃ j, FirstIn o js j ∧ s.has (j.target o) = false ∧ (j.target o).text = path.text := by
  have hsource := FileStore.exists_source_of_fill (runLeaves_eq_ok_iff.mp h).1
  simp only [FileStore.has, Dict.contains, Option.isSome_iff_exists,
    get?_files_of_runLeaves hwet h]
  constructor
  · rintro ⟨content, hbefore | ⟨j, hfirst, hmissing, htext, -⟩⟩
    · exact .inl ⟨content, hbefore⟩
    · exact .inr ⟨j, hfirst, hmissing, htext⟩
  · rintro (⟨content, hbefore⟩ | ⟨j, hfirst, hmissing, htext⟩)
    · exact ⟨content, .inl hbefore⟩
    · obtain ⟨content, hcontent⟩ :=
        hsource j (mem_due_iff.mpr ⟨List.not_mem_nil, hfirst, hmissing⟩)
      exact ⟨content, .inr ⟨j, hfirst, hmissing, htext, hcontent⟩⟩

/-- The paths that are new after a run over leaves that did not fail. -/
theorem new_iff_of_runLeaves (hwet : o.dryRun = false)
    (h : (runLeaves FileStore.system templates o {} js).run s = (.ok p, s')) (path : Path) :
    s.has path = false ∧ s'.has path = true
      ↔ ∃ j, FirstIn o js j ∧ s.has (j.target o) = false ∧ (j.target o).text = path.text := by
  rw [has_of_runLeaves hwet h]
  constructor
  · rintro ⟨hmissing, htaken | hnew⟩
    · exact absurd htaken (Bool.eq_false_iff.mp hmissing)
    · exact hnew
  · intro hnew
    have ⟨j, _, hmissing, htext⟩ := hnew
    refine ⟨?_, .inr hnew⟩
    rw [FileStore.has, ← htext]
    exact hmissing

/-- A run over leaves that is dry changes nothing. -/
theorem store_of_runLeaves (hdry : o.dryRun = true)
    (h : (runLeaves FileStore.system templates o {} js).run s = (.ok p, s')) : s' = s := by
  have hfill := (runLeaves_eq_ok_iff.mp h).1
  have hsame := FileStore.fill_of_dryRun templates hdry s (due o s [] js)
  rw [hfill] at hsame
  exact hsame

/-- The faults after a run over leaves are those before it. -/
theorem fault?_of_runLeaves
    (h : (runLeaves FileStore.system templates o {} js).run s = (.ok p, s')) :
    s'.fault? = s.fault? := by
  have hfill := (runLeaves_eq_ok_iff.mp h).1
  have hsame := FileStore.fault?_fill templates o s (due o s [] js)
  rw [hfill] at hsame
  exact hsame

theorem FirstIn.append {before : List Job} {j : Job} (h : FirstIn o before j)
    (after : List Job) : FirstIn o (before ++ after) j := by
  obtain ⟨earlier, later, rfl, hfirst⟩ := h
  exact ⟨earlier, later ++ after, by rw [List.append_assoc, List.cons_append], hfirst⟩

/-- The blueprints of a schema come in the order of its domains. -/
theorem Schema.domains_of_expand {schema : Schema} {only : Option String}
    {blueprints : List Blueprint} (h : schema.expand only = .ok blueprints) :
    blueprints.map (·.domain) = (schema.selected only).map (·.name) := by
  refine Except.map_of_mapM_eq_ok (fun dom b hexpand => ?_) h
  obtain ⟨-, d, -, s, -, rfl⟩ := Domain.expand_eq_ok_iff.mp hexpand
  exact Blueprint.domain_ofSections dom.name s

/-- A schema of one domain. -/
theorem Schema.expand_singleton {dom : Domain} {b : Blueprint} (h : dom.expand = .ok b) :
    Schema.expand ⟨[dom]⟩ none = .ok [b] := by
  show (List.mapM Domain.expand [dom] : Except ExpandFault (List Blueprint)) = _
  rw [List.mapM_cons, h]
  rfl

/-- **Files are written once**, however the run ends.  A run that fails has written the
leaves before the one that fails.  Leaves are taken by domain, layer, type and name. -/
theorem files_of_execute (templates : TemplateSet) (o : RunOptions) (schema : Schema)
    (s : FileStore) :
    let run := (execute FileStore.system templates o schema).run s
    (∀ text content, s.files.get? text = some content → run.2.files.get? text = some content) ∧
    (∀ text content, s.files.get? text = none → run.2.files.get? text = some content →
      ∃ blueprints j, schema.expand o.domain = .ok blueprints ∧ FirstIn o (jobs blueprints) j ∧
        (j.target o).text = text ∧ j.source o templates = .ok content) ∧
    (∀ blueprints, o.dryRun = false → schema.expand o.domain = .ok blueprints →
      ∃ before after, jobs blueprints = before ++ after ∧
        (∀ path : Path, s.has path = false ∧ run.2.has path = true ↔
          ∃ j, FirstIn o before j ∧ s.has (j.target o) = false ∧
            (j.target o).text = path.text) ∧
        ((∃ report, run.1 = .ok report) ∧ after = [] ∨
          ∃ fault j rest, run.1 = .error fault ∧ after = j :: rest ∧
            j.Fails templates o s fault ∧ run.2.has (j.target o) = false)) ∧
    ((∃ fault, schema.expand o.domain = .error fault) ∨ o.dryRun = true → run.2 = s) ∧
    ∀ blueprints, schema.expand o.domain = .ok blueprints →
      blueprints.map (·.domain) = (schema.selected o.domain).map (·.name) ∧
        ∀ b ∈ blueprints, b.leaves.Pairwise Leaf.Precedes := by
  intro run
  cases hexpand : schema.expand o.domain with
  | error fault =>
    -- nothing is generated of a schema that is refused
    have hrun : run = (.error (.expand fault), s) := run_execute_of_error hexpand s
    rw [hrun]
    refine ⟨fun _ _ => id, fun text content hnone hsome => ?_, nofun, fun _ => rfl, ?_⟩
    · rw [hnone] at hsome
      cases hsome
    · nofun
  | ok blueprints =>
  have horder : blueprints.map (·.domain) = (schema.selected o.domain).map (·.name) ∧
      ∀ b ∈ blueprints, b.leaves.Pairwise Leaf.Precedes :=
    ⟨Schema.domains_of_expand hexpand, fun b _ => b.pairwise_leaves⟩
  -- the run gets past the leaves in `before`, and `hend` is what it ends with there
  obtain ⟨before, after, reached, hjobs, hbefore, hend⟩ := exists_reached templates hexpand s
  change _ = (_, run.2) at hbefore
  cases hdry : o.dryRun with
  | true =>
    have hsame : run.2 = s := store_of_runLeaves hdry hbefore
    rw [hsame]
    refine ⟨fun _ _ => id, fun text content hnone hsome => ?_, nofun, fun _ => rfl, ?_⟩
    · rw [hnone] at hsome
      cases hsome
    · rintro _ ⟨⟩
      exact horder
  | false =>
  refine ⟨fun text content h => (get?_files_of_runLeaves hdry hbefore).mpr (.inl h),
    ?_, ?_, ?_, ?_⟩
  · intro text content hnone hsome
    rcases (get?_files_of_runLeaves hdry hbefore).mp hsome with h | ⟨j, hfirst, -, htext, hsource⟩
    · rw [hnone] at h
      cases h
    · exact ⟨blueprints, j, rfl, hjobs ▸ hfirst.append after, htext, hsource⟩
  · intro bs _ heq
    obtain rfl := Except.ok.inj heq
    refine ⟨before, after, hjobs, new_iff_of_runLeaves hdry hbefore, ?_⟩
    rcases hend with ⟨hok, hafter⟩ | ⟨fault, j, rest, herror, hafter, -, hmissing, hfails⟩
    · exact .inl ⟨⟨_, hok⟩, hafter⟩
    · refine .inr ⟨fault, j, rest, herror, hafter, ?_, hmissing⟩
      exact hfails.of_fault? (fault?_of_runLeaves hbefore)
  · rintro (⟨_, ⟨⟩⟩ | ⟨⟨⟩⟩)
  · rintro _ ⟨⟩
    exact horder

end Scaffold
