import Scaffold.Proofs.Generation.Places
import Scaffold.Proofs.Source.Columns

/-!
# Runs that fail

Once all domains are accepted and nothing is refused by the disk, one thing is left that
can end a run: a migration with an argument that no column can hold.  Even that counts only
if its source is asked for, that is, if its file is not there and no earlier leaf has it.
The run ends at the first leaf of this kind.

## Main definitions

* `Blocks` — a run cannot get past a leaf.

## Main results

* `Blocks.exists_source_eq_error` — why it cannot.
* `execute_fails_iff_blocks` — which runs fail, and how.
-/

namespace Scaffold

/-- A run that has met the leaves before this one cannot get past it: it is a migration with
an argument that no column can hold, nothing is at its path, and no earlier leaf has it. -/
structure Blocks (o : RunOptions) (s : FileStore) (before : List Job) (j : Job) : Prop where
  /-- It is a migration. -/
  migration : j.leaf.type = .migrations
  /-- It has an argument that is neither a value object nor a scalar. -/
  unstored : ∃ arg ∈ j.leaf.spec.args, arg.isStored = false
  /-- Nothing is at its path. -/
  missing : s.has (j.target o) = false
  /-- No earlier leaf has its path. -/
  first : ∀ i ∈ before, i.place o ≠ j.place o

variable {o : RunOptions} {schema : Schema} {blueprints : List Blueprint} {s s' : FileStore}
  {before after : List Job} {j : Job}

/-- **Which leaves of a run have no source**, and why. -/
theorem Job.source_eq_error_iff (h : schema.expand o.domain = .ok blueprints)
    (hj : j ∈ jobs blueprints) {why : SourceFault} :
    j.source o builtinTemplates = .error why
      ↔ j.leaf.type = .migrations ∧
        ∃ arg, j.leaf.spec.args.find? (!·.isStored) = some arg ∧
          why = .unsupportedColumn j.leaf.path arg.name := by
  obtain ⟨hb, hl⟩ := mem_jobs_iff.mp hj
  obtain ⟨dom, hdom⟩ := exists_domain_of_mem_expand h hb
  exact Domain.source_eq_error_iff hdom o.rootNamespace hl

/-- A run over accepted domains without migrations ends well, if nothing is refused. -/
theorem exists_report_of_ne_migrations (h : schema.expand o.domain = .ok blueprints)
    (hwrites : ∀ path, s.fault? path = none)
    (hne : ∀ b ∈ blueprints, ∀ l ∈ b.leaves, l.type ≠ .migrations) :
    ∃ report s', (execute FileStore.system builtinTemplates o schema).run s = (.ok report, s') := by
  refine exists_report_of_sources h (fun j hj => ?_) hwrites
  obtain ⟨hb, hl⟩ := mem_jobs_iff.mp hj
  obtain ⟨dom, hdom⟩ := exists_domain_of_mem_expand h hb
  exact Domain.isOk_source_of_ne_migrations hdom o.rootNamespace hl (hne _ hb _ hl)

/-- A leaf that blocks has no source. -/
theorem Blocks.exists_source_eq_error (hblocks : Blocks o s before j)
    (h : schema.expand o.domain = .ok blueprints) (hj : j ∈ jobs blueprints) :
    ∃ why, j.source o builtinTemplates = .error why := by
  have hsome : (j.leaf.spec.args.find? (!·.isStored)).isSome = true := by
    simpa using hblocks.unstored
  obtain ⟨arg, harg⟩ := Option.isSome_iff_exists.mp hsome
  exact ⟨_, (Job.source_eq_error_iff h hj).mpr ⟨hblocks.migration, arg, harg, rfl⟩⟩

/-- A run does not get past a leaf that blocks. -/
theorem not_blocks_of_reached (h : schema.expand o.domain = .ok blueprints) {js : List Job}
    (hjs : ∀ i ∈ js, i ∈ jobs blueprints) {p : Progress}
    (hreached : (runLeaves FileStore.system builtinTemplates o {} js).run s = (.ok p, s'))
    (hsplit : js = before ++ j :: after) : ¬Blocks o s before j := by
  intro hblocks
  have hdue : j ∈ due o s [] js :=
    mem_due_iff.mpr ⟨List.not_mem_nil, ⟨before, after, hsplit, hblocks.first⟩, hblocks.missing⟩
  obtain ⟨content, hcontent⟩ :=
    FileStore.exists_source_of_fill (runLeaves_eq_ok_iff.mp hreached).1 j hdue
  have hj : j ∈ jobs blueprints := hjs j (hsplit ▸ List.mem_append_right _ List.mem_cons_self)
  obtain ⟨why, herror⟩ := hblocks.exists_source_eq_error h hj
  rw [hcontent] at herror
  cases herror

/-- A leaf at which a run fails blocks it, if nothing is refused. -/
theorem blocks_of_fails (h : schema.expand o.domain = .ok blueprints)
    (hwrites : ∀ path, s.fault? path = none) (hj : j ∈ jobs blueprints) {p : Progress}
    (hreached : (runLeaves FileStore.system builtinTemplates o {} before).run s = (.ok p, s'))
    (hnew : j.place o ∉ p.seen) (hmissing : s'.has (j.target o) = false) {fault : RunFault}
    (hfails : j.Fails builtinTemplates o s' fault) :
    Blocks o s before j ∧ ∃ arg, j.leaf.spec.args.find? (!·.isStored) = some arg ∧
      fault = .generate j.leaf.path (.unsupportedColumn j.leaf.path arg.name) := by
  obtain ⟨hfill, rfl⟩ := runLeaves_eq_ok_iff.mp hreached
  have hfirst : ∀ i ∈ before, i.place o ≠ j.place o := by
    intro i hi heq
    exact hnew (mem_placesSeen_iff.mpr (.inr ⟨i, hi, heq⟩))
  have hmissing' : s.has (j.target o) = false := by
    -- what was filled in on the way is at other places
    have hother : ∀ i ∈ due o s [] before, (i.target o).text ≠ (j.target o).text := by
      intro i hi
      obtain ⟨-, ⟨earlier, later, hsplit, -⟩, -⟩ := mem_due_iff.mp hi
      exact Job.text_ne_of_place_ne (hfirst i (hsplit ▸ List.mem_append_right _ List.mem_cons_self))
    have hkept := FileStore.has_fill builtinTemplates (s := s) hother
    rw [hfill] at hkept
    exact hkept.symm.trans hmissing
  cases hfails with
  | write _ refused =>
    have hsame := FileStore.fault?_fill builtinTemplates o s (due o s [] before)
    rw [hfill] at hsame
    rw [hsame, hwrites] at refused
    cases refused
  | generate hsource =>
    obtain ⟨hmigration, arg, harg, rfl⟩ := (Job.source_eq_error_iff h hj).mp hsource
    have hunstored : arg.isStored = false := by simpa using List.find?_some harg
    exact ⟨⟨hmigration, ⟨arg, List.mem_of_find?_eq_some harg, hunstored⟩, hmissing', hfirst⟩,
      arg, harg, rfl⟩

/-- **Which runs over accepted domains fail.**  With the templates of the program, and if
nothing is refused, a run fails exactly where a leaf blocks it, and it ends with the fault
of the first such leaf.  No leaf fails for the kind of a value object. -/
theorem execute_fails_iff_blocks (h : schema.expand o.domain = .ok blueprints) (s : FileStore)
    (hwrites : ∀ path, s.fault? path = none) :
    let run := (execute FileStore.system builtinTemplates o schema).run s
    ((∃ fault, run.1 = .error fault) ↔
      ∃ before j after, jobs blueprints = before ++ j :: after ∧ Blocks o s before j) ∧
    (∀ fault, run.1 = .error fault →
      ∃ before j after, jobs blueprints = before ++ j :: after ∧ Blocks o s before j ∧
        (∀ earlier i later, before = earlier ++ i :: later → ¬Blocks o s earlier i) ∧
        ∃ arg, j.leaf.spec.args.find? (!·.isStored) = some arg ∧
          fault = .generate j.leaf.path (.unsupportedColumn j.leaf.path arg.name)) ∧
    ∀ j ∈ jobs blueprints, ∀ word, j.source o builtinTemplates ≠ .error (.word word) := by
  intro run
  obtain ⟨before, after, reached, hjobs, hreached, hend⟩ :=
    exists_reached builtinTemplates h s
  change _ = (_, run.2) at hreached
  have hmem : ∀ i ∈ before, i ∈ jobs blueprints :=
    fun i hi => hjobs ▸ List.mem_append_left _ hi
  have hfails : ∀ fault, run.1 = .error fault →
      ∃ before j after, jobs blueprints = before ++ j :: after ∧ Blocks o s before j ∧
        (∀ earlier i later, before = earlier ++ i :: later → ¬Blocks o s earlier i) ∧
        ∃ arg, j.leaf.spec.args.find? (!·.isStored) = some arg ∧
          fault = .generate j.leaf.path (.unsupportedColumn j.leaf.path arg.name) := by
    intro fault hfault
    rcases hend with ⟨hok, -⟩ | ⟨_, j, rest, herror, rfl, hnew, hmissing, hfails⟩
    · rw [show run.1 = _ from hok] at hfault
      cases hfault
    · rw [show run.1 = _ from herror] at hfault
      obtain rfl := Except.error.inj hfault
      have hj : j ∈ jobs blueprints := hjobs ▸ List.mem_append_right _ List.mem_cons_self
      obtain ⟨hblocks, hwhy⟩ := blocks_of_fails h hwrites hj hreached hnew hmissing hfails
      exact ⟨before, j, rest, hjobs, hblocks,
        fun _ _ _ hsplit => not_blocks_of_reached h hmem hreached hsplit, hwhy⟩
  refine ⟨⟨?_, ?_⟩, hfails, ?_⟩
  · rintro ⟨fault, hfault⟩
    obtain ⟨before, j, after, hjobs, hblocks, -⟩ := hfails fault hfault
    exact ⟨before, j, after, hjobs, hblocks⟩
  · rintro ⟨earlier, j, later, hsplit, hblocks⟩
    rcases hend with ⟨-, rfl⟩ | ⟨fault, -, -, herror, -⟩
    · -- a run that ends well has got past all leaves
      rw [List.append_nil] at hjobs
      exact absurd hblocks (not_blocks_of_reached h hmem hreached (hjobs ▸ hsplit))
    · exact ⟨fault, herror⟩
  · intro j hj word hword
    obtain ⟨-, arg, -, heq⟩ := (Job.source_eq_error_iff h hj).mp hword
    cases heq

/-- A domain with two migrations, of which the second has an argument of a foreign type. -/
def ledgerDomain : Domain where
  name := "Ledger"
  sections := .ofList
    [("entity", .null), ("value_object", .null), ("command", .null),
      ("migrations", .map [("accounts", .list [.string "uuid"]),
        ("entries", .list [.string "uuid", .string "Money\\Money"])])]

/-- Its second migration blocks every run that finds no file of it. -/
theorem execute_fails_iff_blocks_ledgerDomain :
    ∃ b before j after, ledgerDomain.expand = .ok b ∧ jobs [b] = before ++ j :: after ∧
      Blocks {} {} before j ∧ j.leaf.path = "infrastructure.migrations.entries" ∧
      ((execute FileStore.system builtinTemplates {} ⟨[ledgerDomain]⟩).run {}).1
        = .error (.generate "infrastructure.migrations.entries"
            (.unsupportedColumn "infrastructure.migrations.entries" "Money")) := by
  have hfails : ((execute FileStore.system builtinTemplates {} ⟨[ledgerDomain]⟩).run {}).1
      = .error (.generate "infrastructure.migrations.entries"
          (.unsupportedColumn "infrastructure.migrations.entries" "Money")) := by
    decide +kernel
  have hok : ledgerDomain.expand.isOk = true := by decide +kernel
  obtain ⟨b, hb⟩ := Except.exists_eq_ok_of_isOk hok
  obtain ⟨-, hfirst, -⟩ :=
    execute_fails_iff_blocks (o := {}) (Schema.expand_singleton hb) {} fun _ => rfl
  obtain ⟨before, j, after, hjobs, hblocks, -, arg, -, hfault⟩ := hfirst _ hfails
  exact ⟨b, before, j, after, hb, hjobs, hblocks, (RunFault.generate.inj hfault).1.symm, hfails⟩

end Scaffold
