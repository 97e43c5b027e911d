import Mathlib.Data.List.Perm.Basic
import Scaffold.Proofs.Generation.DryRun

/-!
# Runs domain by domain

The files of different domains lie in different directories, as long as no artifact is
called after a name with a slash.  So what becomes of the leaves of one domain does not
depend on what has been written for others, and the leaves that are due may be filled in in
any order.  A run over all domains can then be taken apart into one run for each of them.

## Main definitions

* `executeEach` — a run for each of several domains, one after the other.
* `Apart` — no file of one blueprint is at the place of a file of another.

## Main results

* `FileStore.fill_perm` — the order in which leaves are filled in.
* `due_jobs_of_apart` — what is due, blueprint by blueprint.
* `Schema.runs_independent` — a run over all domains, and runs for each of them.
-/

namespace Scaffold

/-- A run for each of several domains, one after the other on the same files. -/
def executeEach {m : Type → Type} [Monad m] (fs : FileSystem m) (templates : TemplateSet)
    (o : RunOptions) (s : Schema) (names : List String) :
    m (List (Except RunFault RunReport)) :=
  names.mapM fun name => execute fs templates { o with domain := some name } s

variable {templates : TemplateSet} {o : RunOptions} {s s' : FileStore} {js js' : List Job}

/-! ### The order of leaves -/

namespace FileStore

theorem fill_append_eq_ok_iff {xs ys : List Job} :
    s.fill templates o (xs ++ ys) = (.ok (), s')
      ↔ ∃ s₁, s.fill templates o xs = (.ok (), s₁) ∧ s₁.fill templates o ys = (.ok (), s') := by
  induction xs generalizing s with
  | nil =>
    constructor
    · exact fun h => ⟨s, rfl, h⟩
    · rintro ⟨_, ⟨⟩, h⟩
      exact h
  | cons x xs ih =>
    rw [List.cons_append, fill_cons_eq_ok_iff]
    constructor
    · rintro ⟨s₁, hmake, hrest⟩
      obtain ⟨s₂, hxs, hys⟩ := ih.mp hrest
      exact ⟨s₂, fill_cons_eq_ok_iff.mpr ⟨s₁, hmake, hxs⟩, hys⟩
    · rintro ⟨s₂, hxs, hys⟩
      obtain ⟨s₁, hmake, hrest⟩ := fill_cons_eq_ok_iff.mp hxs
      exact ⟨s₁, hmake, ih.mpr ⟨s₂, hrest, hys⟩⟩

/-- **Leaves of different places may be filled in in any order.** -/
theorem fill_perm (hwet : o.dryRun = false) (h : js.Perm js')
    (hplaces : js.Pairwise fun i j => i.place o ≠ j.place o)
    (hfill : s.fill templates o js = (.ok (), s')) : s.fill templates o js' = (.ok (), s') := by
  induction h generalizing s s' with
  | nil => exact hfill
  | cons j _ ih =>
    obtain ⟨s₁, hmake, hrest⟩ := fill_cons_eq_ok_iff.mp hfill
    exact fill_cons_eq_ok_iff.mpr ⟨s₁, hmake, ih (List.pairwise_cons.mp hplaces).2 hrest⟩
  | swap i j js =>
    have hne : j.place o ≠ i.place o := (List.pairwise_cons.mp hplaces).1 i List.mem_cons_self
    obtain ⟨s₁, hmake_j, hrest⟩ := fill_cons_eq_ok_iff.mp hfill
    obtain ⟨s₂, hmake_i, hrest⟩ := fill_cons_eq_ok_iff.mp hrest
    obtain ⟨content, hsource, hfault, rfl⟩ := (make_eq_ok_iff hwet).mp hmake_j
    obtain ⟨content', hsource', hfault', rfl⟩ := (make_eq_ok_iff hwet).mp hmake_i
    refine fill_cons_eq_ok_iff.mpr ⟨_, (make_eq_ok_iff hwet).mpr ⟨_, hsource', hfault', rfl⟩,
      fill_cons_eq_ok_iff.mpr ⟨_, (make_eq_ok_iff hwet).mpr ⟨_, hsource, hfault, rfl⟩, ?_⟩⟩
    rw [← hrest, Dict.insert_comm (Job.text_ne_of_place_ne hne)]
  | trans hleft _ ihleft ihright =>
    exact ihright (hleft.pairwise hplaces fun h => h.symm) (ihleft hplaces hfill)

end FileStore

/-! ### Blueprints apart -/

/-- No file of one blueprint is at the place of a file of another. -/
def Apart (o : RunOptions) (b c : Blueprint) : Prop :=
  ∀ i ∈ jobs [b], ∀ j ∈ jobs [c], i.place o ≠ j.place o

theorem jobs_cons (b : Blueprint) (bs : List Blueprint) :
    jobs (b :: bs) = jobs [b] ++ jobs bs := by
  simp [jobs]

/-- **What is due of blueprints apart** is due of each of them. -/
theorem due_jobs_of_apart {bs : List Blueprint} (h : bs.Pairwise (Apart o)) :
    due o s [] (jobs bs) = bs.flatMap fun b => due o s [] (jobs [b]) := by
  induction bs with
  | nil => rfl
  | cons b bs ih =>
    have ⟨hb, hbs⟩ := List.pairwise_cons.mp h
    have hnew : ∀ j ∈ jobs bs, j.place o ∈ placesSeen o [] (jobs [b]) ↔ j.place o ∈ [] := by
      intro j hj
      refine iff_of_false (fun hseen => ?_) List.not_mem_nil
      obtain ⟨i, hi, heq⟩ := (mem_placesSeen_iff.mp hseen).resolve_left List.not_mem_nil
      obtain ⟨hc, hl⟩ := mem_jobs_iff.mp hj
      exact hb _ hc i hi j (mem_jobs_iff.mpr ⟨List.mem_singleton_self _, hl⟩) heq
    rw [jobs_cons, due_append, List.flatMap_cons, ← ih hbs]
    refine congrArg (due o s [] (jobs [b]) ++ ·) ?_
    rw [due, judge_eq_judge (fun _ _ => rfl) (fun _ _ _ => rfl) hnew, due]

/-- What is due does not change when leaves of other places are filled in. -/
theorem due_of_fill {result : Except RunFault Unit}
    (hfill : s.fill templates o js = (result, s'))
    (h : ∀ i ∈ js, ∀ j ∈ js', i.place o ≠ j.place o) : due o s' [] js' = due o s [] js' := by
  rw [due, judge_congr fun j hj _ => ?_, due]
  have hkept := FileStore.has_fill templates (s := s) fun i hi =>
    Job.text_ne_of_place_ne (h i hi j hj)
  rw [hfill] at hkept
  exact hkept

theorem mem_of_mem_due {seen : List (List String)} {j : Job} (h : j ∈ due o s seen js) :
    j ∈ js := by
  obtain ⟨-, ⟨before, after, rfl, -⟩, -⟩ := mem_due_iff.mp h
  exact List.mem_append_right _ List.mem_cons_self

/-! ### Runs restricted to a domain -/

section Restricted

variable (o) (domain : Option String)

/-- What is due does not depend on the restriction. -/
theorem due_withDomain (s : FileStore) (js : List Job) :
    due { o with domain := domain } s [] js = due o s [] js := by
  have hjudge : judge { o with domain := domain } s [] js = judge o s [] js :=
    judge_eq_judge (fun _ _ => rfl) (fun _ _ _ => rfl) fun _ _ => Iff.rfl
  rw [due, hjudge, due]

theorem FileStore.fill_withDomain (s : FileStore) (js : List Job) :
    s.fill templates { o with domain := domain } js = s.fill templates o js := by
  induction js generalizing s with
  | nil => rfl
  | cons j js ih =>
    have hmake : s.make templates { o with domain := domain } j = s.make templates o j := rfl
    rw [fill, fill, hmake]
    simp only [ih]

end Restricted

/-- One run after the other. -/
theorem run_executeEach_cons (schema : Schema) (name : String) (names : List String)
    (s : FileStore) :
    (executeEach FileStore.system templates o schema (name :: names)).run s
      = let first := (execute FileStore.system templates { o with domain := some name }
          schema).run s
        let rest := (executeEach FileStore.system templates o schema names).run first.2
        (first.1 :: rest.1, rest.2) := by
  rw [executeEach, List.mapM_cons]
  rfl

/-- **Runs for blueprints apart** fill in what is due of each of them. -/
theorem run_executeEach_of_apart {schema : Schema} {bs : List Blueprint}
    (hselected : ∀ b ∈ bs, schema.expand (some b.domain) = .ok [b])
    (hapart : bs.Pairwise (Apart o))
    (hfill : s.fill templates o (bs.flatMap fun b => due o s [] (jobs [b])) = (.ok (), s')) :
    ∃ reports : List RunReport,
      (executeEach FileStore.system templates o schema (bs.map (·.domain))).run s
        = (reports.map .ok, s') ∧
      reports.map (·.domains) = bs.map ([·.domain]) ∧
      reports.flatMap (·.written)
        = (bs.flatMap fun b => due o s [] (jobs [b])).map (·.target o) := by
  -- on the blueprints, with the files free, since each run leaves other files to the next
  induction bs generalizing s with
  | nil =>
    obtain rfl := (Prod.mk.inj hfill).2
    exact ⟨[], rfl, rfl, rfl⟩
  | cons b bs ih =>
    have ⟨hb, hbs⟩ := List.pairwise_cons.mp hapart
    have ⟨hselected_b, hselected_bs⟩ := List.forall_mem_cons.mp hselected
    rw [List.flatMap_cons, FileStore.fill_append_eq_ok_iff] at hfill
    obtain ⟨s₁, hfirst, hrest⟩ := hfill
    have hsame : (bs.flatMap fun c => due o s₁ [] (jobs [c]))
        = bs.flatMap fun c => due o s [] (jobs [c]) := by
      refine List.flatMap_congr fun c hc => due_of_fill hfirst fun i hi j hj => ?_
      exact hb c hc i (mem_of_mem_due hi) j hj
    rw [← hsame] at hrest
    obtain ⟨reports, hreports, hdomains, hwritten⟩ := ih hselected_bs hbs hrest
    have hdue := due_withDomain o (some b.domain) s (jobs [b])
    obtain ⟨first, hrun, hdomain, hfiles⟩ : ∃ first : RunReport,
        (execute FileStore.system templates { o with domain := some b.domain } schema).run s
          = (.ok first, s₁) ∧
        first.domains = [b.domain] ∧
        first.written = (due o s [] (jobs [b])).map (·.target o) := by
      refine ⟨_, (execute_eq_ok_iff (o := { o with domain := some b.domain })
        hselected_b).mpr ⟨?_, rfl⟩, rfl, ?_⟩
      · rw [hdue, FileStore.fill_withDomain]
        exact hfirst
      · rw [← hdue]
        rfl
    refine ⟨first :: reports, ?_, ?_, ?_⟩
    · rw [List.map_cons, run_executeEach_cons, hrun]
      dsimp only
      rw [hreports, List.map_cons]
    · rw [List.map_cons, List.map_cons, hdomain, hdomains]
    · rw [List.flatMap_cons, List.flatMap_cons, List.map_append, hfiles, hwritten, hsame]

/-! ### The domains of a schema -/

section Domains

variable {schema : Schema} {blueprints : List Blueprint} {b c : Blueprint}

/-- A domain that is selected is expanded alone, and as it is together with the others. -/
theorem Schema.expand_of_mem (h : schema.expand none = .ok blueprints)
    (hnames : schema.domainNames.Nodup) (hb : b ∈ blueprints) :
    schema.expand (some b.domain) = .ok [b] := by
  obtain ⟨dom, hdom, hexpand⟩ := Except.exists_of_mapM_eq_ok h hb
  obtain ⟨before, after, hsplit⟩ := List.append_of_mem (show dom ∈ schema.domains from hdom)
  have hother : ∀ other ∈ before ++ after, ¬(other.name == dom.name) = true := by
    rw [domainNames, hsplit, List.map_append, List.map_cons, List.nodup_middle,
      List.nodup_cons, ← List.map_append] at hnames
    intro other hmem heq
    exact hnames.1 (List.mem_map.mpr ⟨other, hmem, eq_of_beq heq⟩)
  have hselected : schema.domains.filter (·.name == dom.name) = [dom] := by
    have hself : (dom.name == dom.name) = true := beq_self_eq_true _
    have hbefore := List.filter_eq_nil_iff.mpr fun other hmem =>
      hother other (List.mem_append_left after hmem)
    have hafter := List.filter_eq_nil_iff.mpr fun other hmem =>
      hother other (List.mem_append_right before hmem)
    rw [hsplit, List.filter_append, List.filter_cons, if_pos hself, hbefore, hafter]
    rfl
  have hdomain : b.domain = dom.name := by
    obtain ⟨-, d, -, -, rfl⟩ := Domain.exists_of_expand hexpand
    exact Blueprint.domain_ofSections _ _
  rw [hdomain]
  show (schema.domains.filter (·.name == dom.name)).mapM Domain.expand = _
  rw [hselected]
  exact expand_singleton hexpand

/-- **Domains of different names are apart**, if no artifact is called after a name with a
slash. -/
theorem apart_of_domain_ne {dom dom' : Domain} (hb : dom.expand = .ok b)
    (hc : dom'.expand = .ok c) (hne : b.domain ≠ c.domain)
    (hslash : ∀ l ∈ b.leaves, '/' ∉ l.names.emittedName.toList)
    (hslash' : ∀ l ∈ c.leaves, '/' ∉ l.names.emittedName.toList) : Apart o b c := by
  rintro ⟨b', l⟩ hi ⟨c', m⟩ hj hplace
  obtain ⟨hb', hl⟩ := mem_jobs_iff.mp hi
  obtain ⟨hc', hm⟩ := mem_jobs_iff.mp hj
  obtain rfl : b' = b := List.mem_singleton.mp hb'
  obtain rfl : c' = c := List.mem_singleton.mp hc'
  exact hne ((ResolvedNames.components_targetPath_inj (plain_domain_of_expand hb)
    (plain_domain_of_expand hc) (hslash l hl) (hslash' m hm)).mp hplace).1

/-- The domains of a schema are apart. -/
theorem Schema.pairwise_apart (h : schema.expand none = .ok blueprints)
    (hnames : schema.domainNames.Nodup)
    (hslash : ∀ b ∈ blueprints, ∀ l ∈ b.leaves, '/' ∉ l.names.emittedName.toList) :
    blueprints.Pairwise (Apart o) := by
  refine (List.pairwise_map.mp (nodup_domains_of_expand h hnames)).imp_of_mem ?_
  intro b c hb hc hne
  obtain ⟨dom, hdom⟩ := exists_domain_of_mem_expand h hb
  obtain ⟨dom', hdom'⟩ := exists_domain_of_mem_expand h hc
  exact apart_of_domain_ne hdom hdom' hne (hslash b hb) (hslash c hc)

/-- **Domains are independent.**  Where no artifact is called after a name with a slash, a
run over all domains of a schema, if it ends well, may be replaced by a run for each of
them, one after the other in any order.  Each of these ends well, they leave the same
files, and write the same paths. -/
theorem Schema.runs_independent (h : schema.expand none = .ok blueprints)
    (hnames : schema.domainNames.Nodup)
    (hslash : ∀ b ∈ blueprints, ∀ l ∈ b.leaves, '/' ∉ l.names.emittedName.toList)
    (hall : o.domain = none) (hwet : o.dryRun = false) {report : RunReport}
    (hrun : (execute FileStore.system templates o schema).run s = (.ok report, s'))
    {order : List String} (horder : order.Perm schema.domainNames) :
    ∃ reports : List RunReport,
      (executeEach FileStore.system templates o schema order).run s
        = (reports.map .ok, s') ∧
      reports.map (·.domains) = order.map ([·]) ∧
      (reports.flatMap (·.written)).Perm report.written := by
  -- the order of the names is one of the blueprints
  obtain ⟨bs, rfl, hperm⟩ :
      ∃ bs : List Blueprint, order = bs.map (·.domain) ∧ bs.Perm blueprints := by
    have hdomains : blueprints.map (·.domain) = schema.domainNames := domains_of_expand h
    rw [← hdomains] at horder
    exact (iff_of_eq (congrFun₂ (List.eq_map_comp_perm (·.domain)) order blueprints)).mpr horder
  have hselected : ∀ b ∈ bs, schema.expand (some b.domain) = .ok [b] :=
    fun b hb => expand_of_mem h hnames (hperm.mem_iff.mp hb)
  have hapart : blueprints.Pairwise (Apart o) := pairwise_apart h hnames hslash
  have hapart' : bs.Pairwise (Apart o) :=
    hapart.perm hperm.symm fun hbc i hi j hj => (hbc j hj i hi).symm
  obtain ⟨hfill, rfl⟩ := (execute_eq_ok_iff (hall ▸ h)).mp hrun
  have hdue := hperm.symm.flatMap_right fun b => due o s [] (jobs [b])
  rw [← due_jobs_of_apart hapart] at hdue
  obtain ⟨reports, hreports, hdomains, hwritten⟩ := run_executeEach_of_apart hselected hapart'
    (FileStore.fill_perm hwet hdue pairwise_due hfill)
  refine ⟨reports, hreports, ?_, ?_⟩
  · rw [hdomains, List.map_map]
    rfl
  · rw [hwritten]
    exact hdue.symm.map _

end Domains

/-- The domain of a shop and one of users, of which the second is run first. -/
theorem runs_independent_orderDomain :
    ∃ (report : RunReport) (s' : FileStore) (users shop : RunReport),
      (execute FileStore.system builtinTemplates {} ⟨[orderDomain, pricedDomain]⟩).run shopStore
        = (.ok report, s') ∧
      (executeEach FileStore.system builtinTemplates {} ⟨[orderDomain, pricedDomain]⟩
        ["User", "Shop"]).run shopStore = ([.ok users, .ok shop], s') ∧
      users.domains = ["User"] ∧ shop.domains = ["Shop"] ∧
      (users.written ++ shop.written).Perm report.written := by
  have hfacts (dom : Domain) (hdom : dom ∈ [orderDomain, pricedDomain]) :
      ∃ b, dom.expand = .ok b ∧ (∀ l ∈ b.leaves, l.type ≠ .migrations) ∧
        ∀ l ∈ b.leaves, '/' ∉ l.names.emittedName.toList := by
    have hall : ∀ dom ∈ [orderDomain, pricedDomain], dom.anyBlueprint (fun b =>
        decide ((∀ l ∈ b.leaves, l.type ≠ .migrations) ∧
          ∀ l ∈ b.leaves, '/' ∉ l.names.emittedName.toList)) = true := by decide +kernel
    obtain ⟨b, hb, hpass⟩ := Domain.exists_of_anyBlueprint (hall dom hdom)
    exact ⟨b, hb, of_decide_eq_true hpass⟩
  obtain ⟨b, hb, hne, hslash⟩ := hfacts orderDomain (by simp)
  obtain ⟨c, hc, hne', hslash'⟩ := hfacts pricedDomain (by simp)
  have hexpand : Schema.expand ⟨[orderDomain, pricedDomain]⟩ none = .ok [b, c] := by
    show (List.mapM Domain.expand [orderDomain, pricedDomain] :
      Except ExpandFault (List Blueprint)) = _
    rw [List.mapM_cons, List.mapM_cons, hb, hc]
    rfl
  obtain ⟨report, s', hrun⟩ := exists_report_of_ne_migrations (o := {}) (s := shopStore) hexpand
    (fun _ => rfl) (List.forall_mem_cons.mpr ⟨hne, List.forall_mem_singleton.mpr hne'⟩)
  have horder : ["User", "Shop"].Perm
      (Schema.domainNames ⟨[orderDomain, pricedDomain]⟩) := by decide
  obtain ⟨reports, hreports, hdomains, hwritten⟩ := Schema.runs_independent (o := {}) hexpand
    (by decide) (List.forall_mem_cons.mpr ⟨hslash, List.forall_mem_singleton.mpr hslash'⟩) rfl rfl
    hrun horder
  have hlength : reports.length = 2 := by simpa using congrArg List.length hdomains
  obtain ⟨users, shop, rfl⟩ := List.length_eq_two.mp hlength
  obtain ⟨husers, hshop⟩ := List.cons.inj hdomains
  rw [List.flatMap_cons, List.flatMap_singleton] at hwritten
  exact ⟨report, s', users, shop, hrun, hreports, husers, List.singleton_inj.mp hshop, hwritten⟩

end Scaffold
