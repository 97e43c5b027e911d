import Scaffold.Proofs.Source.Constructors

/-!
# Which sources can be written

With the templates of the program there is little that can go wrong with a source.  The
kinds of value objects are words of a closed set, which both value objects and the columns
of migrations look up; but whoever accepts a domain has looked them up before.  What is
left are the arguments that no column can hold, since a migration stores value objects and
scalars only, and nobody checks its arguments before.

## Main definitions

* `Argument.isStored` — a column can hold it.
* `Blueprint.KindsKnown` — every value object wraps a scalar.

## Main results

* `Leaf.columns_eq_error_iff` — the columns of a migration.
* `Domain.source_eq_error_iff` — the sources of an accepted domain.
-/

namespace Scaffold

/-! ### Columns -/

/-- A column can hold what the argument stands for. -/
def Argument.isStored : Argument → Bool
  | valueObject _ | scalar .. => true
  | artifact .. | external _ => false

/-- Every value object wraps a scalar: its kind is known, if it has one. -/
def Blueprint.KindsKnown (b : Blueprint) : Prop :=
  ∀ name spec, b.get? .valueObject name = some spec →
    ∃ scalar, wrappedScalar spec.kind = .ok scalar

/-- **The kinds of an accepted domain are known.** -/
theorem Domain.kindsKnown_of_expand {dom : Domain} {b : Blueprint} (h : dom.expand = .ok b) :
    b.KindsKnown := by
  obtain ⟨-, d, -, hsound, rfl⟩ := Domain.exists_of_expand h
  intro name spec hspec
  rw [Blueprint.get?_ofSections] at hspec
  exact hsound.exists_wrappedScalar hspec

namespace Blueprint.KindsKnown

variable {b : Blueprint}

/-- Value objects can be held, whether they are declared or not. -/
theorem exists_valueObjectColumn (h : b.KindsKnown) (name : String) :
    ∃ column, valueObjectColumn name ((b.get? .valueObject name).bind (·.kind)) = .ok column := by
  unfold valueObjectColumn
  cases hkind : (b.get? .valueObject name).bind (·.kind) with
  | none => exact ⟨_, rfl⟩
  | some word =>
    dsimp only
    split
    · exact ⟨_, rfl⟩
    · -- the word is the kind of a value object that is there
      obtain ⟨spec, hspec, hword⟩ := Option.bind_eq_some_iff.mp hkind
      obtain ⟨scalar, hscalar⟩ := h name spec hspec
      rw [hword, wrappedScalar, Except.bind_eq_ok_iff] at hscalar
      obtain ⟨kind, hkind, -⟩ := hscalar
      exact ⟨.scalar kind.scalar, by rw [hkind]; rfl⟩

theorem exists_columnSource (h : b.KindsKnown) (artifact : String) {arg : Argument}
    (harg : arg.isStored = true) : ∃ column, columnSource b artifact arg = .ok column := by
  cases arg with
  | valueObject name => exact h.exists_valueObjectColumn name
  | scalar _ s => exact ⟨.scalar s, rfl⟩
  | artifact _ _ _ => cases harg
  | external _ => cases harg

end Blueprint.KindsKnown

theorem columnSource_of_not_isStored (b : Blueprint) (artifact : String) {arg : Argument}
    (harg : arg.isStored = false) :
    columnSource b artifact arg = .error (.unsupportedColumn artifact arg.name) := by
  cases arg with
  | valueObject _ => cases harg
  | scalar _ _ => cases harg
  | artifact _ _ _ => rfl
  | external _ => rfl

/-! ### Sources -/

namespace Leaf

variable {leaf : Leaf} {b : Blueprint}

/-- **The columns of a migration** fail at its first argument that no column can hold. -/
theorem columns_eq_error_iff (h : b.KindsKnown) {fault : SourceFault} :
    leaf.columns b = .error fault
      ↔ ∃ arg, leaf.spec.args.find? (!·.isStored) = some arg ∧
        fault = .unsupportedColumn leaf.path arg.name := by
  unfold columns
  refine Except.mapM_eq_error_iff ?_ ?_
  · intro arg _ harg
    rw [columnSource_of_not_isStored b leaf.path (by simpa using harg)]
    rfl
  · intro arg _ harg
    have hstored : arg.isStored = true := by simpa using harg
    obtain ⟨column, hcolumn⟩ := h.exists_columnSource leaf.path hstored
    rw [hcolumn]
    exact ⟨_, rfl⟩

/-- **Only migrations can fail**, since value objects have known kinds. -/
theorem exists_source_of_ne_migrations {ctx : SourceContext}
    (htemplates : ctx.templates = builtinTemplates)
    (hscalar : leaf.type = .valueObject → ∃ scalar, wrappedScalar leaf.spec.kind = .ok scalar)
    (hne : leaf.type ≠ .migrations) : ∃ text, leaf.source ctx = .ok text := by
  rcases generated_cases leaf ctx with ⟨body, hbody⟩ | ⟨body, hbody⟩ | htype | htype
  · rw [source_of_generatedClass? hbody]
    simp only [SourceContext.template_builtin htemplates]
    exact ⟨_, rfl⟩
  · rw [source_of_generatedInterface? hbody, SourceContext.template_builtin htemplates]
    exact ⟨_, rfl⟩
  · obtain ⟨scalar, hscalar⟩ := hscalar htype
    obtain ⟨text, htext, -⟩ := exists_source_of_valueObject ctx htype htemplates hscalar
    exact ⟨text, htext⟩
  · exact absurd htype hne

/-- **A migration fails where its columns do.** -/
theorem source_eq_error_iff_of_migrations {ctx : SourceContext}
    (htemplates : ctx.templates = builtinTemplates) (htype : leaf.type = .migrations)
    {fault : SourceFault} :
    leaf.source ctx = .error fault ↔ leaf.columns ctx.blueprint = .error fault := by
  rw [source_of_migrations htype, migrationSource, SourceContext.template_builtin htemplates]
  cases leaf.columns ctx.blueprint with
  | error why =>
    show (.error why : Except SourceFault String) = .error fault ↔ _
    rw [Except.error.injEq, Except.error.injEq]
  | ok columns => exact iff_of_false nofun nofun

end Leaf

/-- **Which sources of an accepted domain cannot be written**: those of migrations that have
an argument which no column can hold. -/
theorem Domain.source_eq_error_iff {dom : Domain} {b : Blueprint} (h : dom.expand = .ok b)
    (root : String) {l : Leaf} (hl : l ∈ b.leaves) {fault : SourceFault} :
    l.source ⟨b, root, builtinTemplates⟩ = .error fault
      ↔ l.type = .migrations ∧ ∃ arg, l.spec.args.find? (!·.isStored) = some arg ∧
        fault = .unsupportedColumn l.path arg.name := by
  have hkinds := Domain.kindsKnown_of_expand h
  by_cases htype : l.type = .migrations
  · rw [Leaf.source_eq_error_iff_of_migrations rfl htype, Leaf.columns_eq_error_iff hkinds,
      and_iff_right htype]
  · refine iff_of_false (fun herror => ?_) fun hmigration => htype hmigration.1
    have hscalar : l.type = .valueObject → ∃ scalar, wrappedScalar l.spec.kind = .ok scalar := by
      intro hvalue
      refine hkinds l.name l.spec ?_
      obtain ⟨-, d, -, -, rfl⟩ := Domain.exists_of_expand h
      rw [Blueprint.get?_ofSections, ← hvalue]
      exact (Blueprint.mem_leaves_ofSections_iff.mp hl).2
    obtain ⟨text, htext⟩ : ∃ text, l.source ⟨b, root, builtinTemplates⟩ = .ok text :=
      Leaf.exists_source_of_ne_migrations rfl hscalar htype
    rw [herror] at htext
    cases htext

/-- All other sources of an accepted domain are there. -/
theorem Domain.isOk_source_of_ne_migrations {dom : Domain} {b : Blueprint}
    (h : dom.expand = .ok b) (root : String) {l : Leaf} (hl : l ∈ b.leaves)
    (hne : l.type ≠ .migrations) : (l.source ⟨b, root, builtinTemplates⟩).isOk = true := by
  cases hsource : l.source ⟨b, root, builtinTemplates⟩ with
  | error fault => exact absurd ((Domain.source_eq_error_iff h root hl).mp hsource).1 hne
  | ok text => rfl

end Scaffold
