import Scaffold.Proofs.Expansion.Stock
import Scaffold.Proofs.Source.Declarations

/-!
# What a class imports

A class is collected step by step.  Each step may need names from elsewhere, and the
imports of the class are all of them that do not live in its own namespace, in the order of
their text.  They are kept as a set, so neither the order of the steps nor a step that comes
twice shows in them.  The constructor, the methods and the list of interfaces do show the
order, each that of its own steps.

## Main definitions

* `ClassStep`, `ClassBody.ofSteps` — steps, and the class that they collect.
* `ClassStep.names` — the names that a step needs.
* `InNamespace` — a full name belongs to a namespace.

## Main results

* `namespacePart?_eq_some_iff` — what stands before the last backslash.
* `ClassBody.contains_uses_ofSteps_iff` — the names that a class uses.
* `ClassBody.mem_importsInto_ofSteps_iff` — the names that it imports.
* `ClassBody.text_ofSteps` — **what the templates of a class are filled with**, step by step.
-/

namespace Scaffold

/-! ### Namespaces of full names -/

/-- The full name is one of this namespace: one more backslash, and a name without any. -/
def InNamespace (space full : String) : Prop :=
  ∃ short : String, '\\' ∉ short.toList ∧ full = qualify space short

namespace ClassBody

theorem namespacePart?_qualify {space short : String} (h : '\\' ∉ short.toList) :
    namespacePart? (qualify space short) = some space := by
  have hlist : (qualify space short).toList = space.toList ++ '\\' :: short.toList := by
    simp [qualify, String.toList_append]
  have hshort : (qualify space short).toList.reverse.takeWhile (· != '\\')
      = short.toList.reverse := by
    rw [hlist, List.reverse_append, List.reverse_cons, List.append_assoc,
      List.takeWhile_append_of_pos fun c hc => ?_]
    · exact List.append_nil _
    · exact bne_iff_ne.mpr fun heq => h (heq ▸ List.mem_reverse.mp hc)
  have hlength : (qualify space short).length = space.length + (short.length + 1) := by
    rw [← String.length_toList, hlist, List.length_append, List.length_cons,
      String.length_toList, String.length_toList]
  have hne : (short.toList.reverse.length == (qualify space short).length) = false := by
    rw [List.length_reverse, String.length_toList, hlength]
    exact beq_eq_false_iff_ne.mpr (by omega)
  have htake : (qualify space short).length - short.toList.reverse.length - 1
      = space.toList.length := by
    rw [List.length_reverse, String.length_toList, String.length_toList, hlength]
    omega
  unfold namespacePart?
  dsimp only
  rw [hshort, hne, if_neg Bool.false_ne_true, htake, hlist, List.take_left, String.ofList_toList]

/-- **What stands before the last backslash** of a full name is its namespace. -/
theorem namespacePart?_eq_some_iff {full space : String} :
    namespacePart? full = some space ↔ InNamespace space full := by
  constructor
  · intro h
    by_cases hmem : '\\' ∈ full.toList
    · -- the last backslash is the first one from the end
      obtain ⟨after, before, heq, hafter⟩ :=
        List.eq_append_cons_of_mem (List.mem_reverse.mpr hmem)
      have hfull : full = qualify (.ofList before.reverse) (.ofList after.reverse) := by
        have hlist := congrArg List.reverse heq
        rw [List.reverse_reverse, List.reverse_append, List.reverse_cons] at hlist
        rw [← String.toList_inj, hlist]
        simp [qualify, String.toList_append]
      have hshort : '\\' ∉ (String.ofList after.reverse).toList := by
        rwa [String.toList_ofList, List.mem_reverse]
      rw [hfull, namespacePart?_qualify hshort] at h
      exact ⟨_, hshort, by rw [hfull, Option.some.inj h]⟩
    · have hall : full.toList.reverse.takeWhile (· != '\\') = full.toList.reverse := by
        refine List.takeWhile_eq_self_iff.mpr fun c hc => bne_iff_ne.mpr ?_
        rintro rfl
        exact hmem (List.mem_reverse.mp hc)
      unfold namespacePart? at h
      dsimp only at h
      rw [hall, List.length_reverse, String.length_toList, if_pos (beq_self_eq_true _)] at h
      cases h
  · rintro ⟨short, hshort, rfl⟩
    exact namespacePart?_qualify hshort

end ClassBody

/-! ### Steps -/

/-- A step in collecting a class. -/
inductive ClassStep where
  /-- It uses a name. -/
  | use (full : String)
  /-- It implements an interface of a namespace. -/
  | implement (space interface : String)
  /-- Its constructor takes one more parameter. -/
  | takes (p : Parameter)
  /-- It offers one more method. -/
  | offers (m : SourceMethod)
  deriving DecidableEq, Repr

namespace ClassStep

/-- The names that a step needs. -/
def names : ClassStep → List String
  | use full => [full]
  | implement space interface => [qualify space interface]
  | takes p => p.importName.toList
  | offers m => m.imports

/-- The interface that a step implements. -/
def interface? : ClassStep → Option String
  | implement _ interface => some interface
  | _ => none

/-- The parameter that a step adds to the constructor. -/
def parameter? : ClassStep → Option Parameter
  | takes p => some p
  | _ => none

/-- The method that a step adds. -/
def method? : ClassStep → Option SourceMethod
  | offers m => some m
  | _ => none

/-- The parameters that a step adds, to the constructor or with a method. -/
def parameters : ClassStep → List Parameter
  | takes p => [p]
  | offers m => m.parameters
  | _ => []

/-- The import of a parameter is a name that its step needs. -/
theorem mem_names_of_mem_parameters {s : ClassStep} {p : Parameter} (hp : p ∈ s.parameters)
    {full : String} (hfull : p.importName = some full) : full ∈ s.names := by
  cases s with
  | use | implement => cases hp
  | takes q =>
    obtain rfl := List.mem_singleton.mp hp
    exact Option.mem_toList.mpr hfull
  | offers m => exact List.mem_filterMap.mpr ⟨p, hp, hfull⟩

end ClassStep

namespace ClassBody

/-- A class after one more step. -/
def after (b : ClassBody) : ClassStep → ClassBody
  | .use full => b.use full
  | .implement space interface => b.implement space interface
  | .takes p => b.takes p
  | .offers m => b.offers m

/-- The class that steps collect. -/
def ofSteps (steps : List ClassStep) : ClassBody := steps.foldl after {}

theorem ofSteps_concat (steps : List ClassStep) (s : ClassStep) :
    ofSteps (steps ++ [s]) = (ofSteps steps).after s := by
  rw [ofSteps, List.foldl_append]
  rfl

/-- A step uses the names that it needs, besides those that are in use. -/
theorem contains_uses_after_iff {b : ClassBody} {s : ClassStep} {n : String} :
    (b.after s).uses.contains n = true ↔ n ∈ s.names ∨ b.uses.contains n = true := by
  cases s with
  | use full =>
    rw [after, contains_use_iff, ClassStep.names, List.mem_singleton, eq_comm]
  | implement space interface =>
    rw [after, uses_implement, contains_use_iff, ClassStep.names, List.mem_singleton, eq_comm]
  | takes p => exact contains_useAll_iff
  | offers m => exact contains_useAll_iff

/-- **A class uses the names that its steps need**, and no others. -/
theorem contains_uses_ofSteps_iff {steps : List ClassStep} {n : String} :
    (ofSteps steps).uses.contains n = true ↔ ∃ s ∈ steps, n ∈ s.names := by
  induction steps using List.reverseRecOn with
  | nil => exact iff_of_false (by simp [ofSteps]) (by simp)
  | append_singleton steps s ih =>
    rw [ofSteps_concat, contains_uses_after_iff, ih]
    constructor
    · rintro (hs | ⟨s', hs', hn⟩)
      · exact ⟨s, List.mem_append_right _ (List.mem_singleton_self s), hs⟩
      · exact ⟨s', List.mem_append_left _ hs', hn⟩
    · rintro ⟨s', hs', hn⟩
      rcases List.mem_append.mp hs' with hs' | hs'
      · exact .inr ⟨s', hs', hn⟩
      · exact .inl (List.mem_singleton.mp hs' ▸ hn)

/-- What a step adds to the constructor and to the methods. -/
theorem fields_after (b : ClassBody) (s : ClassStep) :
    (b.after s).constructor = b.constructor ++ s.parameter?.toList ∧
      (b.after s).methods = b.methods ++ s.method?.toList := by
  cases s <;> simp [after, ClassStep.parameter?, ClassStep.method?]

/-- An interface that was named before is not listed again. -/
theorem implements_after (b : ClassBody) (s : ClassStep) :
    (b.after s).implements
      = b.implements ++ s.interface?.toList.filter fun i => i ∉ b.implements := by
  cases s with
  | implement space interface =>
    rw [after, implement]
    by_cases h : interface ∈ b.implements
    · simp [h, ClassStep.interface?]
    · simp [h, ClassStep.interface?]
  | _ => simp [after, ClassStep.interface?]

private theorem filterMap_concat {α β : Type} (f : α → Option β) (l : List α) (a : α) :
    (l ++ [a]).filterMap f = l.filterMap f ++ (f a).toList := by
  cases h : f a <;> simp [h]

/-- **The constructor and the methods** keep the order of the steps. -/
theorem fields_ofSteps (steps : List ClassStep) :
    (ofSteps steps).constructor = steps.filterMap ClassStep.parameter? ∧
      (ofSteps steps).methods = steps.filterMap ClassStep.method? := by
  induction steps using List.reverseRecOn with
  | nil => exact ⟨rfl, rfl⟩
  | append_singleton steps s ih =>
    obtain ⟨hconstructor, hmethods⟩ := fields_after (ofSteps steps) s
    rw [ofSteps_concat, filterMap_concat, filterMap_concat, hconstructor, hmethods, ih.1, ih.2]
    exact ⟨rfl, rfl⟩

/-- **Each interface is listed once**, where it was named first. -/
theorem implements_ofSteps (steps : List ClassStep) :
    (ofSteps steps).implements = (steps.filterMap ClassStep.interface?).eraseDups := by
  induction steps using List.reverseRecOn with
  | nil => rfl
  | append_singleton steps s ih =>
    rw [ofSteps_concat, filterMap_concat, implements_after]
    cases s.interface? with
    | none => simpa using ih
    | some interface =>
      rw [Option.toList_some, eraseDups_concat, ← ih]
      have hlisted : interface ∈ steps.filterMap ClassStep.interface?
          ↔ interface ∈ (ofSteps steps).implements := by rw [ih, List.mem_eraseDups]
      by_cases h : interface ∈ (ofSteps steps).implements
      · simp [hlisted.mpr h, h]
      · simp [mt hlisted.mp h, h]

/-! ### Texts -/

/-- **A class imports the names that its steps need**, those of its own namespace left out. -/
theorem mem_importsInto_ofSteps_iff {steps : List ClassStep} {space full : String} :
    full ∈ (ofSteps steps).importsInto space
      ↔ (∃ s ∈ steps, full ∈ s.names) ∧ ¬InNamespace space full := by
  rw [importsInto, List.mem_filter, ← Dict.contains_iff, contains_uses_ofSteps_iff, bne_iff_ne,
    Ne, namespacePart?_eq_some_iff]

/-- Imports are listed in the order of their text, and none twice. -/
theorem pairwise_importsInto (b : ClassBody) (space : String) :
    (b.importsInto space).Pairwise fun u v => compare u v = .lt :=
  (List.pairwise_map.mpr b.uses.ordered).filter _

/-- Steps that need the same names lead to the same imports. -/
theorem importsInto_congr {steps steps' : List ClassStep}
    (h : ∀ n, (∃ s ∈ steps, n ∈ s.names) ↔ ∃ s ∈ steps', n ∈ s.names) (space : String) :
    (ofSteps steps).importsInto space = (ofSteps steps').importsInto space := by
  have hkeys : (ofSteps steps).uses.keys = (ofSteps steps').uses.keys := by
    refine Dict.keys_congr fun n => ?_
    rw [contains_uses_ofSteps_iff, contains_uses_ofSteps_iff, h]
  rw [importsInto, hkeys, importsInto]

/-- The constructor that takes parameters, with a line for each; none if there are none. -/
def constructorBlock (ps : List Parameter) : List String :=
  if ps = [] then []
  else ["    public function __construct(\n" ++
    String.join (ps.map fun p =>
      "        private readonly " ++ p.typeName ++ " $" ++ p.variableName ++ ",\n") ++
    "    ) \x7b\n    \x7d\n"]

theorem renderConstructor_eq (b : ClassBody) :
    b.renderConstructor = constructorBlock b.constructor := by
  unfold renderConstructor constructorBlock
  cases b.constructor with
  | nil => rfl
  | cons p ps => simp [Parameter.render, indent, String.append_assoc]

/-- **What the templates of a class are filled with**, told from the steps that collect it.

The block of imports lists the names that the steps need and that live elsewhere, each once
and in the order of their text, so it is the same for all steps that come in another order
or several times.  The type of a parameter is imported or lives in the same namespace. -/
theorem text_ofSteps (steps : List ClassStep) (space name modifier : String) (method : Template) :
    ∃ fulls : List String,
      fulls.Pairwise (fun u v => compare u v = .lt) ∧
      (∀ full, full ∈ fulls ↔ (∃ s ∈ steps, full ∈ s.names) ∧ ¬InNamespace space full) ∧
      (∀ s ∈ steps, ∀ p ∈ s.parameters, ∀ full, p.importName = some full →
        full ∈ fulls ∨ InNamespace space full) ∧
      (∀ steps', (∀ s, s ∈ steps' ↔ s ∈ steps) →
        ((ofSteps steps').classVariables space name modifier method).get? "uses"
            = some (SourceFile.importLines fulls) ∧
          ((ofSteps steps').interfaceVariables space name).get? "uses"
            = some (SourceFile.importLines fulls)) ∧
      ((ofSteps steps).classVariables space name modifier method).get? "body"
        = some ("\n".intercalate (constructorBlock (steps.filterMap ClassStep.parameter?) ++
            (steps.filterMap ClassStep.method?).map fun m => method.render m.slotValues)) ∧
      ((ofSteps steps).interfaceVariables space name).get? "body"
        = some (String.join ((steps.filterMap ClassStep.method?).map (·.signature))) ∧
      ((ofSteps steps).classVariables space name modifier method).get? "implements"
        = some (SourceFile.implementsClause
            (steps.filterMap ClassStep.interface?).eraseDups) := by
  obtain ⟨hconstructor, hmethods⟩ := fields_ofSteps steps
  refine ⟨(ofSteps steps).importsInto space, pairwise_importsInto _ space,
    fun _ => mem_importsInto_ofSteps_iff, fun s hs p hp full hfull => ?_,
    fun steps' hsteps => ?_, ?_, ?_, ?_⟩
  · have hused : ∃ s ∈ steps, full ∈ s.names :=
      ⟨s, hs, ClassStep.mem_names_of_mem_parameters hp hfull⟩
    by_cases hspace : InNamespace space full
    · exact .inr hspace
    · exact .inl (mem_importsInto_ofSteps_iff.mpr ⟨hused, hspace⟩)
  · -- what is imported is told by the set of the steps
    have hsame : (ofSteps steps').importsInto space = (ofSteps steps).importsInto space :=
      importsInto_congr (fun n => exists_congr fun s => and_congr_left fun _ => hsteps s) space
    rw [← hsame, importLines_importsInto]
    simp [classVariables, interfaceVariables, Dict.get?_ofList, Dict.lookup]
  · have hbody : (ofSteps steps).renderBody method = "\n".intercalate
        (constructorBlock (steps.filterMap ClassStep.parameter?) ++
          (steps.filterMap ClassStep.method?).map fun m => method.render m.slotValues) := by
      rw [renderBody, renderConstructor_eq, hconstructor, hmethods]
    rw [← hbody]
    simp [classVariables, Dict.get?_ofList, Dict.lookup]
  · rw [← hmethods]
    simp [interfaceVariables, Dict.get?_ofList, Dict.lookup]
  · have hclause : SourceFile.implementsClause (ofSteps steps).implements
        = (ofSteps steps).renderImplements := rfl
    rw [← implements_ofSteps, hclause]
    simp [classVariables, Dict.get?_ofList, Dict.lookup]

end ClassBody

end Scaffold
