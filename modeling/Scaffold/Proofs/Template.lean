import Mathlib.Data.List.TakeWhile
import Scaffold.Proofs.Dict
import Scaffold.Source.ClassBody
import Scaffold.Template

/-!
# Rendering of templates

A template that is put together from parts renders part by part: stretches of text stay as
they are, and every placeholder is replaced by its value.  The one thing that could go
wrong is a brace of a text that opens a placeholder by accident, because the text up to the
next closing brace is a name with a value.  For the templates that come with the program
this is ruled out once and for all, whatever the values are; values themselves are never
read again.

## Main definitions

* `TemplatePart.fill` — a part with its value.
* `isFaithful` — no brace of a text opens a placeholder.
* `TemplateId.keys` — the placeholders of a template that comes with the program.

## Main results

* `Template.render_ofParts` — rendering, part by part.
* `TemplateId.render_builtin` — the same for the templates that come with the program.
* `TemplateId.render_classFile` and its likes for the other files, `SourceMethod.render_text`
  — the texts.
-/

namespace Scaffold

/-! ### One step of the renderer -/

section Steps

variable {vars : Variables}

theorem renderChars_cons_of_ne {c : Char} (h : c ≠ '\x7b') (rest : List Char) :
    renderChars vars (c :: rest) = c :: renderChars vars rest := by
  rw [renderChars, if_neg (by simpa using h)]

/-- A brace that opens no placeholder stays. -/
theorem renderChars_brace_of_none {rest : List Char} (h : placeholder? vars rest = none) :
    renderChars vars ('\x7b' :: rest) = '\x7b' :: renderChars vars rest := by
  rw [renderChars, if_pos (beq_self_eq_true _)]
  split
  · next hsome =>
    rw [h] at hsome
    cases hsome
  · rfl

theorem renderChars_brace_of_some {rest after : List Char} {value : String}
    (h : placeholder? vars rest = some (value, after)) :
    renderChars vars ('\x7b' :: rest) = value.toList ++ renderChars vars after := by
  rw [renderChars, if_pos (beq_self_eq_true _)]
  split
  · next hsome =>
    rw [h] at hsome
    obtain ⟨rfl, rfl⟩ := Prod.mk.inj (Option.some.inj hsome)
    rfl
  · next hnone =>
    rw [h] at hnone
    cases hnone

/-- A name without a closing brace is read up to the next one. -/
theorem takeWhile_closing {key : List Char} (h : '\x7d' ∉ key) (rest : List Char) :
    (key ++ '\x7d' :: rest).takeWhile (· != '\x7d') = key ∧
      (key ++ '\x7d' :: rest).dropWhile (· != '\x7d') = '\x7d' :: rest := by
  have hall : ∀ c ∈ key, (c != '\x7d') = true := by
    intro c hc
    exact bne_iff_ne.mpr fun heq => h (heq ▸ hc)
  constructor
  · rw [List.takeWhile_append_of_pos hall]
    exact List.append_nil key
  · rw [List.dropWhile_append_of_pos hall]
    rfl

/-- **An opening brace is paired with the next closing one.** -/
theorem placeholder?_eq_some_iff {cs after : List Char} {value : String} :
    placeholder? vars cs = some (value, after)
      ↔ ∃ key, vars.get? key = some value ∧ '\x7d' ∉ key.toList ∧
        cs = key.toList ++ '\x7d' :: after := by
  constructor
  · intro h
    unfold placeholder? at h
    split at h
    · cases h
    · next c after' hdrop =>
      obtain ⟨value', hget, heq⟩ := Option.map_eq_some_iff.mp h
      obtain ⟨rfl, rfl⟩ := Prod.mk.inj heq
      have hc : c = '\x7d' := by
        have hhead := List.head?_dropWhile_not (· != '\x7d') cs
        simpa [hdrop] using hhead
      refine ⟨_, hget, ?_, ?_⟩
      · rw [String.toList_ofList]
        intro hmem
        exact absurd (List.mem_takeWhile_imp hmem) (by decide)
      · rw [hc] at hdrop
        rw [String.toList_ofList, ← hdrop, List.takeWhile_append_dropWhile]
  · rintro ⟨key, hget, hclosing, rfl⟩
    obtain ⟨htake, hdrop⟩ := takeWhile_closing hclosing after
    unfold placeholder?
    rw [hdrop, htake, String.ofList_toList, hget]
    rfl

/-- **A placeholder with a value** is replaced by it. -/
theorem renderChars_slot {key value : String} (hkey : '\x7d' ∉ key.toList)
    (hget : vars.get? key = some value) (rest : List Char) :
    renderChars vars ('\x7b' :: (key.toList ++ '\x7d' :: rest))
      = value.toList ++ renderChars vars rest :=
  renderChars_brace_of_some (placeholder?_eq_some_iff.mpr ⟨key, hget, hkey, rfl⟩)

/-- **A text whose braces open nothing** stays as it is, whatever comes behind it. -/
theorem renderChars_append {cs rest : List Char}
    (h : ∀ ds, '\x7b' :: ds <:+ cs → placeholder? vars (ds ++ rest) = none) :
    renderChars vars (cs ++ rest) = cs ++ renderChars vars rest := by
  induction cs with
  | nil => rfl
  | cons c cs ih =>
    have hrest := ih fun ds hds => h ds (hds.trans (List.suffix_cons c cs))
    rw [List.cons_append, List.cons_append, ← hrest]
    by_cases hc : c = '\x7b'
    · subst hc
      exact renderChars_brace_of_none (h cs (List.suffix_refl _))
    · exact renderChars_cons_of_ne hc _

end Steps

/-! ### Parts -/

/-- A part with its value in place of the placeholder. -/
def TemplatePart.fill (vars : Variables) : TemplatePart → String
  | text s => s
  | slot key => (vars.get? key).getD ""

/-- No brace of a text opens a placeholder of these names, however far into `rest` the
next closing brace is. -/
def isPlain (keys : List String) (rest : List Char) : List Char → Bool
  | [] => true
  | c :: cs =>
    (c != '\x7b' || !keys.contains (.ofList ((cs ++ rest).takeWhile (· != '\x7d')))) &&
      isPlain keys rest cs

/-- All placeholders of the parts are among these names, and no text makes another one. -/
def isFaithful (keys : List String) : List TemplatePart → Bool
  | [] => true
  | .text s :: parts => isPlain keys (sourceOfParts parts).toList s.toList && isFaithful keys parts
  | .slot key :: parts =>
    keys.contains key && !key.toList.contains '\x7d' && isFaithful keys parts

theorem sourceOfParts_cons (part : TemplatePart) (parts : List TemplatePart) :
    sourceOfParts (part :: parts) = part.source ++ sourceOfParts parts := by
  rw [sourceOfParts, List.map_cons, String.join_cons, sourceOfParts]

private theorem placeholder?_eq_none {vars : Variables} {cs : List Char}
    (h : vars.get? (.ofList (cs.takeWhile (· != '\x7d'))) = none) :
    placeholder? vars cs = none := by
  unfold placeholder?
  split
  · rfl
  · rw [h]
    rfl

private theorem isPlain_of_suffix {keys : List String} {rest ds cs : List Char}
    (hsuffix : ds <:+ cs) (h : isPlain keys rest cs = true) : isPlain keys rest ds = true := by
  obtain ⟨before, rfl⟩ := hsuffix
  induction before with
  | nil => exact h
  | cons c before ih =>
    rw [List.cons_append, isPlain, Bool.and_eq_true] at h
    exact ih h.2

theorem renderChars_of_isPlain {vars : Variables} {keys : List String}
    (hkeys : ∀ key, vars.contains key = true → key ∈ keys) {rest cs : List Char}
    (h : isPlain keys rest cs = true) :
    renderChars vars (cs ++ rest) = cs ++ renderChars vars rest := by
  refine renderChars_append fun ds hds => placeholder?_eq_none ?_
  have hplain := isPlain_of_suffix hds h
  rw [isPlain, Bool.and_eq_true, Bool.or_eq_true] at hplain
  have hnot : ¬keys.contains (.ofList ((ds ++ rest).takeWhile (· != '\x7d'))) = true := by
    rcases hplain.1 with hne | hnot
    · exact absurd rfl (bne_iff_ne.mp hne)
    · simpa using hnot
  rw [← Option.not_isSome_iff_eq_none]
  exact fun hsome => hnot (List.contains_iff_mem.mpr (hkeys _ hsome))

/-- **Rendering goes part by part**, if no text opens a placeholder by accident. -/
theorem Template.render_ofParts {values : List (String × String)} {parts : List TemplatePart}
    (h : isFaithful (values.map (·.1)) parts = true) :
    Template.render ⟨sourceOfParts parts⟩ (.ofList values)
      = String.join (parts.map (·.fill (.ofList values))) := by
  have hkeys (key : String) : (Dict.ofList values : Variables).contains key = true
      ↔ key ∈ values.map (·.1) := Dict.contains_ofList
  have hchars : renderChars (.ofList values) (sourceOfParts parts).toList
      = (String.join (parts.map (·.fill (.ofList values)))).toList := by
    induction parts with
    | nil => exact renderChars.eq_1 _
    | cons part parts ih =>
      rw [sourceOfParts_cons, List.map_cons, String.join_cons, String.toList_append,
        String.toList_append]
      cases part with
      | text s =>
        rw [isFaithful, Bool.and_eq_true] at h
        rw [TemplatePart.source, TemplatePart.fill,
          renderChars_of_isPlain (fun key => (hkeys key).mp) h.1, ih h.2]
      | slot key =>
        rw [isFaithful, Bool.and_eq_true, Bool.and_eq_true] at h
        obtain ⟨⟨hmem, hclosing⟩, hrest⟩ := h
        obtain ⟨value, hget⟩ := Option.isSome_iff_exists.mp
          ((hkeys key).mpr (List.contains_iff_mem.mp hmem))
        have hkey : '\x7d' ∉ key.toList := by simpa using hclosing
        have hsource : (TemplatePart.slot key).source.toList ++ (sourceOfParts parts).toList
            = '\x7b' :: (key.toList ++ '\x7d' :: (sourceOfParts parts).toList) := by
          simp [TemplatePart.source, String.toList_append]
        rw [hsource, renderChars_slot hkey hget, ih hrest, TemplatePart.fill, hget,
          Option.getD_some]
  rw [Template.render, hchars, String.ofList_toList]

/-! ### The templates that come with the program -/

/-- The placeholders of a template, in the order in which they are given values. -/
def TemplateId.keys : TemplateId → List String
  | classFile | factoryFile =>
    ["namespace", "uses", "modifier", "class_name", "implements", "body"]
  | interfaceFile => ["namespace", "uses", "interface_name", "body"]
  | valueObjectFile => ["namespace", "class_name", "scalar_type"]
  | migrationFile => ["namespace", "class_name", "table", "columns"]
  | methodBlock => ["method_name", "parameters", "returns", "method_body"]

theorem TemplateId.isFaithful_parts (id : TemplateId) : isFaithful id.keys id.parts = true := by
  cases id <;> decide +kernel

/-- **A template that comes with the program** is its parts with the values filled in. -/
theorem TemplateId.render_builtin (id : TemplateId) {values : List (String × String)}
    (hkeys : values.map (·.1) = id.keys) :
    id.builtin.render (.ofList values)
      = String.join (id.parts.map (·.fill (.ofList values))) :=
  Template.render_ofParts (hkeys ▸ id.isFaithful_parts)

/-- The head of a file, up to the namespace. -/
def fileStart (space : String) : String :=
  "<?php\n\ndeclare(strict_types=1);\n\nnamespace " ++ space ++ ";\n"

/-- Files of all kinds start with the same parts. -/
private theorem join_fileHead (vars : Variables) (parts : List TemplatePart) :
    String.join ((fileHead ++ parts).map (·.fill vars))
      = fileStart ((vars.get? "namespace").getD "") ++ String.join (parts.map (·.fill vars)) := by
  unfold fileHead fileStart
  simp only [List.cons_append, List.nil_append, List.map_cons, String.join_cons,
    TemplatePart.fill, String.append_assoc, -String.reduceAppend]

theorem TemplateId.render_classFile (space uses modifier name clause body : String) :
    classFile.builtin.render (.ofList
        [("namespace", space), ("uses", uses), ("modifier", modifier), ("class_name", name),
          ("implements", clause), ("body", body)])
      = fileStart space ++ uses ++ "\n" ++ modifier ++ "class " ++ name ++ clause ++ "\n\x7b\n" ++
          body ++ "\x7d\n" := by
  rw [render_builtin .classFile rfl, parts, join_fileHead]
  simp [TemplatePart.fill, Dict.get?_ofList, Dict.lookup, String.append_assoc]

theorem TemplateId.render_interfaceFile (space uses name body : String) :
    interfaceFile.builtin.render (.ofList
        [("namespace", space), ("uses", uses), ("interface_name", name), ("body", body)])
      = fileStart space ++ uses ++ "\ninterface " ++ name ++ "\n\x7b\n" ++ body ++ "\x7d\n" := by
  rw [render_builtin .interfaceFile rfl, parts, join_fileHead]
  simp [TemplatePart.fill, Dict.get?_ofList, Dict.lookup, String.append_assoc]

theorem TemplateId.render_factoryFile (space uses modifier name clause body : String) :
    factoryFile.builtin.render (.ofList
        [("namespace", space), ("uses", uses), ("modifier", modifier), ("class_name", name),
          ("implements", clause), ("body", body)])
      = fileStart space ++ uses ++ "\nfinal class " ++ name ++ clause ++ "\n\x7b\n" ++ body ++
          "\x7d\n" := by
  rw [render_builtin .factoryFile rfl, parts, join_fileHead]
  simp [TemplatePart.fill, Dict.get?_ofList, Dict.lookup, String.append_assoc]

theorem TemplateId.render_valueObjectFile (space name typeName : String) :
    valueObjectFile.builtin.render (.ofList
        [("namespace", space), ("class_name", name), ("scalar_type", typeName)])
      = fileStart space ++ "\nfinal class " ++ name ++
          "\n\x7b\n    public function __construct(private readonly " ++ typeName ++
          " $value)\n    \x7b\n    \x7d\n\n    public function value(): " ++ typeName ++
          "\n    \x7b\n        return $this->value;\n    \x7d\n\x7d\n" := by
  rw [render_builtin .valueObjectFile rfl, parts, join_fileHead]
  simp [TemplatePart.fill, Dict.get?_ofList, Dict.lookup, String.append_assoc]

theorem TemplateId.render_migrationFile (space name table columns : String) :
    migrationFile.builtin.render (.ofList
        [("namespace", space), ("class_name", name), ("table", table), ("columns", columns)])
      = fileStart space ++ "\nfinal class " ++ name ++ "\n\x7b\n    public const TABLE = '" ++
          table ++ "';\n\n    public const COLUMNS = [\n" ++ columns ++ "    ];\n\x7d\n" := by
  rw [render_builtin .migrationFile rfl, parts, join_fileHead]
  simp [TemplatePart.fill, Dict.get?_ofList, Dict.lookup, String.append_assoc]

/-- A method as it is written. -/
def SourceMethod.text (m : SourceMethod) : String :=
  indent ++ "public function " ++ m.name ++ "(" ++ Parameter.renderList m.parameters ++ "): " ++
    m.returns ++ "\n" ++ indent ++ "\x7b\n" ++
    String.join (m.body.map fun line => indent ++ indent ++ line ++ "\n") ++ indent ++ "\x7d\n"

theorem SourceMethod.render_text (m : SourceMethod) :
    TemplateId.methodBlock.builtin.render m.slotValues = m.text := by
  rw [slotValues, TemplateId.render_builtin .methodBlock rfl]
  simp [TemplateId.parts, TemplatePart.fill, Dict.get?_ofList, Dict.lookup, text, indent,
    String.append_assoc]

end Scaffold
