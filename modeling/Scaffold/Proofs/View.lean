import Mathlib.Data.List.Basic
import Mathlib.Data.Option.Basic
import Mathlib.Data.Prod.Basic
import Scaffold.Blueprint
import Scaffold.Proofs.Dict

/-!
# Views tell everything

A view leaves out what says nothing: an empty list, an absent name, a flag at its default.
What is left out can still be told, since every part has a key of its own and a part that
is there never looks like one at its default.  So a spec can be read off its view, and a
blueprint off its own but for the name of its domain.

## Main definitions

* `presentEntries` — the entries of the parts that are there.
* `Method.parts`, `Spec.parts` — all parts of a view, also those that are left out.

## Main results

* `eq_of_presentEntries` — what is there tells what is left out.
* `Spec.toNode_injective`, `Blueprint.layers_eq_of_toNode` — the views of specs and blueprints.
* `Blueprint.view_eq_iff` — **a view loses nothing.**
-/

namespace Scaffold

open Function

/-! ### Parts that may be left out -/

/-- The entries of the parts that are there. -/
def presentEntries (parts : List (String × Option Node)) : List (String × Node) :=
  parts.flatMap fun p => (p.2.map (p.1, ·)).toList

theorem presentEntries_cons (key : String) (part : Option Node)
    (parts : List (String × Option Node)) :
    presentEntries ((key, part) :: parts)
      = (part.map (key, ·)).toList ++ presentEntries parts := List.flatMap_cons

theorem key_mem_of_mem_presentEntries {parts : List (String × Option Node)} {key : String}
    {node : Node} (h : (key, node) ∈ presentEntries parts) : key ∈ parts.map (·.1) := by
  obtain ⟨⟨key', part⟩, hmem, he⟩ := List.mem_flatMap.mp h
  rw [Option.mem_toList, Option.map_eq_some_iff] at he
  obtain ⟨_, -, heq⟩ := he
  obtain ⟨rfl, -⟩ := Prod.mk.inj heq
  exact List.mem_map.mpr ⟨(key', part), hmem, rfl⟩

/-- **What is there tells what is left out**, if every part has a key of its own. -/
theorem eq_of_presentEntries {parts parts' : List (String × Option Node)}
    (hkeys : parts.map (·.1) = parts'.map (·.1)) (hnodup : (parts.map (·.1)).Nodup)
    (h : presentEntries parts = presentEntries parts') : parts = parts' := by
  induction parts generalizing parts' with
  | nil => exact (List.map_eq_nil_iff.mp hkeys.symm).symm
  | cons p parts ih =>
    obtain ⟨key, part⟩ := p
    cases parts' with
    | nil => cases hkeys
    | cons p' parts' =>
      obtain ⟨key', part'⟩ := p'
      simp only [List.map_cons, List.cons.injEq] at hkeys
      obtain ⟨rfl, hkeys⟩ := hkeys
      rw [List.map_cons, List.nodup_cons] at hnodup
      obtain ⟨hkey, hnodup⟩ := hnodup
      rw [presentEntries_cons, presentEntries_cons] at h
      cases part with
      | none =>
        cases part' with
        | none => rw [ih hkeys hnodup h]
        | some node =>
          -- a later part has another key
          have hlater : (key, node) ∈ presentEntries parts := by
            rw [show presentEntries parts = (key, node) :: presentEntries parts' from h]
            exact List.mem_cons_self
          exact absurd (key_mem_of_mem_presentEntries hlater) hkey
      | some node =>
        cases part' with
        | none =>
          have hlater : (key, node) ∈ presentEntries parts' := by
            rw [← show (key, node) :: presentEntries parts = presentEntries parts' from h]
            exact List.mem_cons_self
          exact absurd (hkeys ▸ key_mem_of_mem_presentEntries hlater) hkey
        | some node' =>
          obtain ⟨hnode, hrest⟩ := List.cons.inj h
          rw [(Prod.mk.inj hnode).2, ih hkeys hnodup hrest]

/-- A value as a part of a view, unless it is at its default. -/
def partUnless {α : Type} (plain : α → Bool) (view : α → Node) (a : α) : Option Node :=
  if plain a then none else some (view a)

/-- A list, unless it is empty. -/
def listPart : List Node → Option Node := partUnless List.isEmpty .list

/-- A text, if it is given. -/
def textPart : Option String → Option Node := Option.map .string

/-- A dictionary, unless it is empty. -/
def dictPart : Dict String Node → Option Node := partUnless Dict.isEmpty .ofDict

/-- A flag, unless it is at its default. -/
def flagPart (default : Bool) : Bool → Option Node := partUnless (· == default) .bool

theorem listEntry_eq (key : String) (items : List Node) :
    listEntry key items = ((listPart items).map (key, ·)).toList := by
  unfold listEntry listPart partUnless
  split
  · rfl
  · rfl

theorem textEntry_eq (key : String) (text : Option String) :
    textEntry key text = ((textPart text).map (key, ·)).toList := by
  cases text <;> rfl

theorem dictEntry_eq (key : String) (d : Dict String Node) :
    dictEntry key d = ((dictPart d).map (key, ·)).toList := by
  unfold dictEntry dictPart partUnless
  split
  · rfl
  · rfl

theorem flagEntry_eq (key : String) (default value : Bool) :
    flagEntry key default value = ((flagPart default value).map (key, ·)).toList := by
  unfold flagEntry flagPart partUnless
  split
  · rfl
  · rfl

/-- A part that is left out has one value. -/
theorem partUnless_injective {α : Type} {plain : α → Bool} {view : α → Node}
    (hplain : ∀ a b, plain a = true → plain b = true → a = b) (hview : Injective view) :
    Injective (partUnless plain view) := by
  intro a b h
  unfold partUnless at h
  split at h
  · next ha =>
    split at h
    · next hb => exact hplain a b ha hb
    · cases h
  · split at h
    · cases h
    · exact hview (Option.some.inj h)

theorem listPart_injective : Injective listPart := by
  refine partUnless_injective (fun items items' h h' => ?_) fun _ _ => Node.list.inj
  rw [List.isEmpty_iff.mp h, List.isEmpty_iff.mp h']

theorem textPart_injective : Injective textPart :=
  Option.map_injective fun _ _ => Node.string.inj

theorem dictPart_injective : Injective dictPart := by
  refine partUnless_injective (fun d d' h h' => ?_) fun _ _ h => Dict.ext_entries (Node.map.inj h)
  rw [Dict.isEmpty_iff.mp h, Dict.isEmpty_iff.mp h']

theorem flagPart_injective (default : Bool) : Injective (flagPart default) := by
  refine partUnless_injective (fun value value' h h' => ?_) fun _ _ => Node.bool.inj
  rw [beq_iff_eq.mp h, beq_iff_eq.mp h']

theorem Dict.mapValues_injective {κ α β : Type} [Ord κ] {f : α → β} (hf : Injective f) :
    Injective fun d : Dict κ α => d.mapValues fun _ => f := by
  intro d e h
  have hentries : d.entries.map (Prod.map id f) = e.entries.map (Prod.map id f) :=
    congrArg Dict.entries h
  exact ext_entries (List.map_injective_iff.mpr (injective_id.prodMap hf) hentries)

/-! ### Specs -/

/-- Views of arguments of different kinds differ in length, or in what stands under `kind`. -/
theorem Argument.toNode_injective : Injective Argument.toNode := by
  intro a b h
  cases a <;> cases b <;>
    simp only [toNode, Node.map.injEq, List.cons.injEq, Prod.mk.injEq, Node.string.injEq,
      Node.bool.injEq, reduceCtorEq, String.reduceEq, true_and, and_true, false_and, and_false]
      at h
  case valueObject => rw [h]
  case artifact =>
    obtain ⟨htype, rfl, rfl⟩ := h
    rw [ArtifactType.tag_injective htype]
  case scalar =>
    obtain ⟨rfl, htype⟩ := h
    rw [Scalar.tag_injective htype]
  case external => rw [h]

theorem EventOutcome.toNode_injective : Injective EventOutcome.toNode := by
  intro a b h
  cases a with
  | args items =>
    cases b with
    | args items' =>
      exact congrArg args (List.map_injective_iff.mpr Argument.toNode_injective (Node.list.inj h))
    | _ => cases h
  | next command =>
    cases b with
    | next command' => exact congrArg next (Node.string.inj h)
    | _ => cases h
  | terminal ends =>
    cases b with
    | terminal ends' => exact congrArg terminal (Node.bool.inj h)
    | _ => cases h

theorem Product.toNode_injective : Injective Product.toNode := by
  rintro ⟨name, type⟩ ⟨name', type'⟩ h
  have hentries := Node.map.inj h
  simp only [List.cons.injEq, Prod.mk.injEq, Node.string.injEq, true_and, and_true] at hentries
  obtain ⟨rfl, htype⟩ := hentries
  rw [ArtifactType.tag_injective htype]

/-- The parts of the view of a method. -/
def Method.parts (m : Method) : List (String × Option Node) :=
  [("args", listPart (m.args.map Argument.toNode)), ("returns", textPart m.returns)]

theorem Method.toNode_eq (m : Method) : m.toNode = .map (presentEntries m.parts) := by
  simp [toNode, parts, presentEntries, listEntry_eq, textEntry_eq]

theorem Method.toNode_injective : Injective Method.toNode := by
  intro m n h
  rw [toNode_eq, toNode_eq] at h
  have hkeys : (m.parts.map (·.1)).Nodup := by
    show ["args", "returns"].Nodup
    decide
  have hparts : m.parts = n.parts := eq_of_presentEntries rfl hkeys (Node.map.inj h)
  simp only [parts, List.cons.injEq, Prod.mk.injEq, true_and, and_true] at hparts
  obtain ⟨hargs, hreturns⟩ := hparts
  cases m
  cases n
  congr 1
  · exact List.map_injective_iff.mpr Argument.toNode_injective (listPart_injective hargs)
  · exact textPart_injective hreturns

/-- The parts of the view of a spec. -/
def Spec.parts (s : Spec) : List (String × Option Node) :=
  [("args", listPart (s.args.map Argument.toNode)),
    ("entity", textPart s.entity),
    ("events", dictPart (s.events.mapValues fun _ => EventOutcome.toNode)),
    ("kind", textPart s.kind),
    ("methods", dictPart (s.methods.mapValues fun _ => Method.toNode)),
    ("next_command", textPart s.nextCommand),
    ("products", listPart (s.products.map Product.toNode)),
    ("repository", textPart (s.repository.map ArtifactType.tag)),
    ("repository_interface", flagPart true s.repositoryInterface),
    ("returns", textPart s.returns),
    ("terminal", flagPart false s.terminal)]

theorem Spec.toNode_eq (s : Spec) : s.toNode = .map (presentEntries s.parts) := by
  simp [toNode, parts, presentEntries, listEntry_eq, textEntry_eq, dictEntry_eq, flagEntry_eq]

theorem Spec.toNode_injective : Injective Spec.toNode := by
  intro s t h
  rw [toNode_eq, toNode_eq] at h
  have hkeys : (s.parts.map (·.1)).Nodup := by
    show ["args", "entity", "events", "kind", "methods", "next_command", "products", "repository",
      "repository_interface", "returns", "terminal"].Nodup
    decide
  have hparts : s.parts = t.parts := eq_of_presentEntries rfl hkeys (Node.map.inj h)
  simp only [parts, List.cons.injEq, Prod.mk.injEq, true_and, and_true] at hparts
  obtain ⟨hargs, hentity, hevents, hkind, hmethods, hnext, hproducts, hrepository, hinterface,
    hreturns, hterminal⟩ := hparts
  cases s
  cases t
  congr 1
  · exact List.map_injective_iff.mpr Argument.toNode_injective (listPart_injective hargs)
  · exact textPart_injective hentity
  · exact textPart_injective hkind
  · exact Dict.mapValues_injective EventOutcome.toNode_injective (dictPart_injective hevents)
  · exact Dict.mapValues_injective Method.toNode_injective (dictPart_injective hmethods)
  · exact List.map_injective_iff.mpr Product.toNode_injective (listPart_injective hproducts)
  · exact Option.map_injective (fun _ _ => ArtifactType.tag_injective)
      (textPart_injective hrepository)
  · exact flagPart_injective true hinterface
  · exact textPart_injective hnext
  · exact flagPart_injective false hterminal
  · exact textPart_injective hreturns

theorem Section.toNode_injective : Injective Section.toNode := fun _ _ h =>
  Dict.mapValues_injective Spec.toNode_injective (Dict.ext_entries (Node.map.inj h))

/-! ### Blueprints -/

namespace Blueprint

/-- A dictionary can be read off its view if its keys can be read off their tags. -/
theorem tagged_injective {κ α : Type} [Ord κ] [Std.TransOrd κ] [Std.LawfulEqOrd κ]
    {tag : κ → String} {view : α → Node} (htag : Injective tag) (hview : Injective view) :
    Injective (tagged tag view) := by
  intro d e h
  have hentry (d : Dict κ α) (k : κ) : Dict.lookup (tag k) (Dict.ofList
      (d.entries.map fun x => (tag x.1, view x.2))).entries = (d.get? k).map view := by
    refine Option.ext fun node => ?_
    have hsame : ∀ a ∈ d.entries, ∀ b ∈ d.entries, tag a.1 = tag b.1 → view a.2 = view b.2 := by
      rintro ⟨k, v⟩ ha ⟨k', v'⟩ hb heq
      obtain rfl := htag heq
      rw [Dict.mem_entries_iff] at ha hb
      rw [Option.some.inj (ha.symm.trans hb)]
    refine (Dict.get?_ofList_map_iff hsame).trans ?_
    rw [Option.map_eq_some_iff]
    constructor
    · rintro ⟨⟨k', v⟩, hmem, heq, rfl⟩
      obtain rfl := htag heq
      exact ⟨v, Dict.mem_entries_iff.mp hmem, rfl⟩
    · rintro ⟨v, hv, rfl⟩
      exact ⟨(k, v), Dict.mem_entries_iff.mpr hv, rfl, rfl⟩
  refine Dict.ext_get? fun k => Option.map_injective hview ?_
  rw [← hentry d k, ← hentry e k]
  exact congrArg (Dict.lookup (tag k)) (Node.map.inj h)

theorem sectionsToNode_injective : Injective sectionsToNode :=
  tagged_injective (fun _ _ => ArtifactType.tag_injective) Section.toNode_injective

/-- The view of a blueprint tells everything but the name of its domain. -/
theorem layers_eq_of_toNode {b c : Blueprint} (h : b.toNode = c.toNode) : b.layers = c.layers :=
  tagged_injective (fun _ _ => Layer.tag_injective) sectionsToNode_injective h

/-- **A view loses nothing**: specs of one view are equal, and so are blueprints of one
domain and one view. -/
theorem view_eq_iff (s t : Spec) (b c : Blueprint) :
    (s.toNode = t.toNode ↔ s = t) ∧
      (b.domain = c.domain ∧ b.toNode = c.toNode ↔ b = c) := by
  refine ⟨Spec.toNode_injective.eq_iff, fun ⟨hdomain, hview⟩ => ?_, fun h => h ▸ ⟨rfl, rfl⟩⟩
  have hlayers := layers_eq_of_toNode hview
  cases b
  cases c
  congr 1

end Blueprint

end Scaffold
