import Scaffold.Proofs.Fallible
import Scaffold.Proofs.Node
import Scaffold.Proofs.Spec.Grammar

/-!
# Reading specs

The reader accepts a node exactly if the node denotes something, and answers what it
denotes: for arguments, methods, events, specs and sections.

## Main results

* `Argument.ofNode_eq_ok_iff`, `Method.ofNode_eq_ok_iff`, `readMethods_eq_ok_iff`,
  `readEvents_eq_ok_iff` — the parts of a spec.
* `Spec.ofEntries_eq_keys` — a map of keys is read key by key, in a fixed order.
* `Spec.ofNode_eq_ok_iff`, `Section.ofNode_eq_ok_iff` — specs and sections.
-/

namespace Scaffold

open Node

theorem refuse_ne_ok {α : Type} {owner : ArtifactType} {name : String} {flaw : SpecFlaw} {a : α} :
    refuse owner name flaw ≠ .ok a := Except.error_ne_ok _ a

theorem checkName_eq_ok_iff {owner : ArtifactType} {name : String} {u : Unit} :
    checkName owner name = .ok u ↔ Name.isValid name = true := by
  unfold checkName
  split
  · next h => exact iff_of_true rfl h
  · next h => exact iff_of_false refuse_ne_ok h

theorem expectString_eq_ok_iff {owner : ArtifactType} {name key s : String} {node : Node} :
    expectString owner name key node = .ok s ↔ node = .string s := by
  cases node with
  | string s' =>
    rw [Node.string.injEq]
    exact ⟨Except.ok.inj, fun h => h ▸ rfl⟩
  | _ => exact iff_of_false refuse_ne_ok nofun

theorem expectList_eq_ok_iff {owner : ArtifactType} {name key : String} {items : List Node}
    {node : Node} : expectList owner name key node = .ok items ↔ node = .list items := by
  cases node with
  | list items' =>
    rw [Node.list.injEq]
    exact ⟨Except.ok.inj, fun h => h ▸ rfl⟩
  | _ => exact iff_of_false refuse_ne_ok nofun

/-! ### Arguments -/

theorem hasDoubleColon_iff {cs : List Char} : hasDoubleColon cs = true ↔ [':', ':'] <:+: cs := by
  induction cs using hasDoubleColon.induct with
  | case1 rest => exact iff_of_true rfl ⟨[], rest, rfl⟩
  | case2 c rest hne ih =>
    rw [hasDoubleColon.eq_2 c rest hne, ih, List.infix_cons_iff]
    refine (or_iff_right ?_).symm
    rintro ⟨after, hafter⟩
    obtain ⟨rfl, rfl⟩ := List.cons.inj hafter
    exact hne after rfl rfl
  | case3 => exact iff_of_false nofun fun h => List.cons_ne_nil _ _ (List.infix_nil.mp h)

theorem isExternalName_iff {s : String} : isExternalName s = true ↔ NamesExternal s := by
  rw [isExternalName, Bool.or_eq_true, hasDoubleColon_iff, List.contains_iff_mem, NamesExternal]

theorem Scalar.ofTag?_eq_some_iff {word : String} {s : Scalar} :
    Scalar.ofTag? word = some s ↔ word = s.tag := by
  constructor
  · intro h
    unfold ofTag? at h
    have found := List.find?_some h
    exact (beq_iff_eq.mp found).symm
  · rintro rfl
    exact ofTag?_tag s

theorem ArtifactType.ofTag_eq_ok_iff {word : String} {t : ArtifactType} :
    ofTag word = .ok t ↔ word = t.tag := by
  rw [← ofTag?_eq_some_iff, ofTag]
  cases ofTag? word with
  | none => exact iff_of_false (Except.error_ne_ok _ t) nofun
  | some t' => rw [Option.some.injEq, Except.ok.injEq]

section Parts

variable {owner : ArtifactType} {name : String}

theorem scalarArgument_eq_ok_iff {argument : String} {value : Node} {a : Argument} :
    scalarArgument owner name argument value = .ok a
      ↔ ∃ s : Scalar, value = .string s.tag ∧ a = .scalar argument s := by
  cases value with
  | string word =>
    rw [scalarArgument]
    cases h : Scalar.ofTag? word with
    | none =>
      refine iff_of_false refuse_ne_ok ?_
      rintro ⟨s, hs, -⟩
      rw [Scalar.ofTag?_eq_some_iff.mpr (Node.string.inj hs)] at h
      cases h
    | some s =>
      constructor
      · intro ha
        exact ⟨s, congrArg _ (Scalar.ofTag?_eq_some_iff.mp h), (Except.ok.inj ha).symm⟩
      · rintro ⟨s', hs', rfl⟩
        rw [Scalar.ofTag?_eq_some_iff.mpr (Node.string.inj hs')] at h
        rw [Option.some.inj h]
  | _ =>
    refine iff_of_false refuse_ne_ok ?_
    rintro ⟨s, hs, -⟩
    cases hs

theorem artifactArgument_eq_ok_iff {target type : Node} {interface : Bool} {a : Argument} :
    artifactArgument owner name target type interface = .ok a
      ↔ ∃ (artifact : String) (t : ArtifactType), target = .string artifact ∧
        type = .string t.tag ∧ a = .artifact artifact t interface := by
  rw [artifactArgument, Except.bind_eq_ok_iff]
  refine exists_congr fun artifact => ?_
  rw [expectString_eq_ok_iff, Except.bind_eq_ok_iff]
  constructor
  · rintro ⟨htarget, word, hword, h⟩
    rw [expectString_eq_ok_iff] at hword
    split at h
    · next t ht =>
      rw [ArtifactType.ofTag_eq_ok_iff] at ht
      exact ⟨t, htarget, ht ▸ hword, (Except.ok.inj h).symm⟩
    · exact absurd h refuse_ne_ok
  · rintro ⟨t, htarget, htype, rfl⟩
    refine ⟨htarget, t.tag, expectString_eq_ok_iff.mpr htype, ?_⟩
    rw [ArtifactType.ofTag_eq_ok_iff.mpr rfl]

theorem asksInterface_iff {field : Option Node} :
    asksInterface field = true ↔ field = some (.bool true) := by
  unfold asksInterface
  split
  · rw [Option.some.injEq, Node.bool.injEq]
  · next h =>
    refine iff_of_false (by decide) ?_
    rintro rfl
    exact h true rfl

/-- A map of one entry has no two keys. -/
private theorem not_two_fields {key key' : String} (h : key ≠ key') {e : String × Node}
    {a b : Node} (ha : field? key [e] = some a) (hb : field? key' [e] = some b) : False := by
  have hkey := List.mem_singleton.mp (Dict.mem_of_lookup ha)
  have hkey' := List.mem_singleton.mp (Dict.mem_of_lookup hb)
  exact h (congrArg Prod.fst (hkey.trans hkey'.symm))

private theorem denotesArgument_string_iff {s : String} {a : Argument} :
    (Node.string s).DenotesArgument a
      ↔ (if isExternalName s then .external s else .valueObject s) = a := by
  split
  · next h =>
    rw [isExternalName_iff] at h
    constructor
    · rintro (_ | hnot)
      · rfl
      · exact absurd h hnot
    · rintro rfl
      exact .external h
  · next h =>
    rw [isExternalName_iff] at h
    constructor
    · rintro (hs | _)
      · exact absurd hs h
      · rfl
    · rintro rfl
      exact .valueObject h

/-- A map with a type and a name denotes an artifact and nothing else. -/
private theorem denotesArgument_artifact_iff {entries : List (String × Node)} {target type : Node}
    {a : Argument} (htype : field? "type" entries = some type)
    (htarget : field? "name" entries = some target) :
    (Node.map entries).DenotesArgument a
      ↔ ∃ (artifact : String) (t : ArtifactType), target = .string artifact ∧
        type = .string t.tag ∧
        a = .artifact artifact t (asksInterface (field? "interface" entries)) := by
  constructor
  · intro h
    cases h with
    | @artifact _ artifact t interface hname ht hinterface =>
      rw [hname] at htarget
      rw [ht] at htype
      refine ⟨artifact, t, (Option.some.inj htarget).symm, (Option.some.inj htype).symm, ?_⟩
      rw [← asksInterface_iff, ← Bool.eq_iff_iff] at hinterface
      rw [hinterface]
    | scalar => exact (not_two_fields (by decide) htype htarget).elim
  · rintro ⟨artifact, t, rfl, rfl, rfl⟩
    exact .artifact htarget htype asksInterface_iff

/-- A map of one entry denotes a scalar and nothing else. -/
private theorem denotesArgument_singleton_iff {argument : String} {value : Node} {a : Argument} :
    (Node.map [(argument, value)]).DenotesArgument a
      ↔ ∃ s : Scalar, value = .string s.tag ∧ a = .scalar argument s := by
  constructor
  · intro h
    cases h with
    | artifact hname htype => exact (not_two_fields (by decide) hname htype).elim
    | scalar => exact ⟨_, rfl, rfl⟩
  · rintro ⟨s, rfl, rfl⟩
    exact .scalar argument s

/-- **An argument is read** exactly if the node denotes one. -/
theorem Argument.ofNode_eq_ok_iff {node : Node} {a : Argument} :
    Argument.ofNode owner name node = .ok a ↔ node.DenotesArgument a := by
  cases node with
  | string s => rw [Argument.ofNode, Except.ok.injEq, denotesArgument_string_iff]
  | map entries =>
    unfold Argument.ofNode
    dsimp only
    split
    · next type target htype htarget =>
      rw [artifactArgument_eq_ok_iff, denotesArgument_artifact_iff htype htarget]
    · next hfields =>
      split
      · next argument value => rw [scalarArgument_eq_ok_iff, denotesArgument_singleton_iff]
      · next hone =>
        refine iff_of_false refuse_ne_ok fun h => ?_
        cases h with
        | artifact hname htype => exact hfields _ _ htype hname
        | scalar => exact hone _ _ rfl
  | _ => exact iff_of_false refuse_ne_ok nofun

theorem readArguments_eq_ok_iff {items : List Node} {args : List Argument} :
    readArguments owner name items = .ok args ↔ DenotesArguments (.list items) args := by
  rw [readArguments, Except.mapM_eq_ok_iff fun _ _ _ => Argument.ofNode_eq_ok_iff]
  constructor
  · exact .items
  · rintro ⟨h⟩
    exact h

/-! ### Maps and lists of names -/

/-- **A map is read** entry by entry, and its keys stay. -/
theorem ofList_mapM_eq_ok_iff {α : Type} {f : String × Node → Except SpecFault (String × α)}
    {P : String → Node → α → Prop} {entries : List (String × Node)}
    (hordered : (Node.map entries).Ordered)
    (hf : ∀ e ∈ entries, ∀ x, f e = .ok x ↔ x.1 = e.1 ∧ P e.1 e.2 x.2) {d : Dict String α} :
    (entries.mapM f >>= fun list => pure (Dict.ofList list)) = .ok d
      ↔ DenotesMap P (.map entries) d := by
  rw [Except.bind_eq_ok_iff]
  simp only [Except.mapM_eq_ok_iff hf]
  constructor
  · rintro ⟨list, hlist, h⟩
    obtain rfl := Except.ok.inj h
    have hkeys : list.map (·.1) = entries.map (·.1) := by
      clear hordered hf h
      induction hlist with
      | nil => rfl
      | cons hx _ ih => rw [List.map_cons, List.map_cons, hx.1, ih]
    -- the keys stand in order as they did before
    have hlist_ordered : list.Pairwise fun a b => compare a.1 b.1 = .lt := by
      rw [← List.pairwise_map (f := Prod.fst) (R := fun a b => compare a b = .lt), hkeys,
        List.pairwise_map]
      exact hordered.pairwise
    rw [Dict.ofList_entries ⟨list, hlist_ordered⟩]
    exact .entries hlist
  · rintro ⟨h⟩
    exact ⟨d.entries, h, congrArg _ (Dict.ofList_entries d)⟩

/-- **A list of names is read** as the entries under these names. -/
theorem ofList_mapM_names_eq_ok_iff {α : Type} {bare : α} {valid : String → Prop}
    {f : Node → Except SpecFault (String × α)}
    (hf : ∀ n x, f n = .ok x ↔ ∃ name, valid name ∧ n = .string name ∧ x = (name, bare))
    {items : List Node} {d : Dict String α} :
    (items.mapM f >>= fun list => pure (Dict.ofList list)) = .ok d
      ↔ DenotesNames bare (.list items) d ∧ ∀ name, d.contains name = true → valid name := by
  have hget (names : List String) (name : String) :
      (Dict.ofList (names.map fun n => (n, bare))).get? name
        = if name ∈ names then some bare else none := by
    split
    · next hmem =>
      have hcontains : (Dict.ofList (names.map fun n => (n, bare))).contains name = true :=
        Dict.contains_ofList_map.mpr ⟨name, hmem, rfl⟩
      obtain ⟨v, hv⟩ := Option.isSome_iff_exists.mp hcontains
      obtain ⟨_, -, -, rfl⟩ := Dict.of_get?_ofList_map hv
      exact hv
    · next hnot =>
      rw [Option.eq_none_iff_forall_ne_some]
      intro v hv
      obtain ⟨_, hmem, rfl, -⟩ := Dict.of_get?_ofList_map hv
      exact hnot hmem
  rw [Except.bind_eq_ok_iff]
  simp only [Except.mapM_eq_ok_iff fun n _ x => hf n x]
  constructor
  · rintro ⟨list, hlist, h⟩
    obtain rfl := Except.ok.inj h
    -- each node that is read is a string, so the names are told by the nodes
    obtain ⟨names, rfl, rfl, hvalid⟩ : ∃ names : List String, items = names.map .string ∧
        list = names.map (·, bare) ∧ ∀ name ∈ names, valid name := by
      clear h
      induction hlist with
      | nil => exact ⟨[], rfl, rfl, List.forall_mem_nil _⟩
      | cons hx _ ih =>
        obtain ⟨name, hname, rfl, rfl⟩ := hx
        obtain ⟨names, rfl, rfl, hvalid⟩ := ih
        exact ⟨name :: names, rfl, rfl, List.forall_mem_cons.mpr ⟨hname, hvalid⟩⟩
    refine ⟨.names (hget names), fun name hname => hvalid name ?_⟩
    rw [Dict.contains, hget] at hname
    by_contra hnot
    rw [if_neg hnot] at hname
    cases hname
  · rintro ⟨⟨hd⟩, hvalid⟩
    next names =>
    refine ⟨names.map (·, bare), ?_, congrArg _ (Dict.ext_get? fun name => ?_)⟩
    · rw [List.forall₂_map_left_iff, List.forall₂_map_right_iff, List.forall₂_same]
      intro name hname
      refine ⟨name, hvalid name ?_, rfl, rfl⟩
      rw [Dict.contains, hd, if_pos hname]
      rfl
    · rw [hget, hd]

/-! ### Methods and events -/

theorem methodName_eq_ok_iff {node : Node} {x : String × Method} :
    methodName owner name node = .ok x
      ↔ ∃ method, True ∧ node = .string method ∧ x = (method, {}) := by
  cases node with
  | string method =>
    rw [methodName, Except.ok.injEq]
    constructor
    · rintro rfl
      exact ⟨method, trivial, rfl, rfl⟩
    · rintro ⟨_, -, h, rfl⟩
      rw [Node.string.inj h]
  | _ =>
    refine iff_of_false refuse_ne_ok ?_
    rintro ⟨_, -, h, -⟩
    cases h

theorem readMethodNames_eq_ok_iff {items : List Node} {methods : Dict String Method} :
    readMethodNames owner name items = .ok methods ↔ DenotesNames {} (.list items) methods := by
  refine (ofList_mapM_names_eq_ok_iff fun _ _ => methodName_eq_ok_iff).trans ?_
  exact and_iff_left fun _ _ => trivial

/-- Read a key that may be left out. -/
def readOptional {α : Type} (read : Node → Except SpecFault α) (default : α) :
    Option Node → Except SpecFault α
  | some node => read node
  | none => .ok default

theorem readOptional_eq_ok_iff {α : Type} {read : Node → Except SpecFault α}
    {P : Node → α → Prop} {default : α} {field : Option Node}
    (hread : ∀ node, field = some node → ∀ value, read node = .ok value ↔ P node value)
    {value : α} :
    readOptional read default field = .ok value ↔ DenotesOptional P default field value := by
  cases field with
  | none =>
    constructor
    · rintro ⟨⟩
      exact .absent
    · rintro ⟨⟩
      rfl
  | some node =>
    refine (hread node rfl value).trans ⟨.present, ?_⟩
    rintro (_ | h)
    exact h

/-- The arguments under a key. -/
def readArgumentsField (owner : ArtifactType) (name key : String) (node : Node) :
    Except SpecFault (List Argument) :=
  expectList owner name key node >>= readArguments owner name

/-- The text under a key. -/
def readTextField (owner : ArtifactType) (name key : String) (node : Node) :
    Except SpecFault (Option String) :=
  expectString owner name key node >>= fun s => pure (some s)

theorem readArgumentsField_eq_ok_iff {key : String} {node : Node} {args : List Argument} :
    readArgumentsField owner name key node = .ok args ↔ DenotesArguments node args := by
  rw [readArgumentsField, Except.bind_eq_ok_iff]
  constructor
  · rintro ⟨items, hitems, hargs⟩
    rw [expectList_eq_ok_iff.mp hitems]
    exact readArguments_eq_ok_iff.mp hargs
  · rintro ⟨h⟩
    exact ⟨_, expectList_eq_ok_iff.mpr rfl, readArguments_eq_ok_iff.mpr (.items h)⟩

theorem readTextField_eq_ok_iff {key : String} {node : Node} {text : Option String} :
    readTextField owner name key node = .ok text ↔ DenotesText node text := by
  rw [readTextField, Except.bind_eq_ok_iff]
  constructor
  · rintro ⟨s, hs, h⟩
    rw [expectString_eq_ok_iff.mp hs, ← Except.ok.inj h]
    exact .text s
  · rintro ⟨s⟩
    exact ⟨s, expectString_eq_ok_iff.mpr rfl, rfl⟩

/-- **A method is read** exactly if the node denotes one. -/
theorem Method.ofNode_eq_ok_iff {method : String} {node : Node} {m : Method} :
    Method.ofNode owner name method node = .ok m ↔ node.DenotesMethod m := by
  cases node with
  | null =>
    constructor
    · rintro ⟨⟩
      exact .bare
    · rintro ⟨⟩
      rfl
  | list items =>
    rw [Method.ofNode, Except.bind_eq_ok_iff]
    constructor
    · rintro ⟨args, hargs, h⟩
      rw [← Except.ok.inj h]
      exact .args (readArguments_eq_ok_iff.mp hargs)
    · rintro (_ | hargs)
      exact ⟨_, readArguments_eq_ok_iff.mpr hargs, rfl⟩
  | map entries =>
    have hsplit : Method.ofNode owner name method (.map entries)
        = (readOptional (readArgumentsField owner name "args") [] (field? "args" entries) >>=
            fun args =>
          readOptional (readTextField owner name "returns") none (field? "returns" entries) >>=
            fun returns => pure { args, returns }) := by
      rw [Method.ofNode]
      cases field? "args" entries <;> cases field? "returns" entries <;>
        simp only [readOptional, readArgumentsField, readTextField, bind_assoc, pure_bind]
    rw [hsplit]
    simp only [Except.bind_eq_ok_iff,
      readOptional_eq_ok_iff fun _ _ _ => readArgumentsField_eq_ok_iff,
      readOptional_eq_ok_iff fun _ _ _ => readTextField_eq_ok_iff]
    constructor
    · rintro ⟨args, hargs, returns, hreturns, h⟩
      rw [← Except.ok.inj h]
      exact .full hargs hreturns
    · rintro (_ | _ | ⟨hargs, hreturns⟩)
      exact ⟨_, hargs, _, hreturns, rfl⟩
  | _ => exact iff_of_false refuse_ne_ok nofun

/-- **Methods are read** exactly if the node denotes them. -/
theorem readMethods_eq_ok_iff {node : Node} (hnode : node.Ordered)
    {methods : Dict String Method} :
    readMethods owner name node = .ok methods ↔ node.DenotesMethods methods := by
  cases node with
  | list items =>
    refine readMethodNames_eq_ok_iff.trans ⟨.names, ?_⟩
    rintro (h | h)
    · exact h
    · cases h
  | map entries =>
    refine (ofList_mapM_eq_ok_iff (P := fun _ => DenotesMethod) hnode fun e _ x => ?_).trans
      ⟨.full, ?_⟩
    · rw [Except.bind_eq_ok_iff]
      simp only [Method.ofNode_eq_ok_iff]
      constructor
      · rintro ⟨m, hm, h⟩
        rw [← Except.ok.inj h]
        exact ⟨rfl, hm⟩
      · rintro ⟨hkey, hm⟩
        exact ⟨x.2, hm, congrArg _ (Prod.ext hkey.symm rfl)⟩
    · rintro (h | h)
      · cases h
      · exact h
  | _ =>
    refine iff_of_false refuse_ne_ok ?_
    rintro (h | h)
    · cases h
    · cases h

theorem EventOutcome.ofNode_eq_ok_iff {event : String} {node : Node} {outcome : EventOutcome} :
    EventOutcome.ofNode owner name event node = .ok outcome ↔ node.DenotesOutcome outcome := by
  cases node with
  | null =>
    constructor
    · rintro ⟨⟩
      exact .bare
    · rintro ⟨⟩
      rfl
  | list items =>
    rw [EventOutcome.ofNode, Except.bind_eq_ok_iff]
    constructor
    · rintro ⟨args, hargs, h⟩
      rw [← Except.ok.inj h]
      exact .args (readArguments_eq_ok_iff.mp hargs)
    · rintro (_ | hargs)
      exact ⟨_, readArguments_eq_ok_iff.mpr hargs, rfl⟩
  | string command =>
    constructor
    · rintro ⟨⟩
      exact .next command
    · rintro ⟨⟩
      rfl
  | bool ends =>
    constructor
    · rintro ⟨⟩
      exact .terminal ends
    · rintro ⟨⟩
      rfl
  | _ => exact iff_of_false refuse_ne_ok nofun

/-- Entries are read under names that are checked first. -/
private theorem checked_eq_ok_iff {α : Type} {place : ArtifactType} {read : Except SpecFault α}
    {key : String} {x : String × α} :
    (checkName place key >>= fun _ => read >>= fun value => pure (key, value)) = .ok x
      ↔ x.1 = key ∧ Name.isValid key = true ∧ read = .ok x.2 := by
  rw [Except.bind_eq_ok_iff]
  simp only [checkName_eq_ok_iff, Except.bind_eq_ok_iff]
  constructor
  · rintro ⟨_, hvalid, value, hvalue, h⟩
    rw [← Except.ok.inj h]
    exact ⟨rfl, hvalid, hvalue⟩
  · rintro ⟨hkey, hvalid, hread⟩
    exact ⟨⟨⟩, hvalid, x.2, hread, congrArg _ (Prod.ext hkey.symm rfl)⟩

/-- **Events are read** exactly if the node denotes them. -/
theorem readEvents_eq_ok_iff {node : Node} (hnode : node.Ordered)
    {events : Dict String EventOutcome} :
    readEvents owner name node = .ok events ↔ node.DenotesEvents events := by
  cases node with
  | map entries =>
    refine ofList_mapM_eq_ok_iff hnode fun e _ x => ?_
    rw [readEvent, checked_eq_ok_iff, EventOutcome.ofNode_eq_ok_iff]
  | _ => exact iff_of_false refuse_ne_ok nofun

/-! ### Specs -/

/-- The keys that say something, in order. -/
def specKeys : List String :=
  ["args", "entity", "event", "events", "kind", "methods", "repository_interface", "returns",
    "type"]

/-- The spec with what one key says, if there is such a key. -/
def Spec.withField (owner : ArtifactType) (name : String) (field : String → Option Node)
    (spec : Spec) (key : String) : Except SpecFault Spec :=
  match field key with
  | some value => spec.withKey owner name key value
  | none => .ok spec

/-- **A map of keys is read key by key**, in a fixed order; other keys are passed over. -/
theorem Spec.ofEntries_eq_keys (d : Dict String Node) :
    Spec.ofEntries owner name d.entries
      = specKeys.foldlM (Spec.withField owner name d.get?) {} := by
  have hordered : specKeys.Pairwise fun a b => compare a b = .lt := by decide +kernel
  have hother (spec : Spec) (key : String) (value : Node) (hkey : key ∉ specKeys) :
      spec.withKey owner name key value = .ok spec := by
    simp only [specKeys, List.mem_cons, List.not_mem_nil, or_false, not_or] at hkey
    simp [Spec.withKey, hkey]
  rw [Spec.ofEntries,
    Dict.foldlM_entries (f := fun spec entry => Spec.withKey owner name spec entry.1 entry.2)
      hordered hother]
  congr 1
  funext spec key
  rw [Spec.withField]
  cases d.get? key <;> rfl

/-- A key that gives one part of a spec, which has the value `default` so far. -/
private theorem withField_eq_ok_iff {α : Type} {read : Node → Except SpecFault α}
    {P : Node → α → Prop} {field : String → Option Node} {spec out : Spec} {key : String}
    {default : α} {set : α → Spec} (hdefault : set default = spec)
    (hkey : ∀ node, spec.withKey owner name key node = (read node >>= fun a => pure (set a)))
    (hread : ∀ node, field key = some node → ∀ value, read node = .ok value ↔ P node value) :
    Spec.withField owner name field spec key = .ok out
      ↔ ∃ value, DenotesOptional P default (field key) value ∧ set value = out := by
  unfold Spec.withField
  cases h : field key with
  | none =>
    dsimp only
    rw [Except.ok.injEq]
    constructor
    · rintro rfl
      exact ⟨default, .absent, hdefault⟩
    · rintro ⟨_, ⟨⟩, rfl⟩
      exact hdefault.symm
  | some node =>
    dsimp only
    rw [hkey, Except.bind_eq_ok_iff]
    constructor
    · rintro ⟨value, hvalue, hout⟩
      exact ⟨value, .present ((hread node h value).mp hvalue), Except.ok.inj hout⟩
    · rintro ⟨value, _ | hvalue, rfl⟩
      exact ⟨value, (hread node h value).mpr hvalue, rfl⟩

section Keys

variable {entries : List (String × Node)} {spec out : Spec}

theorem withField_args :
    Spec.withField owner name (field? · entries) spec "args" = .ok out
      ↔ ∃ args, DenotesOptional DenotesArguments spec.args (field? "args" entries) args ∧
        { spec with args } = out := by
  have hkey (node : Node) : spec.withKey owner name "args" node
      = (readArgumentsField owner name "args" node >>= fun args => pure { spec with args }) := by
    simp [Spec.withKey, readArgumentsField]
  exact withField_eq_ok_iff rfl hkey fun _ _ _ => readArgumentsField_eq_ok_iff

theorem withField_entity :
    Spec.withField owner name (field? · entries) spec "entity" = .ok out
      ↔ ∃ entity, DenotesOptional DenotesText spec.entity (field? "entity" entries) entity ∧
        { spec with entity } = out := by
  have hkey (node : Node) : spec.withKey owner name "entity" node
      = (readTextField owner name "entity" node >>= fun entity => pure { spec with entity }) := by
    simp [Spec.withKey, readTextField]
  exact withField_eq_ok_iff rfl hkey fun _ _ _ => readTextField_eq_ok_iff

/-- Both words for the kind. -/
theorem withField_kind {key : String} (hkind : key = "kind" ∨ key = "type") :
    Spec.withField owner name (field? · entries) spec key = .ok out
      ↔ ∃ kind, DenotesOptional DenotesText spec.kind (field? key entries) kind ∧
        { spec with kind } = out := by
  have hkey (node : Node) : spec.withKey owner name key node
      = (readTextField owner name key node >>= fun kind => pure { spec with kind }) := by
    rcases hkind with rfl | rfl <;> simp [Spec.withKey, readTextField]
  exact withField_eq_ok_iff rfl hkey fun _ _ _ => readTextField_eq_ok_iff

theorem withField_returns :
    Spec.withField owner name (field? · entries) spec "returns" = .ok out
      ↔ ∃ returns, DenotesOptional DenotesText spec.returns (field? "returns" entries) returns ∧
        { spec with returns } = out := by
  have hkey (node : Node) : spec.withKey owner name "returns" node
      = (readTextField owner name "returns" node >>= fun returns =>
          pure { spec with returns }) := by
    simp [Spec.withKey, readTextField]
  exact withField_eq_ok_iff rfl hkey fun _ _ _ => readTextField_eq_ok_iff

theorem withField_methods (hentries : (Node.map entries).Ordered) :
    Spec.withField owner name (field? · entries) spec "methods" = .ok out
      ↔ ∃ methods, DenotesOptional DenotesMethods spec.methods (field? "methods" entries) methods ∧
        { spec with methods } = out := by
  have hkey (node : Node) : spec.withKey owner name "methods" node
      = (readMethods owner name node >>= fun methods => pure { spec with methods }) := by
    simp [Spec.withKey]
  exact withField_eq_ok_iff rfl hkey fun _ hnode _ =>
    readMethods_eq_ok_iff (hentries.of_field hnode)

/-- Both words for the events. -/
theorem withField_events (hentries : (Node.map entries).Ordered) {key : String}
    (hevents : key = "event" ∨ key = "events") :
    Spec.withField owner name (field? · entries) spec key = .ok out
      ↔ ∃ events, DenotesOptional DenotesEvents spec.events (field? key entries) events ∧
        { spec with events } = out := by
  have hkey (node : Node) : spec.withKey owner name key node
      = (readEvents owner name node >>= fun events => pure { spec with events }) := by
    rcases hevents with rfl | rfl <;> simp [Spec.withKey]
  exact withField_eq_ok_iff rfl hkey fun _ hnode _ =>
    readEvents_eq_ok_iff (hentries.of_field hnode)

/-- A flag under a key. -/
def readFlagField (owner : ArtifactType) (name key : String) : Node → Except SpecFault Bool
  | .bool value => .ok value
  | other => refuse owner name (.wrongShape key .boolean other.kind)

theorem readFlagField_eq_ok_iff {key : String} {node : Node} {value : Bool} :
    readFlagField owner name key node = .ok value ↔ DenotesFlag node value := by
  cases node with
  | bool flag =>
    constructor
    · rintro ⟨⟩
      exact .flag _
    · rintro ⟨⟩
      rfl
  | _ => exact iff_of_false refuse_ne_ok nofun

theorem withField_repositoryInterface :
    Spec.withField owner name (field? · entries) spec "repository_interface" = .ok out
      ↔ ∃ repositoryInterface, DenotesOptional DenotesFlag spec.repositoryInterface
          (field? "repository_interface" entries) repositoryInterface ∧
        { spec with repositoryInterface } = out := by
  have hkey (node : Node) : spec.withKey owner name "repository_interface" node
      = (readFlagField owner name "repository_interface" node >>= fun repositoryInterface =>
          pure { spec with repositoryInterface }) := by
    cases node <;> simp [Spec.withKey, readFlagField, refuse]
  exact withField_eq_ok_iff rfl hkey fun _ _ _ => readFlagField_eq_ok_iff

end Keys

/-- **A map of keys is read** exactly if its keys denote a spec. -/
theorem Spec.ofEntries_eq_ok_iff {entries : List (String × Node)} {spec : Spec}
    (hentries : (Node.map entries).Ordered) :
    Spec.ofEntries owner name entries = .ok spec ↔ DenotesKeys entries spec := by
  have hsteps : Spec.ofEntries owner name entries
      = specKeys.foldlM (Spec.withField owner name (field? · entries)) {} :=
    Spec.ofEntries_eq_keys ⟨entries, hentries.pairwise⟩
  rw [hsteps]
  simp only [specKeys, List.foldlM_cons, List.foldlM_nil, Except.bind_eq_ok_iff, withField_args,
    withField_entity, withField_events hentries (.inl rfl), withField_events hentries (.inr rfl),
    withField_kind (.inl rfl), withField_kind (.inr rfl), withField_methods hentries,
    withField_repositoryInterface, withField_returns]
  constructor
  · rintro ⟨_, ⟨args, hargs, rfl⟩, _, ⟨entity, hentity, rfl⟩, _, ⟨first, hevent, rfl⟩,
      _, ⟨events, hevents, rfl⟩, _, ⟨word, hkind, rfl⟩, _, ⟨methods, hmethods, rfl⟩,
      _, ⟨repositoryInterface, hinterface, rfl⟩, _, ⟨returns, hreturns, rfl⟩,
      _, ⟨kind, htype, rfl⟩, h⟩
    rw [← Except.ok.inj h]
    exact ⟨hargs, hentity, ⟨first, hevent, hevents⟩, ⟨word, hkind, htype⟩, hmethods, hinterface,
      hreturns, rfl, rfl, rfl, rfl⟩
  · rintro ⟨hargs, hentity, ⟨first, hevent, hevents⟩, ⟨word, hkind, htype⟩, hmethods, hinterface,
      hreturns, hrepository, hproducts, hnext, hterminal⟩
    refine ⟨_, ⟨_, hargs, rfl⟩, _, ⟨_, hentity, rfl⟩, _, ⟨_, hevent, rfl⟩, _, ⟨_, hevents, rfl⟩,
      _, ⟨_, hkind, rfl⟩, _, ⟨_, hmethods, rfl⟩, _, ⟨_, hinterface, rfl⟩, _, ⟨_, hreturns, rfl⟩,
      _, ⟨_, htype, rfl⟩, ?_⟩
    obtain ⟨args, entity, kind, events, methods, products, repository, repositoryInterface,
      nextCommand, terminal, returns⟩ := spec
    dsimp only at hrepository hproducts hnext hterminal
    rw [hrepository, hproducts, hnext, hterminal]
    rfl

/-- **A spec is read** exactly if the node denotes one. -/
theorem Spec.ofNode_eq_ok_iff {node : Node} (hnode : node.Ordered) {spec : Spec} :
    Spec.ofNode owner name node = .ok spec ↔ node.DenotesSpec owner spec := by
  cases node with
  | null =>
    constructor
    · rintro ⟨⟩
      exact .bare
    · rintro ⟨⟩
      rfl
  | list items =>
    rw [Spec.ofNode]
    -- a list names the methods of an entity, and the arguments of anything else
    split
    · next howner =>
      rw [Except.bind_eq_ok_iff]
      constructor
      · rintro ⟨methods, hmethods, h⟩
        rw [← Except.ok.inj h]
        exact .methods howner (readMethodNames_eq_ok_iff.mp hmethods)
      · rintro (_ | ⟨-, hmethods⟩ | ⟨hother⟩)
        · exact ⟨_, readMethodNames_eq_ok_iff.mpr hmethods, rfl⟩
        · exact absurd howner hother
    · next howner =>
      rw [Except.bind_eq_ok_iff]
      constructor
      · rintro ⟨args, hargs, h⟩
        rw [← Except.ok.inj h]
        exact .args howner (readArguments_eq_ok_iff.mp hargs)
      · rintro (_ | ⟨hentity⟩ | ⟨-, hargs⟩)
        · exact absurd hentity howner
        · exact ⟨_, readArguments_eq_ok_iff.mpr hargs, rfl⟩
  | map entries =>
    refine (Spec.ofEntries_eq_ok_iff hnode).trans ⟨.keys, ?_⟩
    rintro ⟨⟩
    assumption
  | string word =>
    rw [Spec.ofNode]
    split
    · next howner =>
      constructor
      · rintro ⟨⟩
        exact .kind howner word
      · rintro ⟨⟩
        rfl
    · next howner =>
      refine iff_of_false refuse_ne_ok ?_
      rintro (_ | _ | _ | ⟨hvalueObject⟩)
      exact howner hvalueObject
  | _ => exact iff_of_false refuse_ne_ok nofun

/-! ### Sections -/

theorem readValueObjectName_eq_ok_iff {node : Node} {x : String × Spec} :
    readValueObjectName node = .ok x
      ↔ ∃ n, Name.isValid n = true ∧ node = .string n ∧ x = (n, {}) := by
  cases node with
  | string n =>
    rw [readValueObjectName, Except.bind_eq_ok_iff]
    simp only [checkName_eq_ok_iff]
    constructor
    · rintro ⟨_, hvalid, h⟩
      exact ⟨n, hvalid, rfl, (Except.ok.inj h).symm⟩
    · rintro ⟨_, hvalid, h, rfl⟩
      rw [Node.string.inj h]
      exact ⟨⟨⟩, hvalid, rfl⟩
  | _ =>
    refine iff_of_false refuse_ne_ok ?_
    rintro ⟨_, -, h, -⟩
    cases h

/-- **A section is read** exactly if the node denotes one. -/
theorem Section.ofNode_eq_ok_iff {node : Node} (hnode : node.Ordered) {s : Section} :
    Section.ofNode owner node = .ok s ↔ node.DenotesSection owner s := by
  cases node with
  | null =>
    constructor
    · rintro ⟨⟩
      exact .none
    · rintro (_ | ⟨⟨⟩⟩ | ⟨-, ⟨⟩⟩)
      rfl
  | map entries =>
    refine (ofList_mapM_eq_ok_iff (P := fun name node spec =>
      Name.isValid name = true ∧ node.DenotesSpec owner spec) hnode fun e he x => ?_).trans
      ⟨.entries, ?_⟩
    · rw [readEntry, checked_eq_ok_iff, Spec.ofNode_eq_ok_iff (hnode.of_mem he)]
    · rintro (_ | h | ⟨-, ⟨⟩⟩)
      exact h
  | list items =>
    rw [Section.ofNode]
    -- only value objects may be listed by their names
    split
    · next howner =>
      refine (ofList_mapM_names_eq_ok_iff fun _ _ => readValueObjectName_eq_ok_iff).trans
        ⟨fun h => .names howner h.1 h.2, ?_⟩
      rintro (_ | ⟨⟨⟩⟩ | ⟨-, h, hvalid⟩)
      exact ⟨h, hvalid⟩
    · next howner =>
      refine iff_of_false refuse_ne_ok ?_
      rintro (_ | ⟨⟨⟩⟩ | ⟨hvalueObject, -, -⟩)
      exact howner hvalueObject
  | _ =>
    refine iff_of_false refuse_ne_ok ?_
    rintro (_ | ⟨⟨⟩⟩ | ⟨-, ⟨⟩⟩)

end Parts

end Scaffold
