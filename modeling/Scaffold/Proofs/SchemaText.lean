import Scaffold.SchemaText
import Scaffold.Proofs.Fallible
import Scaffold.Proofs.Node

/-!
# Texts give trees in order

Whatever the format of a text, the tree that it is read as has all its maps in order: a map
of a text is put together with `Node.ofEntries`, and the few other maps have one entry or
none.

The readers of the formats recurse in three ways, over a bound on the text, over the depth of
the nesting and over the values themselves, and each gets its own induction.

## Main results

* `Json.ordered_of_readValue`, `Yaml.ordered_of_resolve`, `Toml.Value.ordered_toNode` — the
  three formats.
* `Schema.ordered_of_ofText` — **the domains of a schema text are in order.**
-/

namespace Scaffold

/-! ### JSON -/

namespace Json

theorem ordered_of_readNumber {text rest : List Char} {node : Node}
    (h : readNumber text = some (node, rest)) : node.Ordered := by
  unfold readNumber at h
  split at h
  split at h
  · cases h
  · obtain ⟨⟨fraction, rest⟩, -, h⟩ := Option.bind_eq_some_iff.mp h
    obtain ⟨⟨exponent, rest⟩, -, h⟩ := Option.bind_eq_some_iff.mp h
    dsimp only at h
    split at h
    · cases h
    · obtain ⟨rfl, -⟩ := Prod.mk.inj (Option.some.inj h)
      exact .number _

/-- A value is in order if the items and the entries that it holds are. -/
private theorem ordered_of_readValue_step {fuel : Nat}
    (hitems : ∀ bound, fuel = bound + 1 → ∀ depth text items rest,
      readItems bound depth text = some (items, rest) → ∀ n ∈ items, n.Ordered)
    (hentries : ∀ bound, fuel = bound + 1 → ∀ depth text entries rest,
      readEntries bound depth text = some (entries, rest) → ∀ e ∈ entries, e.2.Ordered)
    {depth : Nat} {text rest : List Char} {node : Node}
    (h : readValue fuel depth text = some (node, rest)) : node.Ordered := by
  unfold readValue at h
  split at h
  · obtain ⟨rfl, -⟩ := Prod.mk.inj (Option.some.inj h)
    exact .null
  · obtain ⟨rfl, -⟩ := Prod.mk.inj (Option.some.inj h)
    exact .bool true
  · obtain ⟨rfl, -⟩ := Prod.mk.inj (Option.some.inj h)
    exact .bool false
  · obtain ⟨⟨s, rest⟩, -, h⟩ := Option.bind_eq_some_iff.mp h
    obtain ⟨rfl, -⟩ := Prod.mk.inj (Option.some.inj h)
    exact .string s
  · split at h
    · obtain ⟨rfl, -⟩ := Prod.mk.inj (Option.some.inj h)
      exact .list (List.forall_mem_nil _)
    · obtain ⟨⟨items, rest⟩, hread, h⟩ := Option.bind_eq_some_iff.mp h
      obtain ⟨rfl, -⟩ := Prod.mk.inj (Option.some.inj h)
      exact .list (hitems _ rfl _ _ _ _ hread)
  · split at h
    · obtain ⟨rfl, -⟩ := Prod.mk.inj (Option.some.inj h)
      exact .map .nil (List.forall_mem_nil _)
    · obtain ⟨⟨entries, rest⟩, hread, h⟩ := Option.bind_eq_some_iff.mp h
      obtain ⟨rfl, -⟩ := Prod.mk.inj (Option.some.inj h)
      exact .ofEntries (hentries _ rfl _ _ _ _ hread)
  · exact ordered_of_readNumber h

/-- The three readers together, by induction on the bound. -/
private theorem ordered_of_readers (fuel : Nat) :
    (∀ depth text node rest, readValue fuel depth text = some (node, rest) → node.Ordered) ∧
    (∀ depth text items rest, readItems fuel depth text = some (items, rest) →
      ∀ n ∈ items, n.Ordered) ∧
    ∀ depth text entries rest, readEntries fuel depth text = some (entries, rest) →
      ∀ e ∈ entries, e.2.Ordered := by
  induction fuel with
  | zero =>
    -- without fuel no list and no map is read
    have hnone (bound : Nat) : 0 ≠ bound + 1 := (Nat.succ_ne_zero bound).symm
    refine ⟨fun _ _ _ _ => ordered_of_readValue_step (fun bound h => absurd h (hnone bound))
      fun bound h => absurd h (hnone bound), fun _ _ _ _ h => ?_, fun _ _ _ _ h => ?_⟩
    · cases h
    · cases h
  | succ fuel ih =>
    obtain ⟨hvalue, hitems, hentries⟩ := ih
    refine ⟨fun _ _ _ _ => ordered_of_readValue_step ?_ ?_, fun depth text items rest h => ?_,
      fun depth text entries rest h => ?_⟩
    · rintro _ ⟨⟩
      exact hitems
    · rintro _ ⟨⟩
      exact hentries
    · unfold readItems at h
      obtain ⟨⟨item, rest⟩, hitem, h⟩ := Option.bind_eq_some_iff.mp h
      dsimp only at h
      split at h
      · obtain ⟨⟨others, rest⟩, hothers, h⟩ := Option.bind_eq_some_iff.mp h
        obtain ⟨rfl, -⟩ := Prod.mk.inj (Option.some.inj h)
        exact List.forall_mem_cons.mpr ⟨hvalue _ _ _ _ hitem, hitems _ _ _ _ hothers⟩
      · obtain ⟨rfl, -⟩ := Prod.mk.inj (Option.some.inj h)
        exact List.forall_mem_singleton.mpr (hvalue _ _ _ _ hitem)
      · cases h
    · unfold readEntries at h
      split at h
      · next hfuel =>
        obtain rfl := Nat.succ.inj hfuel
        obtain ⟨⟨key, rest⟩, -, h⟩ := Option.bind_eq_some_iff.mp h
        dsimp only at h
        split at h
        · obtain ⟨⟨value, rest⟩, hread, h⟩ := Option.bind_eq_some_iff.mp h
          have hvalue := hvalue _ _ _ _ hread
          dsimp only at h
          split at h
          · obtain ⟨⟨others, rest⟩, hothers, h⟩ := Option.bind_eq_some_iff.mp h
            obtain ⟨rfl, -⟩ := Prod.mk.inj (Option.some.inj h)
            exact List.forall_mem_cons.mpr ⟨hvalue, hentries _ _ _ _ hothers⟩
          · obtain ⟨rfl, -⟩ := Prod.mk.inj (Option.some.inj h)
            exact List.forall_mem_singleton.mpr hvalue
          · cases h
        · cases h
      · cases h

/-- **A value of JSON is in order.** -/
theorem ordered_of_readValue {fuel depth : Nat} {text rest : List Char} {node : Node}
    (h : readValue fuel depth text = some (node, rest)) : node.Ordered :=
  (ordered_of_readers fuel).1 depth text node rest h

theorem ordered_of_read {text : String} {node : Node} (h : read text = some node) :
    node.Ordered := by
  obtain ⟨⟨read, rest⟩, hread, h⟩ := Option.bind_eq_some_iff.mp h
  dsimp only at h
  split at h
  · obtain rfl := Option.some.inj h
    exact ordered_of_readValue hread
  · cases h

end Json

/-! ### YAML -/

namespace Yaml

theorem Resolve.bind_eq_some_iff {α β : Type} {x : Resolve α} {f : α → Resolve β} {n n' : Nat}
    {b : β} : (x >>= f).run n = some (b, n') ↔
      ∃ a m, x.run n = some (a, m) ∧ (f a).run m = some (b, n') := by
  rw [StateT.run_bind, Option.bind_eq_bind, Option.bind_eq_some_iff, Prod.exists]

/-- What a walk answers comes from the things on the list. -/
theorem Resolve.exists_of_mapM {α β : Type} {f : α → Resolve β} {l : List α} {out : List β}
    {n n' : Nat} (h : (l.mapM f).run n = some (out, n')) :
    ∀ b ∈ out, ∃ a ∈ l, ∃ m m', (f a).run m = some (b, m') := by
  induction l generalizing n n' out with
  | nil =>
    obtain ⟨rfl, -⟩ := Prod.mk.inj (Option.some.inj h)
    exact List.forall_mem_nil _
  | cons a l ih =>
    rw [List.mapM_cons, Resolve.bind_eq_some_iff] at h
    obtain ⟨b, m, hb, h⟩ := h
    obtain ⟨rest, m', hrest, h⟩ := Resolve.bind_eq_some_iff.mp h
    obtain ⟨rfl, -⟩ := Prod.mk.inj (Option.some.inj h)
    refine List.forall_mem_cons.mpr ⟨⟨a, List.mem_cons_self, n, m, hb⟩, fun b' hb' => ?_⟩
    obtain ⟨a', ha', hrun⟩ := ih hrest b' hb'
    exact ⟨a', List.mem_cons_of_mem a ha', hrun⟩

theorem ordered_of_wholeNode? {text : String} {node : Node}
    (h : wholeNode? text = some (some node)) : node.Ordered := by
  unfold wholeNode? at h
  split at h
  · cases h
  · split at h
    · obtain rfl := Option.some.inj (Option.some.inj h)
      exact .number text
    · split at h <;> cases h

theorem ordered_of_floatNode? {text : String} {node : Node} (h : floatNode? text = some node) :
    node.Ordered := by
  unfold floatNode? at h
  split at h
  · obtain rfl := Option.some.inj h
    exact .null
  · split at h
    · split at h
      · cases h
      · obtain rfl := Option.some.inj h
        exact .number text
    · cases h

theorem ordered_of_plainNode {text : String} {node : Node} (h : plainNode text = some node) :
    node.Ordered := by
  unfold plainNode at h
  split at h
  · obtain rfl := Option.some.inj h
    exact .null
  · split at h
    · obtain rfl := Option.some.inj h
      exact .bool _
    · split at h
      · next hwhole =>
        rw [h] at hwhole
        exact ordered_of_wholeNode? hwhole
      · split at h
        · obtain rfl := Option.some.inj h
          exact .string text
        · obtain rfl := Option.some.inj h
          cases hfloat : floatNode? text with
          | none => exact .string text
          | some node => exact ordered_of_floatNode? hfloat

/-- **A scalar of YAML is in order.** -/
theorem ordered_of_scalarNode {tag : Option Tag} {plain : Bool} {text : String} {node : Node}
    (h : scalarNode tag plain text = some node) : node.Ordered := by
  have htext {node : Node} (h : some (Node.string text) = some node) : node.Ordered := by
    obtain rfl := Option.some.inj h
    exact .string text
  unfold scalarNode at h
  split at h
  · split at h
    · exact ordered_of_plainNode h
    · exact htext h
  · split at h
    · obtain ⟨b, -, rfl⟩ := Option.map_eq_some_iff.mp h
      exact .bool b
    split at h
    · exact ordered_of_wholeNode? (Option.join_eq_some_iff.mp h)
    split at h
    · exact ordered_of_floatNode? h
    split at h
    · split at h
      · obtain rfl := Option.some.inj h
        exact .null
      · cases h
    split at h
    · cases h
    split at h
    · exact ordered_of_plainNode h
    · exact htext h

/-- **A tree of YAML means a tree in order**, by induction on the depth. -/
theorem ordered_of_resolve {d : Document} {depth : Nat} {t : Tree} {node : Node} {n n' : Nat}
    (h : (resolve d depth t).run n = some (node, n')) : node.Ordered := by
  have hscalar {tag : Option Tag} {plain : Bool} {text : String} {node : Node} {m m' : Nat}
      (h : ((scalarNode tag plain text : Option Node) : Resolve Node).run m = some (node, m')) :
      node.Ordered := by
    obtain ⟨node, hnode, h⟩ := Option.bind_eq_some_iff.mp h
    obtain ⟨rfl, -⟩ := Prod.mk.inj (Option.some.inj h)
    exact ordered_of_scalarNode hnode
  induction depth generalizing t node n n' with
  | zero =>
    unfold resolve at h
    obtain ⟨t, m, -, h⟩ := Resolve.bind_eq_some_iff.mp h
    split at h
    · exact hscalar h
    · cases h
  | succ depth ih =>
    unfold resolve at h
    -- an alias is followed first, and it is the tree it leads to that is resolved
    obtain ⟨t, m, -, h⟩ := Resolve.bind_eq_some_iff.mp h
    split at h
    · exact hscalar h
    · split at h
      · cases h
      · obtain ⟨items, m', hitems, h⟩ := Resolve.bind_eq_some_iff.mp h
        obtain ⟨rfl, -⟩ := Prod.mk.inj (Option.some.inj h)
        refine .list fun item hitem => ?_
        obtain ⟨t', -, k, k', hrun⟩ := Resolve.exists_of_mapM hitems item hitem
        exact ih hrun
    · split at h
      · cases h
      · obtain ⟨entries, m', hentries, h⟩ := Resolve.bind_eq_some_iff.mp h
        obtain ⟨rfl, -⟩ := Prod.mk.inj (Option.some.inj h)
        refine .ofEntries fun e he => ?_
        obtain ⟨_, -, k, k', hrun⟩ := Resolve.exists_of_mapM hentries e he
        obtain ⟨key, l, -, hrun⟩ := Resolve.bind_eq_some_iff.mp hrun
        obtain ⟨value, l', hvalue, hrun⟩ := Resolve.bind_eq_some_iff.mp hrun
        obtain ⟨rfl, -⟩ := Prod.mk.inj (Option.some.inj hrun)
        exact ih hvalue
    · cases h

theorem ordered_of_read {text : String} {node : Node} (h : read text = some node) :
    node.Ordered := by
  obtain ⟨tokens, -, h⟩ := Option.bind_eq_some_iff.mp h
  obtain ⟨d, -, h⟩ := Option.bind_eq_some_iff.mp h
  unfold Document.toNode? at h
  split at h
  · obtain ⟨⟨_, n⟩, hrun, rfl⟩ := Option.map_eq_some_iff.mp h
    exact ordered_of_resolve hrun
  · obtain rfl := Option.some.inj h
    exact .null

end Yaml

/-! ### TOML -/

namespace Toml.Value

mutual

theorem ordered_toNode (v : Value) : v.toNode.Ordered := by
  cases v with
  | string text => exact .string text
  | number literal => exact .number literal
  | noNumber => exact .null
  | boolean value => exact .bool value
  | moment text =>
    exact .map (List.pairwise_singleton _ _) (List.forall_mem_singleton.mpr (.string text))
  | array items => exact .list (ordered_itemNodes items)
  | table entries => exact .ofEntries (ordered_entryNodes entries)

theorem ordered_itemNodes (items : List Value) : ∀ n ∈ itemNodes items, n.Ordered := by
  cases items with
  | nil => exact List.forall_mem_nil _
  | cons v rest => exact List.forall_mem_cons.mpr ⟨ordered_toNode v, ordered_itemNodes rest⟩

theorem ordered_entryNodes (entries : List (String × Value)) :
    ∀ e ∈ entryNodes entries, e.2.Ordered := by
  cases entries with
  | nil => exact List.forall_mem_nil _
  | cons e rest =>
    obtain ⟨key, v⟩ := e
    exact List.forall_mem_cons.mpr ⟨ordered_toNode v, ordered_entryNodes rest⟩

end

end Toml.Value

/-! ### Schemas -/

/-- **A tree that is read from a text is in order.** -/
theorem SchemaFormat.ordered_of_read {format : SchemaFormat} {text : String} {node : Node}
    (h : format.read text = some node) : node.Ordered := by
  cases format with
  | yaml => exact Yaml.ordered_of_read h
  | json => exact Json.ordered_of_read h
  | toml =>
    obtain ⟨table, -, rfl⟩ := Option.map_eq_some_iff.mp h
    exact Toml.Value.ordered_toNode _

theorem Schema.ordered_of_ofNode {node : Node} (hnode : node.Ordered) {s : Schema}
    (h : ofNode node = .ok s) {d : Domain} (hd : d ∈ s.domains) : d.Ordered := by
  unfold ofNode at h
  split at h
  · obtain ⟨domains, hdomains, h⟩ := Except.bind_eq_ok_iff.mp h
    obtain rfl := Except.ok.inj h
    obtain ⟨⟨name, sections⟩, hmem, hdomain⟩ := Except.exists_of_mapM_eq_ok hdomains hd
    have hsections : sections.Ordered := hnode.of_mem hmem
    dsimp only at hdomain
    unfold readDomain at hdomain
    split at hdomain
    · obtain rfl := Except.ok.inj hdomain
      exact .ofEntries fun _ he => hsections.of_mem he
    · cases hdomain
  · cases h

/-- **The domains of a schema text are in order.** -/
theorem Schema.ordered_of_ofText {format : SchemaFormat} {text : String} {s : Schema}
    (h : ofText format text = .ok s) {d : Domain} (hd : d ∈ s.domains) : d.Ordered := by
  unfold ofText at h
  split at h
  · cases h
  · next node hread =>
    split at h
    · next s hs =>
      obtain rfl := Except.ok.inj h
      exact ordered_of_ofNode (SchemaFormat.ordered_of_read hread) hs hd
    · cases h

end Scaffold
